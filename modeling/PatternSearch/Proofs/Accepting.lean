import PatternSearch.Proofs.Reading

/-!
# Whatever is read is a spelling of its tree

A draft holds a text when the text writes what the draft consists of: the groups that are open, each
up to its parenthesis, the innermost alternation, and what is unfinished behind it (`Draft.Holds`).
Every token adds its spelling to what a draft holds. At the end of a text nothing but the alternation
is left, and the text is a spelling of it.

The same invariant says what the finished parts look like. An element may only be added where one may
stand, which is not behind a start anchor that anchors nothing (`Alternation.Accepts`).

Main statement: a text that is read is a spelling of the tree that it is read as, and the tree is well
formed (`writtenBy_of_parse_eq_ok`).
-/
namespace PatternSearch

namespace Node

/-! ## Spellings put together -/

/-- A text writes two rows one after another when it falls into their spellings. -/
theorem rowSpelledBy_append {nodes others : List Node} {text : Text} :
    RowSpelledBy (nodes ++ others) text ↔
      ∃ first second, RowSpelledBy nodes first ∧ RowSpelledBy others second ∧
        text = first ++ second := by
  induction nodes generalizing text with
  | nil =>
    constructor
    · intro spelled
      exact ⟨[], text, rfl, spelled, rfl⟩
    · rintro ⟨first, second, here, there, rfl⟩
      rw [show first = [] from here]
      exact there
  | cons node rest ih =>
    constructor
    · rintro ⟨front, behind, here, later, rfl⟩
      obtain ⟨first, second, row, others, rfl⟩ := ih.1 later
      exact ⟨front ++ first, second, ⟨front, first, here, row, rfl⟩, others,
        (List.append_assoc _ _ _).symm⟩
    · rintro ⟨_, second, ⟨front, first, here, row, rfl⟩, others, rfl⟩
      exact ⟨front, first ++ second, here, ih.2 ⟨first, second, row, others, rfl⟩,
        List.append_assoc _ _ _⟩

/-- A row of one element is written by the spellings of the element. -/
theorem rowSpelledBy_singleton {node : Node} {text : Text} :
    RowSpelledBy [node] text ↔ node.SpelledBy text := by
  constructor
  · rintro ⟨first, later, here, nothing, rfl⟩
    rw [show later = [] from nothing, List.append_nil]
    exact here
  · intro spelled
    exact ⟨text, [], spelled, rfl, (List.append_nil text).symm⟩

/-- A text writes branches with a bar behind each of them. -/
def EndedSpelledBy : List Node → Text → Prop
  | [], text => text = []
  | branch :: rest, text =>
    ∃ first later, branch.SpelledBy first ∧ EndedSpelledBy rest later ∧ text = first ++ '|' :: later

/-- A further branch is ended by a bar. -/
theorem endedSpelledBy_concat {branches : List Node} {branch : Node} {ended latest : Text}
    (before : EndedSpelledBy branches ended) (spelled : branch.SpelledBy latest) :
    EndedSpelledBy (branches ++ [branch]) (ended ++ latest ++ ['|']) := by
  induction branches generalizing ended with
  | nil =>
    rw [show ended = [] from before]
    exact ⟨latest, [], spelled, rfl, rfl⟩
  | cons first rest ih =>
    obtain ⟨front, behind, here, later, rfl⟩ := before
    refine ⟨front, behind ++ latest ++ ['|'], here, ih later, ?_⟩
    simp only [List.append_assoc, List.cons_append]

/-- Branches that are ended and a last one make an alternation. -/
theorem branchesSpelledBy_concat {branches : List Node} {branch : Node} {ended latest : Text}
    (before : EndedSpelledBy branches ended) (spelled : branch.SpelledBy latest) :
    BranchesSpelledBy (branches ++ [branch]) (ended ++ latest) := by
  induction branches generalizing ended with
  | nil =>
    rw [show ended = [] from before]
    exact spelled
  | cons first rest ih =>
    obtain ⟨front, behind, here, later, rfl⟩ := before
    have others := ih later
    rw [List.append_assoc, List.cons_append, List.cons_append]
    cases rest with
    | nil => exact ⟨front, behind ++ latest, here, others, rfl⟩
    | cons second rest => exact ⟨front, behind ++ latest, here, others, rfl⟩

/-- Members that are read and a further one are spelled by their texts together. -/
theorem allSpelledBy_concat {members : List SetMember} {member : SetMember} {inside text : Text}
    (before : SetMember.AllSpelledBy members inside) (spelled : member.SpelledBy text) :
    SetMember.AllSpelledBy (members ++ [member]) (inside ++ text) := by
  induction members generalizing inside with
  | nil =>
    rw [show inside = [] from before]
    exact ⟨text, [], spelled, rfl, (List.append_nil text).symm⟩
  | cons first rest ih =>
    obtain ⟨front, behind, here, later, rfl⟩ := before
    exact ⟨front, behind ++ text, here, ih later, List.append_assoc _ _ _⟩

/-- A further member may stand in a set that has begun. -/
theorem membersSpelledBy_concat {members : List SetMember} {member : SetMember} {negated : Bool}
    {inside text : Text} (before : MembersSpelledBy members negated inside) (begun : inside ≠ [])
    (spelled : member.SpelledBy text) :
    MembersSpelledBy (members ++ [member]) negated (inside ++ text) := by
  obtain ⟨written, all, polarity⟩ := before
  refine ⟨written ++ text, allSpelledBy_concat all spelled, ?_⟩
  cases negated with
  | true => exact congrArg (· ++ text) polarity
  | false =>
    obtain ⟨rfl, plain⟩ := polarity
    refine ⟨rfl, ?_⟩
    rwa [List.head?_append_of_ne_nil _ begun]

/-! ## Branches put together -/

/-- A branch may be continued behind every element but a start anchor that anchors nothing. -/
theorem row_concat {nodes : List Node} {node : Node} :
    Row (.sequence (nodes ++ [node])) ↔
      Row (.sequence nodes) ∧ nodes ≠ [.startAnchor (.sequence [])] ∧ Piece nodes.isEmpty node := by
  cases nodes with
  | nil =>
    constructor
    · intro row
      cases row with
      | cons first _ _ => exact ⟨.empty, nofun, first⟩
    · rintro ⟨-, -, first⟩
      exact .cons first (fun _ => rfl) fun _ none => absurd none List.not_mem_nil
  | cons head rest =>
    constructor
    · intro row
      cases row with
      | cons first last later =>
        have notLast : head ≠ .startAnchor (.sequence []) := fun bare => by simpa using last bare
        refine ⟨.cons first (fun bare => absurd bare notLast) fun other member =>
          later other (List.mem_append_left _ member), ?_, later node (by simp)⟩
        intro only
        exact notLast (List.cons.inj only).1
    · rintro ⟨row, notBare, piece⟩
      cases row with
      | cons first last later =>
        refine .cons first (fun bare => ?_) fun other member => ?_
        · rw [bare, last bare] at notBare
          exact absurd rfl notBare
        · rcases List.mem_append.1 member with before | same
          · exact later other before
          · rw [List.mem_singleton.1 same]
            exact piece

end Node

open Node

/-! ## Alternations -/

namespace Alternation

/-- A text writes the branches and elements of an alternation, which are such as patterns have. -/
structure Holds (alternation : Alternation) (text : Text) : Prop where
  /-- The text writes the branches that are ended, and behind them the finished elements. -/
  spelled : ∃ ended latest, EndedSpelledBy alternation.branches.reverse ended ∧
    RowSpelledBy alternation.elements.reverse latest ∧ text = ended ++ latest
  /-- What is ended is a branch. -/
  branches : ∀ branch ∈ alternation.branches, Row branch
  /-- What is finished is a branch. -/
  row : Row (.sequence alternation.elements.reverse)

/-- An element may be added, with a start anchor in front of it or without one. -/
structure Accepts (alternation : Alternation) (anchored : Bool) : Prop where
  /-- The elements are not just a start anchor that anchors nothing. -/
  notBare : alternation.elements ≠ [.startAnchor (.sequence [])]
  /-- A start anchor stands in front of all elements. -/
  first : anchored = true → alternation.elements = []

variable {alternation : Alternation} {text more : Text} {node : Node} {anchored : Bool}

/-- An alternation of which nothing is read holds the empty text. -/
theorem holds_empty : Alternation.empty.Holds [] :=
  ⟨⟨[], [], rfl, rfl, rfl⟩, fun _ none => absurd none List.not_mem_nil, .empty⟩

/-- Nothing else may be unfinished behind an element than an element without a start anchor. -/
theorem accepts_push (notBare : node ≠ .startAnchor (.sequence [])) :
    (alternation.push node).Accepts false :=
  ⟨fun same => notBare (List.cons.inj same).1, nofun⟩

/-- A further element is written behind the others. -/
theorem Holds.push (holds : alternation.Holds text)
    (notBare : alternation.elements ≠ [.startAnchor (.sequence [])])
    (piece : Piece alternation.elements.isEmpty node) (spelled : node.SpelledBy more) :
    (alternation.push node).Holds (text ++ more) := by
  obtain ⟨ended, latest, before, row, rfl⟩ := holds.spelled
  refine ⟨⟨ended, latest ++ more, before, ?_, List.append_assoc _ _ _⟩, holds.branches, ?_⟩
  · show RowSpelledBy (node :: alternation.elements).reverse _
    rw [List.reverse_cons]
    exact rowSpelledBy_append.2 ⟨latest, more, row, rowSpelledBy_singleton.2 spelled, rfl⟩
  · show Row (.sequence (node :: alternation.elements).reverse)
    rw [List.reverse_cons, row_concat]
    refine ⟨holds.row, fun only => notBare ?_, by rwa [List.isEmpty_reverse]⟩
    rw [← List.reverse_reverse alternation.elements, only]
    rfl

/-- A bar ends the branch before it. -/
theorem Holds.nextBranch (holds : alternation.Holds text) :
    alternation.nextBranch.Holds (text ++ ['|']) := by
  obtain ⟨ended, latest, before, row, rfl⟩ := holds.spelled
  refine ⟨⟨ended ++ latest ++ ['|'], [], ?_, rfl, (List.append_nil _).symm⟩, ?_, .empty⟩
  · show EndedSpelledBy (_ :: alternation.branches).reverse _
    rw [List.reverse_cons]
    exact endedSpelledBy_concat before row
  · intro branch member
    rcases List.mem_cons.1 member with rfl | old
    · exact holds.row
    · exact holds.branches branch old

/-- An end anchor anchors the element before it. -/
theorem Holds.anchorEnd {latest : Node} {earlier : List Node} (holds : alternation.Holds text)
    (elements : alternation.elements = latest :: earlier) :
    ({ alternation with elements := .endAnchor latest :: earlier } : Alternation).Holds
      (text ++ ['$']) := by
  obtain ⟨ended, written, before, row, rfl⟩ := holds.spelled
  have shape := holds.row
  rw [elements, List.reverse_cons] at row shape
  obtain ⟨shapeBefore, notBare, piece⟩ := row_concat.1 shape
  obtain ⟨first, second, rowBefore, last, rfl⟩ := rowSpelledBy_append.1 row
  have anchored : (endAnchor latest).SpelledBy (second ++ ['$']) :=
    ⟨second, rowSpelledBy_singleton.1 last, rfl⟩
  refine ⟨⟨ended, first ++ (second ++ ['$']), before, ?_, ?_⟩, holds.branches, ?_⟩
  · show RowSpelledBy (_ :: earlier).reverse _
    rw [List.reverse_cons]
    exact rowSpelledBy_append.2 ⟨first, _, rowBefore, rowSpelledBy_singleton.2 anchored, rfl⟩
  · simp only [List.append_assoc]
  · show Row (.sequence (_ :: earlier).reverse)
    rw [List.reverse_cons, row_concat]
    exact ⟨shapeBefore, notBare, .endAnchor piece⟩

/-- All branches of an alternation are written by what it holds. -/
theorem Holds.allBranches (holds : alternation.Holds text) :
    BranchesSpelledBy alternation.allBranches text ∧
      ∀ branch ∈ alternation.allBranches, Row branch := by
  obtain ⟨ended, latest, before, row, rfl⟩ := holds.spelled
  constructor
  · rw [Alternation.allBranches, List.reverse_cons]
    exact branchesSpelledBy_concat before row
  · intro branch member
    rw [Alternation.allBranches, List.mem_reverse] at member
    rcases List.mem_cons.1 member with rfl | old
    · exact holds.row
    · exact holds.branches branch old

end Alternation

/-! ## Drafts -/

namespace Draft

/-- A start anchor, if there is one. -/
def anchorText (anchored : Bool) : Text := if anchored then ['^'] else []

/-- Whether what is unfinished begins with a start anchor. -/
def Focus.anchored : Focus → Bool
  | .element => false
  | .anchor => true
  | .atom anchored _ | .openedSet anchored _ | .set anchored _ _ _ => anchored

/-- A text writes what is unfinished, which is such as patterns have. -/
def Focus.Holds : Focus → Text → Prop
  | .element, text => text = []
  | .anchor, text => text = ['^']
  | .atom anchored node, text =>
    Operand node ∧ ∃ inside, node.SpelledBy inside ∧ text = anchorText anchored ++ inside
  | .openedSet anchored _, text => text = anchorText anchored ++ ['[']
  | .set anchored _ negated members, text =>
    .ofClass .any ∉ members ∧ ∃ inside, MembersSpelledBy members.reverse negated inside ∧
      inside ≠ [] ∧ text = anchorText anchored ++ '[' :: inside

/-- A text writes everything around the innermost alternation, up to the parenthesis that opens its
group. -/
def OuterHolds : List OpenGroup → Text → Prop
  | [], text => text = []
  | opened :: enclosing, text =>
    opened.outside.Accepts opened.anchored ∧
      ∃ outer inner, OuterHolds enclosing outer ∧ opened.outside.Holds inner ∧
        text = outer ++ inner ++ anchorText opened.anchored ++ ['(']

/-- A text writes everything that is read, which is such as patterns have. -/
def Holds (draft : Draft) (text : Text) : Prop :=
  ∃ outer inner latest, OuterHolds draft.enclosing outer ∧ draft.alternation.Holds inner ∧
    draft.focus.Holds latest ∧ text = outer ++ inner ++ latest

/-- Another token may be read: what is unfinished may become an element, or one may begin. -/
def Accepts (draft : Draft) : Prop := draft.alternation.Accepts draft.focus.anchored

variable {draft next : Draft} {offset : Nat} {text more : Text} {token : Token} {anchored : Bool}
  {node : Node}

/-- A draft of which nothing is read holds the empty text. -/
theorem holds_empty : Draft.empty.Holds [] :=
  ⟨[], [], [], rfl, Alternation.holds_empty, rfl, rfl⟩

/-- Any token may come first. -/
theorem accepts_empty : Draft.empty.Accepts := ⟨nofun, fun _ => rfl⟩

/-! ### Finishing elements -/

/-- No element is a start anchor that anchors nothing, and no other makes one with an anchor. -/
theorem anchor_ne_bareStartAnchor (anchored : Bool) (operand : Operand node) :
    anchor anchored node ≠ .startAnchor (.sequence []) := by
  intro same
  cases anchored with
  | false =>
    rw [show node = _ from same] at operand
    cases operand
  | true =>
    cases same
    cases operand

/-- An element with the start anchor in front of it may be added where it is accepted. -/
theorem piece_anchor {alternation : Alternation} (accepts : alternation.Accepts anchored)
    (operand : Operand node) : Piece alternation.elements.isEmpty (anchor anchored node) := by
  cases anchored with
  | false => exact .operand operand
  | true =>
    rw [accepts.first rfl]
    exact .startAnchor operand

/-- An anchored node is spelled by the anchor and then the node. -/
theorem spelledBy_anchor (anchored : Bool) (spelled : node.SpelledBy text) :
    (anchor anchored node).SpelledBy (anchorText anchored ++ text) := by
  cases anchored with
  | false => exact spelled
  | true => exact ⟨text, spelled, rfl⟩

/-- What is unfinished may be replaced by a finished element with the same text. -/
theorem Holds.push (accepts : draft.Accepts)
    (piece : Piece draft.alternation.elements.isEmpty node) {outer inner latest : Text}
    (around : OuterHolds draft.enclosing outer) (holds : draft.alternation.Holds inner)
    (spelled : node.SpelledBy latest) : (draft.push node).Holds (outer ++ inner ++ latest) :=
  ⟨outer, inner ++ latest, [], around, holds.push accepts.notBare piece spelled, rfl, by
    rw [List.append_nil, List.append_assoc]⟩

/-- Settling changes nothing in what a draft holds. -/
theorem Holds.settle (holds : draft.Holds text) (accepts : draft.Accepts) :
    draft.settle.Holds text := by
  obtain ⟨outer, inner, latest, around, alternation, focus, rfl⟩ := holds
  have accepts' : draft.alternation.Accepts draft.focus.anchored := accepts
  unfold Draft.settle
  split
  · rename_i unfinished
    rw [unfinished] at focus accepts'
    rw [show latest = ['^'] from focus]
    refine Holds.push accepts ?_ around alternation ⟨[], rfl, rfl⟩
    rw [accepts'.first rfl]
    exact .bareStartAnchor
  · rename_i anchored node unfinished
    rw [unfinished] at focus accepts'
    obtain ⟨operand, inside, spelled, rfl⟩ := focus
    exact Holds.push accepts (piece_anchor accepts' operand) around alternation
      (spelledBy_anchor anchored spelled)
  · exact ⟨outer, inner, latest, around, alternation, focus, rfl⟩

/-- Behind an element, another one may begin. -/
theorem accepts_settle (operand : Operand node)
    (unfinished : draft.focus = .atom anchored node) : draft.settle.Accepts := by
  unfold Draft.settle
  rw [unfinished]
  exact Alternation.accepts_push (anchor_ne_bareStartAnchor anchored operand)

/-! ### Tokens between elements -/

/-- A closing parenthesis makes the innermost alternation a group. -/
theorem Holds.closeGroup (holds : draft.Holds text) (between : draft.focus = .element)
    (closed : draft.closeGroup offset = .ok next) : next.Holds (text ++ [')']) ∧ next.Accepts := by
  obtain ⟨outer, inner, latest, around, alternation, focus, rfl⟩ := holds
  rw [between] at focus
  unfold Draft.closeGroup at closed
  split at closed
  · cases closed
  · rename_i opened enclosing inside
    cases closed
    rw [inside] at around
    obtain ⟨accepts, outer, before, further, outside, rfl⟩ := around
    obtain ⟨spelled, each⟩ := alternation.allBranches
    have nonempty : draft.alternation.allBranches ≠ [] := by
      simp [Alternation.allBranches]
    refine ⟨⟨outer, before, anchorText opened.anchored ++ '(' :: inner ++ [')'], further, outside,
      ⟨.group opened.index nonempty each, '(' :: inner ++ [')'], ⟨inner, spelled, rfl⟩, ?_⟩, ?_⟩,
      accepts⟩
    · simp only [List.append_assoc, List.cons_append]
    · rw [show latest = [] from focus]
      simp only [List.append_assoc, List.cons_append, List.nil_append]

/-- A bar begins another branch. -/
theorem Holds.nextBranch (holds : draft.Holds text) (between : draft.focus = .element) :
    ({ draft with alternation := draft.alternation.nextBranch } : Draft).Holds (text ++ ['|']) ∧
      ({ draft with alternation := draft.alternation.nextBranch } : Draft).Accepts := by
  obtain ⟨outer, inner, latest, around, alternation, focus, rfl⟩ := holds
  refine ⟨⟨outer, inner ++ ['|'], latest, around, alternation.nextBranch, focus, ?_⟩, nofun,
    fun _ => rfl⟩
  rw [between] at focus
  rw [show latest = [] from focus]
  simp only [List.append_assoc, List.nil_append]
  rfl

/-- An end anchor anchors the latest element. -/
theorem Holds.anchorEnd (holds : draft.Holds text) (between : draft.focus = .element)
    (anchored : draft.anchorEnd offset = .ok next) : next.Holds (text ++ ['$']) ∧ next.Accepts := by
  obtain ⟨outer, inner, latest, around, alternation, focus, rfl⟩ := holds
  unfold Draft.anchorEnd at anchored
  split at anchored
  · cases anchored
  · rename_i last earlier elements
    cases anchored
    refine ⟨⟨outer, inner ++ ['$'], latest, around, alternation.anchorEnd elements, focus, ?_⟩, ?_⟩
    · rw [between] at focus
      rw [show latest = [] from focus]
      simp only [List.append_assoc, List.nil_append]
      rfl
    · show Alternation.Accepts _ draft.focus.anchored
      rw [between]
      constructor
      · intro same
        cases same
      · intro anchors
        cases anchors

/-! ### Tokens that begin elements -/

/-- A digit is the one that its value is written with. -/
theorem digitChar_of_backreferenceIndex? {rune : Char} {index : Nat}
    (digit : backreferenceIndex? rune = some index) : index ≤ 9 ∧ rune = index.digitChar := by
  unfold backreferenceIndex? at digit
  split at digit
  · rename_i isDigit
    have value : rune.toNat - '0'.toNat = index := Option.some.inj digit
    have bounds : '0'.toNat ≤ rune.toNat ∧ rune.toNat ≤ '9'.toNat := by
      simpa [Char.isDigit, UInt32.le_iff_toNat_le] using isDigit
    have zero : '0'.toNat = 48 := rfl
    have nine : '9'.toNat = 57 := rfl
    have small : index ≤ 9 := by omega
    have same : rune = Char.ofNat (48 + index) := by
      rw [show 48 + index = rune.toNat by omega, Char.ofNat_toNat]
    have written : ∀ index ≤ 9, Char.ofNat (48 + index) = index.digitChar := by decide
    exact ⟨small, same.trans (written index small)⟩
  · cases digit

/-- An escaped rune that is read as an element is a spelling of it. -/
theorem operand_of_ofEscaped {rune : Char} (written : Node.ofEscaped rune = .ok node) :
    Operand node ∧ node.SpelledBy ['\\', rune] := by
  unfold Node.ofEscaped at written
  split at written
  · rename_i kind isClass
    cases written
    refine ⟨.ofClass kind, ?_⟩
    unfold Rune.Class.ofEscaped? at isClass
    split at isClass
    · cases isClass
      rfl
    · cases isClass
      rfl
    · cases isClass
  · cases written
  · rename_i index notZero _ isDigit
    cases written
    obtain ⟨small, same⟩ := digitChar_of_backreferenceIndex? isDigit
    exact ⟨.backreference (Nat.pos_of_ne_zero notZero) small, by rw [same]; rfl⟩
  · split at written
    · rename_i member
      cases written
      exact ⟨.literal rune, .inr ⟨member, rfl⟩⟩
    · cases written

/-- A token that is read as an element is a spelling of it, unless it is one of those that are read
otherwise. -/
theorem operand_of_ofToken (whole : token.Whole)
    (plain : ∀ rune ∈ ['(', '[', ')', '|'], token ≠ .plain rune)
    (written : Node.ofToken token = .ok node) : Operand node ∧ node.SpelledBy token.spelling := by
  unfold Node.ofToken at written
  split at written
  case h_6 rune noDot noQuestion noPlus noCaret noDollar =>
    cases written
    refine ⟨.literal rune, .inl ⟨?_, rfl⟩⟩
    have noBackslash : rune ≠ '\\' := whole
    have others : ∀ other ∈ ['(', '[', ')', '|'], rune ≠ other :=
      fun other member same => plain other member (by rw [same])
    simp only [List.mem_cons, List.not_mem_nil, or_false, forall_eq_or_imp, forall_eq] at others
    simp_all [operators]
  case h_7 rune => exact operand_of_ofEscaped written
  all_goals cases written
  exact ⟨.ofClass .any, rfl⟩

/-- A token begins an element where one is accepted. -/
theorem holds_of_readAtom {outer inner : Text} (accepts : draft.alternation.Accepts anchored)
    (around : OuterHolds draft.enclosing outer) (alternation : draft.alternation.Holds inner)
    (whole : token.Whole) (noClosing : token ≠ .plain ')') (noBar : token ≠ .plain '|')
    (begun : draft.readAtom anchored offset token = .ok next) :
    next.Holds (outer ++ inner ++ anchorText anchored ++ token.spelling) ∧ next.Accepts := by
  unfold Draft.readAtom at begun
  split at begun
  · cases begun
    refine ⟨⟨outer ++ inner ++ anchorText anchored ++ ['('], [], [], ?_, Alternation.holds_empty,
      rfl, ?_⟩, nofun, fun _ => rfl⟩
    · exact ⟨accepts, outer, inner, around, alternation, rfl⟩
    · rw [List.append_nil, List.append_nil]
      rfl
  · cases begun
    exact ⟨⟨outer, inner, anchorText anchored ++ ['['], around, alternation, rfl,
      List.append_assoc _ _ _⟩, accepts⟩
  · rename_i noGroup noSet
    split at begun
    · rename_i node written
      cases begun
      have plain : ∀ rune ∈ ['(', '[', ')', '|'], token ≠ .plain rune := by
        simp only [List.mem_cons, List.not_mem_nil, or_false, forall_eq_or_imp, forall_eq]
        exact ⟨noGroup, noSet, noClosing, noBar⟩
      obtain ⟨operand, spelled⟩ := operand_of_ofToken whole plain written
      exact ⟨⟨outer, inner, anchorText anchored ++ token.spelling, around, alternation,
        ⟨operand, token.spelling, spelled, rfl⟩, List.append_assoc _ _ _⟩, accepts⟩
    · cases begun

/-- A token between elements is added to what is held. An element may begin with it only where one is
accepted; elsewhere it ends what is before it. -/
theorem Holds.readElement (holds : draft.Holds text) (between : draft.focus = .element)
    (accepts : draft.Accepts ∨ endsAnchor token = true) (whole : token.Whole)
    (read : draft.readElement offset token = .ok next) :
    next.Holds (text ++ token.spelling) ∧ next.Accepts := by
  unfold Draft.readElement at read
  split at read
  · exact holds.closeGroup between read
  · cases read
    exact holds.nextBranch between
  · exact holds.anchorEnd between read
  · obtain ⟨outer, inner, latest, around, alternation, focus, rfl⟩ := holds
    rw [between] at focus
    split at read
    · rename_i noElements
      cases read
      have none := List.isEmpty_iff.1 noElements
      refine ⟨⟨outer, inner, ['^'], around, alternation, rfl, ?_⟩, ?_, fun _ => none⟩
      · rw [show latest = [] from focus, List.append_nil]
        rfl
      · rw [none]
        nofun
    · cases read
  · rename_i noClosing noBar noEndAnchor noStartAnchor
    have accepts' : draft.alternation.Accepts false := by
      rcases accepts with accepts | ends
      · unfold Draft.Accepts at accepts
        rwa [between] at accepts
      · unfold endsAnchor at ends
        split at ends
        · exact absurd rfl noClosing
        · exact absurd rfl noBar
        · exact absurd rfl noEndAnchor
        · cases ends
    obtain ⟨outer, inner, latest, around, alternation, focus, rfl⟩ := holds
    rw [between] at focus
    have begun := holds_of_readAtom accepts' around alternation whole noClosing noBar read
    rw [show latest = [] from focus]
    exact begun

/-- A token behind an element is added to what is held, whether it quantifies the element or not. -/
theorem Holds.readQuantifier (holds : draft.Holds text) (accepts : draft.Accepts)
    (unfinished : draft.focus = .atom anchored node) (whole : token.Whole)
    (read : draft.readQuantifier anchored node offset token = .ok next) :
    next.Holds (text ++ token.spelling) ∧ next.Accepts := by
  have settled := holds.settle accepts
  obtain ⟨outer, inner, latest, around, alternation, focus, rfl⟩ := holds
  rw [unfinished] at focus
  obtain ⟨operand, inside, spelled, rfl⟩ := focus
  unfold Draft.readQuantifier at read
  split at read
  · rename_i quantifier isQuantifier
    split at read
    · rename_i single
      cases read
      have quantified : Operand (quantifier.apply node) ∧
          (quantifier.apply node).SpelledBy (inside ++ token.spelling) := by
        unfold Quantifier.ofToken? at isQuantifier
        split at isQuantifier
        · cases isQuantifier
          exact ⟨.optional single operand, inside, spelled, .inl ⟨rfl, rfl, rfl⟩⟩
        · cases isQuantifier
          exact ⟨.onceOrMore single operand, inside, spelled, .inr ⟨rfl, rfl, rfl⟩⟩
        · cases isQuantifier
      have accepts' : draft.alternation.Accepts anchored := by
        unfold Draft.Accepts at accepts
        rwa [unfinished] at accepts
      refine ⟨?_, Alternation.accepts_push (anchor_ne_bareStartAnchor anchored quantified.1)⟩
      have pushed := Holds.push accepts (piece_anchor accepts' quantified.1) around alternation
        (spelledBy_anchor anchored quantified.2)
      simpa only [List.append_assoc] using pushed
    · cases read
  · have between : draft.settle.focus = .element :=
      settle_focus (.inr ⟨anchored, node, unfinished⟩)
    exact settled.readElement between (.inl (accepts_settle operand unfinished)) whole read

/-! ### Tokens inside sets -/

/-- A token that is read as a member is a spelling of it, unless it is the bracket. -/
theorem spelledBy_of_ofToken? {member : SetMember} (whole : token.Whole)
    (noBracket : token ≠ .plain ']') (written : SetMember.ofToken? token = some member) :
    member.SpelledBy token.spelling ∧ member ≠ .ofClass .any := by
  unfold SetMember.ofToken? at written
  split at written
  · rename_i rune
    cases written
    exact ⟨.inl ⟨fun same => noBracket (by rw [same]), whole, rfl⟩, nofun⟩
  · rename_i rune
    unfold Rune.Class.ofEscaped? at written
    split at written
    · rename_i kind isClass
      cases written
      split at isClass
      · cases isClass
        exact ⟨rfl, nofun⟩
      · cases isClass
        exact ⟨rfl, nofun⟩
      · cases isClass
    · rename_i isClass
      cases written
      split at isClass
      · cases isClass
      · cases isClass
      · rename_i noDigit noWord
        exact ⟨.inr ⟨noDigit, noWord, rfl⟩, nofun⟩
  · cases written

/-- A token inside a set is added to what is held: it closes a set that has begun, or it is a member
that may stand there. -/
theorem holds_of_readMember {outer inner : Text} {opened : Nat} {negated : Bool}
    {members : List SetMember} (accepts : draft.alternation.Accepts anchored)
    (around : OuterHolds draft.enclosing outer) (alternation : draft.alternation.Holds inner)
    (whole : token.Whole) (noAny : .ofClass .any ∉ members)
    (closes : members ≠ [] → MembersSpelledBy members.reverse negated more)
    (goesOn : ∀ member : SetMember, member.SpelledBy token.spelling →
      MembersSpelledBy (member :: members).reverse negated (more ++ token.spelling))
    (read : draft.readMember anchored opened negated members token = .ok next) :
    next.Holds (outer ++ inner ++ (anchorText anchored ++ '[' :: more) ++ token.spelling) ∧
      next.Accepts := by
  unfold Draft.readMember at read
  split at read
  · split at read
    · cases read
    · rename_i nonempty
      cases read
      have begun : members ≠ [] := fun none => nonempty (List.isEmpty_iff.2 none)
      refine ⟨⟨outer, inner, anchorText anchored ++ ('[' :: more ++ [']']), around, alternation,
        ⟨.set negated (by simpa using begun) (by simpa using noAny), '[' :: more ++ [']'],
          ⟨more, closes begun, rfl⟩, rfl⟩, ?_⟩, accepts⟩
      simp only [List.append_assoc]
      rfl
  · rename_i noBracket
    split at read
    · rename_i member written
      cases read
      obtain ⟨spelled, notAny⟩ := spelledBy_of_ofToken? whole noBracket written
      have nonempty : more ++ token.spelling ≠ [] := by
        cases token <;> simp [Token.spelling]
      refine ⟨⟨outer, inner, anchorText anchored ++ '[' :: (more ++ token.spelling), around,
        alternation, ⟨?_, more ++ token.spelling, goesOn member spelled, nonempty, rfl⟩, ?_⟩, accepts⟩
      · rintro (_ | ⟨_, old⟩)
        · exact notAny rfl
        · exact noAny old
      · simp only [List.append_assoc, List.cons_append]
    · cases read

/-- The first token of a set is added to what is held: it negates the set, or it is a member that does
not. -/
theorem Holds.readOpenedSet {opened : Nat} (holds : draft.Holds text) (accepts : draft.Accepts)
    (unfinished : draft.focus = .openedSet anchored opened) (whole : token.Whole)
    (taken : draft.read (offset, token) = .ok next) :
    next.Holds (text ++ token.spelling) ∧ next.Accepts := by
  obtain ⟨outer, inner, latest, around, alternation, focus, rfl⟩ := holds
  rw [unfinished] at focus
  rw [show latest = anchorText anchored ++ ['['] from focus]
  unfold Draft.Accepts at accepts
  rw [unfinished] at accepts
  simp only [Draft.read, unfinished] at taken
  by_cases negation : token = .plain '^'
  · rw [if_pos negation] at taken
    cases taken
    rw [negation]
    refine ⟨⟨outer, inner, anchorText anchored ++ ['[', '^'], around, alternation,
      ⟨List.not_mem_nil, ['^'], ⟨[], rfl, rfl⟩, List.cons_ne_nil _ _, rfl⟩, ?_⟩, accepts⟩
    simp only [List.append_assoc]
    rfl
  · rw [if_neg negation] at taken
    refine holds_of_readMember accepts around alternation whole List.not_mem_nil
      (fun none => absurd rfl none) (fun member spelled => ?_) taken
    refine ⟨token.spelling, ⟨token.spelling, [], spelled, rfl, (List.append_nil _).symm⟩, rfl, ?_⟩
    cases token with
    | plain rune => exact fun same => negation (by rw [Option.some.inj same])
    | escaped rune => exact fun same => absurd (Option.some.inj same) (by decide)
    | danglingEscape => exact whole.elim

/-- So is every further one. -/
theorem Holds.readSet {opened : Nat} {negated : Bool} {members : List SetMember}
    (holds : draft.Holds text) (accepts : draft.Accepts)
    (unfinished : draft.focus = .set anchored opened negated members) (whole : token.Whole)
    (taken : draft.read (offset, token) = .ok next) :
    next.Holds (text ++ token.spelling) ∧ next.Accepts := by
  obtain ⟨outer, inner, latest, around, alternation, focus, rfl⟩ := holds
  rw [unfinished] at focus
  obtain ⟨noAny, inside, spelled, begun, rfl⟩ := focus
  unfold Draft.Accepts at accepts
  rw [unfinished] at accepts
  simp only [Draft.read, unfinished] at taken
  refine holds_of_readMember accepts around alternation whole noAny (fun _ => spelled)
    (fun member more => ?_) taken
  rw [List.reverse_cons]
  exact membersSpelledBy_concat spelled begun more

/-! ### All tokens -/

/-- A token behind a start anchor is added to what is held: it ends the branch or anchors its end, or
the anchored element begins with it. -/
theorem Holds.readBehindAnchor (holds : draft.Holds text) (accepts : draft.Accepts)
    (unfinished : draft.focus = .anchor) (whole : token.Whole)
    (taken : draft.read (offset, token) = .ok next) :
    next.Holds (text ++ token.spelling) ∧ next.Accepts := by
  simp only [Draft.read, unfinished] at taken
  cases ends : endsAnchor token with
  | true =>
    rw [ends, if_pos rfl] at taken
    exact (holds.settle accepts).readElement (settle_focus (.inl unfinished)) (.inr ends) whole taken
  | false =>
    rw [ends, if_neg Bool.false_ne_true] at taken
    obtain ⟨outer, inner, latest, around, alternation, focus, rfl⟩ := holds
    rw [unfinished] at focus
    rw [show latest = ['^'] from focus]
    unfold Draft.Accepts at accepts
    rw [unfinished] at accepts
    refine holds_of_readAtom accepts around alternation whole ?_ ?_ taken
    · rintro rfl
      cases ends
    · rintro rfl
      cases ends

/-- A whole token that is read is added to what is held. -/
theorem Holds.read (holds : draft.Holds text) (accepts : draft.Accepts) (whole : token.Whole)
    (taken : draft.read (offset, token) = .ok next) :
    next.Holds (text ++ token.spelling) ∧ next.Accepts := by
  cases unfinished : draft.focus with
  | element =>
    simp only [Draft.read, unfinished] at taken
    exact holds.readElement unfinished (.inl accepts) whole taken
  | anchor => exact holds.readBehindAnchor accepts unfinished whole taken
  | atom anchored node =>
    simp only [Draft.read, unfinished] at taken
    exact holds.readQuantifier accepts unfinished whole taken
  | openedSet anchored opened => exact holds.readOpenedSet accepts unfinished whole taken
  | set anchored opened negated members => exact holds.readSet accepts unfinished whole taken

/-- A backslash at the end of a text is never read. -/
theorem read_danglingEscape : draft.read (offset, .danglingEscape) ≠ .ok next := by
  intro taken
  rw [Draft.read] at taken
  split at taken
  all_goals cases taken

/-- All tokens that are read are added to what is held. -/
theorem Holds.readAll {tokens : List (Nat × Token)} {final : Draft} (holds : draft.Holds text)
    (accepts : draft.Accepts) (whole : ∀ place ∈ tokens, place.2.Whole ∨ place.2 = .danglingEscape)
    (taken : draft.readAll tokens = .ok final) :
    final.Holds (text ++ tokens.flatMap (·.2.spelling)) ∧ final.Accepts := by
  induction tokens generalizing draft text with
  | nil =>
    cases taken
    rw [List.flatMap_nil, List.append_nil]
    exact ⟨holds, accepts⟩
  | cons place rest ih =>
    obtain ⟨offset, token⟩ := place
    rw [Draft.readAll, List.foldlM_cons] at taken
    cases first : draft.read (offset, token) with
    | error mistake =>
      rw [first] at taken
      cases taken
    | ok middle =>
      rw [first] at taken
      have isWhole : token.Whole := by
        rcases whole _ List.mem_cons_self with isWhole | dangling
        · exact isWhole
        · rw [show token = .danglingEscape from dangling] at first
          exact absurd first read_danglingEscape
      obtain ⟨holds', accepts''⟩ := holds.read accepts isWhole first
      have later := ih holds' accepts''
        (fun other member => whole other (List.mem_cons_of_mem _ member)) taken
      rwa [List.append_assoc] at later

/-- The branches of a whole pattern are its tree, or the branches of the group with index zero. -/
theorem written_root {alternation : Alternation} {count : Nat} (holds : alternation.Holds text)
    (numbered : alternation.indices = List.range' 1 count) :
    (root alternation).WrittenBy text ∧ WellFormed (root alternation) count := by
  obtain ⟨spelled, each⟩ := holds.allBranches
  have all := Alternation.flatMap_indices_allBranches alternation
  rw [numbered] at all
  unfold root
  split
  · rename_i branch only
    rw [only] at spelled each all
    have row := each branch (List.mem_singleton_self branch)
    refine ⟨?_, .branch row (by rwa [List.flatMap_singleton] at all)⟩
    cases row <;> exact spelled
  · rename_i notOne
    refine ⟨spelled, .alternation ?_ each all⟩
    cases branches : alternation.allBranches with
    | nil => simp [Alternation.allBranches] at branches
    | cons branch rest =>
      cases rest with
      | nil => exact absurd branches (notOne branch)
      | cons => exact Nat.le_add_left 2 _

/-- At the end of a text that is read, the text writes the tree of the draft. -/
theorem Holds.finish {tree : Node} {count : Nat} (holds : draft.Holds text)
    (accepts : draft.Accepts) (sound : draft.Sound) (finished : draft.finish = .ok (tree, count)) :
    tree.WrittenBy text ∧ WellFormed tree count := by
  obtain ⟨outside, closed, rfl, rfl⟩ := finish_eq_ok.1 finished
  obtain ⟨outer, inner, latest, around, alternation, unfinished, rfl⟩ := holds.settle accepts
  have numbered := sound.settle.numbered
  rw [indices, indices_settle_focus, settle_enclosing, settle_groupCount, closed] at numbered
  rw [settle_enclosing, closed] at around
  rw [outside.settle_focus] at unfinished
  rw [show outer = [] from around, show latest = [] from unfinished, List.append_nil]
  exact written_root alternation (by simpa [outerIndices] using numbered)

end Draft

namespace Pattern

/-- A text that is read is a spelling of the tree that it is read as, and the tree is well formed. -/
theorem written_of_parse {source : Text} {tree : Node} {count : Nat}
    (parsed : parse source = .ok (tree, count)) :
    tree.WrittenBy source ∧ WellFormed tree count := by
  unfold parse at parsed
  cases read : Draft.empty.readAll (Token.scan source) with
  | error mistake =>
    rw [read] at parsed
    cases parsed
  | ok final =>
    rw [read] at parsed
    obtain ⟨holds, accepts⟩ := Draft.holds_empty.readAll Draft.accepts_empty
      (fun _ member => Token.whole_of_mem_scanFrom member) read
    rw [List.nil_append, Token.flatMap_spelling_scanFrom] at holds
    exact holds.finish accepts (Draft.sound_empty.readAll read) parsed

/-- A text is read only where it is a spelling of the tree that it is read as. What is repeated matches
one rune; the tree is a sequence, or the group with index zero around at least two of them, and no
other group has that index; the branches of groups are sequences; the groups are numbered from one on
in the order in which they open; and backreferences have one digit. -/
theorem writtenBy_of_parse_eq_ok (source : Text) (tree : Node) (count : Nat)
    (parsed : parse source = .ok (tree, count)) :
    tree.WrittenBy source ∧ WellFormed tree count ∧
      (∀ node min max, .repetition node min max ∈ tree.parts →
        node.isQuantifiable = true ∧ (min = 0 ∧ max = some 1 ∨ min = 1 ∧ max = none)) ∧
      ((∃ nodes, tree = .sequence nodes) ∧ tree.indices = List.range' 1 count ∨
        (∃ branches, tree = .group 0 branches ∧ 2 ≤ branches.length ∧
            ∀ branch ∈ branches, ∃ nodes, branch = .sequence nodes) ∧
          tree.indices = 0 :: List.range' 1 count) ∧
      (∀ index branches, .group index branches ∈ tree.parts →
        branches ≠ [] ∧ ∀ branch ∈ branches, ∃ nodes, branch = .sequence nodes) ∧
      ∀ index, .backreference index ∈ tree.parts → 1 ≤ index ∧ index ≤ 9 := by
  obtain ⟨written, wellFormed⟩ := written_of_parse parsed
  have placed := wellFormed.placed
  refine ⟨written, wellFormed, ?repeated, ?root, ?groups, ?references⟩
  case repeated =>
    intro node min max member
    exact (placed _ member).of_repetition
  case root =>
    cases wellFormed with
    | branch row numbered => exact .inl ⟨row.exists_nodes, numbered⟩
    | @alternation branches count several each numbered =>
      refine .inr ⟨⟨branches, rfl, several, fun branch member => (each branch member).exists_nodes⟩, ?_⟩
      rw [indices_group, numbered]
  case groups =>
    intro index branches member
    obtain ⟨nonempty, each⟩ := (placed _ member).of_group
    exact ⟨nonempty, fun branch isBranch => (each branch isBranch).exists_nodes⟩
  case references =>
    intro index member
    exact (placed _ member).of_backreference

/-- In `(a|(^b)$\2)[^^]+$` the second `^` negates a set, and the third one is its member. -/
theorem writtenBy_of_nested_groups :
    ∃ tree, parse "(a|(^b)$\\2)[^^]+$".toList = .ok (tree, 2) ∧
      tree.WrittenBy "(a|(^b)$\\2)[^^]+$".toList ∧ WellFormed tree 2 ∧
      tree.indices = [1, 2] ∧ .backreference 2 ∈ tree.parts := by
  let tree : Node := .sequence [
    .group 1 [.sequence [.literal 'a'],
      .sequence [.endAnchor (.group 2 [.sequence [.startAnchor (.literal 'b')]]), .backreference 2]],
    .endAnchor (.repetition (.set [.literal '^'] true) 1 none)]
  have parsed : parse "(a|(^b)$\\2)[^^]+$".toList = .ok (tree, 2) := rfl
  obtain ⟨written, wellFormed, -, -, -, -⟩ := writtenBy_of_parse_eq_ok _ tree 2 parsed
  exact ⟨tree, parsed, written, wellFormed, by decide, by decide⟩

end Pattern
end PatternSearch
