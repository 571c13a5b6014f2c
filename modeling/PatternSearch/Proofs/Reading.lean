import PatternSearch.Pattern
import PatternSearch.Proofs.Compiled
import PatternSearch.Proofs.Grammar
import PatternSearch.Proofs.Scanning

/-!
# Reading a spelling gives its tree

`Draft.Reads` says that a text takes a draft on to another one, whatever comes after the text; such
steps are put together like the texts they read. What is read between two drafts is said by
`Draft.grow`: so many further elements, with so many groups in them.

An element may be left unfinished by its last rune, since a quantifier may follow. The statements
therefore speak of the settled draft, and `Draft.Awaits` says that the first token of the next element
is taken as if nothing were unfinished.

Main statement: every spelling of a well-formed tree is read as that tree, with its number of groups
(`parse_eq_ok_of_writtenBy`).
-/
namespace PatternSearch

open Node

namespace Draft

/-! ## Texts that take a draft on -/

/-- A text, beginning at an offset, takes a draft on to another one, whatever text comes after. -/
def Reads (draft : Draft) (offset : Nat) (text : Text) (next : Draft) : Prop :=
  ∀ rest, draft.readAll (Token.scanFrom offset (text ++ rest)) =
    next.readAll (Token.scanFrom (offset + text.length) rest)

variable {draft middle next base : Draft} {offset : Nat} {text first second : Text}

/-- The empty text leaves a draft as it is. -/
theorem Reads.nil (draft : Draft) (offset : Nat) : draft.Reads offset [] draft :=
  fun _ => rfl

/-- Texts one after another take a draft on step by step. -/
theorem Reads.append (read : draft.Reads offset first middle)
    (later : middle.Reads (offset + first.length) second next) :
    draft.Reads offset (first ++ second) next := by
  intro rest
  rw [List.append_assoc, read, later, List.length_append, Nat.add_assoc]

/-- A text takes a draft on as its first token and then the text behind it do. -/
theorem Reads.cons (token : Token) (whole : token.Whole)
    (taken : draft.read (offset, token) = .ok middle)
    (later : middle.Reads (offset + token.spelling.length) second next) :
    draft.Reads offset (token.spelling ++ second) next := by
  intro rest
  rw [List.append_assoc, Token.scanFrom_spelling_append whole, readAll, List.foldlM_cons, taken]
  rw [List.length_append, ← Nat.add_assoc]
  exact later rest

/-- The spelling of a whole token takes a draft on as the token does. -/
theorem reads_token (token : Token) (whole : token.Whole)
    (taken : draft.read (offset, token) = .ok next) : draft.Reads offset token.spelling next := by
  have read := Reads.cons token whole taken (.nil next _)
  rwa [List.append_nil] at read

/-! ## Drafts that grow -/

/-- The draft with further finished elements, which hold so many groups. -/
def grow (draft : Draft) (count : Nat) (nodes : List Node) : Draft :=
  ⟨draft.groupCount + count, draft.enclosing,
    ⟨draft.alternation.branches, nodes.reverse ++ draft.alternation.elements⟩, .element⟩

/-- The draft with a further element that is not finished, which holds so many groups. -/
def pending (draft : Draft) (count : Nat) (anchored : Bool) (node : Node) : Draft :=
  ⟨draft.groupCount + count, draft.enclosing, draft.alternation, .atom anchored node⟩

/-- A draft may grow in two steps. -/
theorem grow_grow (draft : Draft) (few more : Nat) (nodes others : List Node) :
    (draft.grow few nodes).grow more others = draft.grow (few + more) (nodes ++ others) := by
  simp only [grow, Nat.add_assoc, List.reverse_append, List.append_assoc]

/-- An element that is not finished is finished as it is. -/
theorem settle_pending (draft : Draft) (count : Nat) (anchored : Bool) (node : Node) :
    (draft.pending count anchored node).settle = draft.grow count [anchor anchored node] :=
  rfl

/-- A draft in front of the first element of a branch. -/
structure AtHead (draft : Draft) : Prop where
  /-- Nothing is unfinished. -/
  focus : draft.focus = .element
  /-- No element is finished. -/
  elements : draft.alternation.elements = []

/-- A draft in front of an element, or behind one that may yet be quantified. -/
def Between (draft : Draft) : Prop :=
  draft.focus = .element ∨ ∃ anchored node, draft.focus = .atom anchored node

/-- A draft that is not in the middle of a set. -/
def Outside (draft : Draft) : Prop := draft.Between ∨ draft.focus = .anchor

/-- Where nothing is unfinished there is nothing to finish. -/
theorem settle_of_element (finished : draft.focus = .element) : draft.settle = draft := by
  unfold settle
  rw [finished]

/-- Settling leaves nothing unfinished. -/
theorem Outside.settle_focus (outside : draft.Outside) : draft.settle.focus = .element := by
  rcases outside with (finished | unfinished) | unfinished
  · rw [settle_of_element finished]
    exact finished
  · exact Draft.settle_focus (.inr unfinished)
  · exact Draft.settle_focus (.inl unfinished)

/-! ## Tokens between elements -/

/-- A token that begins an element: it neither quantifies nor ends nor anchors one. -/
def Begins (token : Token) : Prop := ∀ rune ∈ ['?', '+', ')', '|', '$', '^'], token ≠ .plain rune

/-- Whether a token begins an element is a matter of the token. -/
instance : DecidablePred Begins := fun token =>
  List.decidableBAll (token ≠ .plain ·) ['?', '+', ')', '|', '$', '^']

/-- A draft takes a token that begins an element as a draft without anything unfinished does, with a
start anchor before the element or without one. -/
def Awaits (draft : Draft) (anchored : Bool) (base : Draft) : Prop :=
  ∀ offset token, Begins token → draft.read (offset, token) = base.readAtom anchored offset token

/-- A token that begins an element is no quantifier. -/
theorem Begins.ofToken? {token : Token} (begins : Begins token) :
    Quantifier.ofToken? token = none := by
  unfold Quantifier.ofToken?
  split
  · exact absurd rfl (begins '?' (by decide))
  · exact absurd rfl (begins '+' (by decide))
  · rfl

/-- A token that begins an element leaves no start anchor without one. -/
theorem Begins.endsAnchor {token : Token} (begins : Begins token) : endsAnchor token = false := by
  unfold Draft.endsAnchor
  split
  · exact absurd rfl (begins ')' (by decide))
  · exact absurd rfl (begins '|' (by decide))
  · exact absurd rfl (begins '$' (by decide))
  · rfl

/-- Between elements, a token that begins one is taken as such. -/
theorem readElement_of_begins {token : Token} (begins : Begins token) :
    draft.readElement offset token = draft.readAtom false offset token := by
  unfold readElement
  split
  · exact absurd rfl (begins ')' (by decide))
  · exact absurd rfl (begins '|' (by decide))
  · exact absurd rfl (begins '$' (by decide))
  · exact absurd rfl (begins '^' (by decide))
  · rfl

/-- Behind an element the next one may begin. -/
theorem Between.awaits (between : draft.Between) : draft.Awaits false draft.settle := by
  intro offset token begins
  rw [read]
  rcases between with finished | ⟨anchored, node, unfinished⟩
  · rw [settle_of_element finished, finished]
    exact readElement_of_begins begins
  · rw [unfinished]
    simp only [readQuantifier, begins.ofToken?]
    exact readElement_of_begins begins

/-- Behind a start anchor its element may begin. -/
theorem awaits_of_anchor (unfinished : draft.focus = .anchor) : draft.Awaits true draft := by
  intro offset token begins
  rw [read, unfinished]
  simp only [begins.endsAnchor]
  rfl

/-- A token that ends what is unfinished before it is taken by the settled draft. -/
theorem Outside.read_of_ends (outside : draft.Outside) {token : Token}
    (ends : Draft.endsAnchor token = true) :
    draft.read (offset, token) = draft.settle.readElement offset token := by
  have noQuantifier : Quantifier.ofToken? token = none := by
    unfold Draft.endsAnchor at ends
    split at ends
    · rfl
    · rfl
    · rfl
    · cases ends
  rw [read]
  rcases outside with (finished | ⟨anchored, node, unfinished⟩) | unfinished
  · rw [settle_of_element finished, finished]
  · rw [unfinished]
    simp only [readQuantifier, noQuantifier]
  · rw [unfinished]
    simp only [ends]
    rfl

/-! ## Elements of one token -/

/-- A token that is an element by itself. -/
structure Writes (token : Token) (node : Node) : Prop where
  /-- It is found wherever it stands. -/
  whole : token.Whole
  /-- It begins an element. -/
  begins : Begins token
  /-- It does not open a group. -/
  noGroup : token ≠ .plain '('
  /-- It does not open a set. -/
  noSet : token ≠ .plain '['
  /-- It is read as the element. -/
  written : Node.ofToken token = .ok node

/-- A rune that is no operator writes itself. -/
theorem writes_plain {rune : Char} (raw : rune ∉ operators) :
    Writes (.plain rune) (.literal rune) := by
  have different : ∀ other ∈ operators, (.plain rune : Token) ≠ .plain other :=
    fun other member same => raw (Token.plain.inj same ▸ member)
  have subset : ['?', '+', ')', '|', '$', '^'] ⊆ operators := by decide
  have written : Node.ofToken (.plain rune) = .ok (.literal rune) := by
    simp only [operators, List.mem_cons, not_or] at raw
    simp [Node.ofToken, raw]
  exact ⟨fun same => raw (same ▸ by decide), fun other member => different other (subset member),
    different '(' (by decide), different '[' (by decide), written⟩

/-- An escaped rune writes what it is read as. -/
theorem writes_escaped {rune : Char} {node : Node} (written : Node.ofEscaped rune = .ok node) :
    Writes (.escaped rune) node :=
  ⟨trivial, fun _ _ => nofun, nofun, nofun, written⟩

/-- The rune of the class of all runes writes it. -/
theorem writes_any : Writes (.plain '.') (.ofClass .any) :=
  ⟨by decide, by decide, nofun, nofun, rfl⟩

/-- An element that matches a rune, no set, or refers to a group is written by one token. -/
inductive Leaf : Node → Prop
  /-- A rune. -/
  | literal (rune : Char) : Leaf (.literal rune)
  /-- A class. -/
  | ofClass (kind : Rune.Class) : Leaf (.ofClass kind)
  /-- A backreference. -/
  | backreference {index : Nat} (positive : 1 ≤ index) (digit : index ≤ 9) :
      Leaf (.backreference index)

/-- The spelling of a leaf is a token that writes it. -/
theorem Leaf.writes {node : Node} (leaf : Leaf node) (spelled : node.SpelledBy text) :
    ∃ token, text = token.spelling ∧ Writes token node := by
  cases leaf with
  | literal rune =>
    rcases spelled with ⟨raw, same⟩ | ⟨escaped, same⟩
    · exact ⟨.plain rune, same, writes_plain raw⟩
    · have readable : metacharacters.all
          (fun rune => decide (Node.ofEscaped rune = .ok (.literal rune))) = true := by decide
      have written := List.all_eq_true.1 readable rune escaped
      exact ⟨.escaped rune, same, writes_escaped (of_decide_eq_true written)⟩
  | ofClass kind =>
    cases kind with
    | digit => exact ⟨.escaped 'd', spelled, writes_escaped rfl⟩
    | word => exact ⟨.escaped 'w', spelled, writes_escaped rfl⟩
    | any => exact ⟨.plain '.', spelled, writes_any⟩
  | @backreference index positive digit =>
    have readable : ∀ index ∈ List.range' 1 9,
        Node.ofEscaped index.digitChar = .ok (.backreference index) := by
      decide
    have inside : index ∈ List.range' 1 9 := List.mem_range'_1.2 ⟨positive, by omega⟩
    exact ⟨.escaped index.digitChar, spelled, writes_escaped (readable index inside)⟩

/-- A leaf is left unfinished by its spelling. -/
theorem Awaits.reads_of_leaf {anchored : Bool} {node : Node} (awaits : draft.Awaits anchored base)
    (leaf : Leaf node) (spelled : node.SpelledBy text) (offset : Nat) :
    draft.Reads offset text (base.pending 0 anchored node) := by
  obtain ⟨token, rfl, writes⟩ := leaf.writes spelled
  apply reads_token token writes.whole
  rw [awaits offset token writes.begins]
  unfold readAtom
  split
  · exact absurd rfl writes.noGroup
  · exact absurd rfl writes.noSet
  · rw [writes.written]
    rfl

/-! ## Sets -/

/-- The draft in the middle of a set. -/
def inSet (draft : Draft) (anchored : Bool) (opened : Nat) (negated : Bool)
    (members : List SetMember) : Draft :=
  { draft with focus := .set anchored opened negated members }

section Sets

variable {anchored negated : Bool} {opened : Nat} {members : List SetMember}

/-- The spelling of a member is a token that is read as the member. -/
theorem ofToken?_of_spelledBy {member : SetMember} (spelled : member.SpelledBy text)
    (written : member ≠ .ofClass .any) :
    ∃ token, token.Whole ∧ text = token.spelling ∧ token ≠ .plain ']' ∧
      SetMember.ofToken? token = some member := by
  cases member with
  | literal rune =>
    rcases spelled with ⟨noBracket, noBackslash, same⟩ | ⟨noDigit, noWord, same⟩
    · exact ⟨.plain rune, noBackslash, same, fun same => noBracket (Token.plain.inj same), rfl⟩
    · have noClass : Rune.Class.ofEscaped? rune = none := by
        unfold Rune.Class.ofEscaped?
        split
        · exact absurd rfl noDigit
        · exact absurd rfl noWord
        · rfl
      refine ⟨.escaped rune, trivial, same, nofun, ?_⟩
      rw [SetMember.ofToken?, noClass]
  | ofClass kind =>
    cases kind with
    | digit => exact ⟨.escaped 'd', trivial, spelled, nofun, rfl⟩
    | word => exact ⟨.escaped 'w', trivial, spelled, nofun, rfl⟩
    | any => exact absurd rfl written

/-- Inside a set a token that is a member is taken as one. -/
theorem read_inSet {token : Token} {member : SetMember} (noBracket : token ≠ .plain ']')
    (written : SetMember.ofToken? token = some member) :
    (draft.inSet anchored opened negated members).read (offset, token) =
      .ok (draft.inSet anchored opened negated (member :: members)) := by
  show readMember _ anchored opened negated members token = _
  unfold readMember
  split
  · exact absurd rfl noBracket
  · rw [written]
    rfl

/-- Members are taken one after another. -/
theorem reads_inSet {later : List SetMember} (spelled : SetMember.AllSpelledBy later text)
    (written : .ofClass .any ∉ later) :
    (draft.inSet anchored opened negated members).Reads offset text
      (draft.inSet anchored opened negated (later.reverse ++ members)) := by
  induction later generalizing members offset text with
  | nil =>
    rw [spelled]
    exact .nil _ _
  | cons member rest ih =>
    obtain ⟨first, behind, here, others, rfl⟩ := spelled
    obtain ⟨notAny, noneAny⟩ := List.ne_and_not_mem_of_not_mem_cons written
    obtain ⟨token, whole, rfl, noBracket, isMember⟩ := ofToken?_of_spelledBy here (Ne.symm notAny)
    rw [List.reverse_cons, List.append_assoc]
    exact .cons token whole (read_inSet noBracket isMember) (ih others noneAny)

/-- A set that is opened is not negated by a text that does not begin like that. -/
theorem reads_openedSet {inside : List SetMember} (spelled : SetMember.AllSpelledBy inside text)
    (written : .ofClass .any ∉ inside) (nonempty : inside ≠ []) (plain : text.head? ≠ some '^') :
    ({ draft with focus := .openedSet anchored opened } : Draft).Reads offset text
      (draft.inSet anchored opened false inside.reverse) := by
  cases inside with
  | nil => exact absurd rfl nonempty
  | cons member rest =>
    obtain ⟨first, behind, here, others, rfl⟩ := spelled
    obtain ⟨notAny, noneAny⟩ := List.ne_and_not_mem_of_not_mem_cons written
    obtain ⟨token, whole, rfl, noBracket, isMember⟩ := ofToken?_of_spelledBy here (Ne.symm notAny)
    have noNegation : token ≠ .plain '^' := by
      intro same
      rw [same] at plain
      exact plain rfl
    have taken : ({ draft with focus := .openedSet anchored opened } : Draft).read (offset, token) =
        (draft.inSet anchored opened false []).read (offset, token) :=
      if_neg noNegation
    rw [List.reverse_cons]
    exact .cons token whole (taken.trans (read_inSet noBracket isMember)) (reads_inSet others noneAny)

/-- A bracket closes a set that has members. -/
theorem read_closing (nonempty : members ≠ []) :
    (draft.inSet anchored opened negated members).read (offset, .plain ']') =
      .ok (draft.pending 0 anchored (.set members.reverse negated)) := by
  cases members with
  | nil => exact absurd rfl nonempty
  | cons member rest => rfl

/-- A set is left unfinished by its spelling. -/
theorem Awaits.reads_of_set (awaits : draft.Awaits anchored base) (nonempty : members ≠ [])
    (written : .ofClass .any ∉ members) (spelled : (Node.set members negated).SpelledBy text)
    (offset : Nat) : draft.Reads offset text (base.pending 0 anchored (.set members negated)) := by
  obtain ⟨inner, ⟨inside, members', polarity⟩, rfl⟩ := spelled
  have opening : draft.read (offset, .plain '[') =
      .ok { base with focus := .openedSet anchored offset } := by
    rw [awaits offset (.plain '[') (by decide)]
    rfl
  have closing : ∀ place, (base.inSet anchored offset negated members.reverse).Reads place [']']
      (base.pending 0 anchored (.set members negated)) := by
    intro place
    apply reads_token (.plain ']') (by decide)
    rw [read_closing (by simpa using nonempty), List.reverse_reverse]
  refine .append (.cons (.plain '[') (by decide) opening ?_) (closing _)
  cases negated with
  | true =>
    have negation : inner = '^' :: inside := polarity
    have negating : ∀ place,
        ({ base with focus := .openedSet anchored offset } : Draft).read (place, .plain '^') =
          .ok (base.inSet anchored offset true []) :=
      fun _ => rfl
    rw [negation]
    refine .cons (.plain '^') (by decide) (negating _) ?_
    rw [← List.append_nil members.reverse]
    exact reads_inSet members' written
  | false =>
    obtain ⟨rfl, plain⟩ := polarity
    exact reads_openedSet members' written nonempty plain

end Sets

/-! ## Elements, branches and groups -/

/-- An element without anchors is read from every draft that awaits one. -/
def OperandReads (node : Node) : Prop :=
  ∀ (draft base : Draft) (anchored : Bool) (offset count : Nat) (text : Text),
    draft.Awaits anchored base → node.SpelledBy text →
    node.indices = List.range' (base.groupCount + 1) count →
    ∃ next, draft.Reads offset text next ∧ next.Between ∧
      next.settle = base.grow count [anchor anchored node]

/-- An element with its anchors is read from every draft between elements, and a first one from every
draft at the head of a branch. -/
def PieceReads (first : Bool) (node : Node) : Prop :=
  ∀ (draft : Draft) (offset count : Nat) (text : Text),
    draft.Between → (first = true → draft.AtHead) → node.SpelledBy text →
    node.indices = List.range' (draft.groupCount + 1) count →
    ∃ next, draft.Reads offset text next ∧ next.Outside ∧
      (node ≠ .startAnchor (.sequence []) → next.Between) ∧
      next.settle = draft.settle.grow count [node]

/-- A branch is read from every draft at its head. -/
def RowReads (node : Node) : Prop :=
  ∀ (draft : Draft) (offset count : Nat) (text : Text),
    draft.AtHead → node.SpelledBy text →
    node.indices = List.range' (draft.groupCount + 1) count →
    ∃ nodes next, node = .sequence nodes ∧ draft.Reads offset text next ∧ next.Outside ∧
      next.settle = draft.grow count nodes

/-- Groups that are numbered one after another are numbered so in a first part and in the rest. -/
theorem range'_split {few later : List Nat} {start count : Nat}
    (numbered : few ++ later = List.range' start count) :
    ∃ first rest, first + rest = count ∧ few = List.range' start first ∧
      later = List.range' (start + first) rest := by
  obtain ⟨first, most, here, there⟩ := List.range'_eq_append_iff.1 numbered.symm
  exact ⟨first, count - first, by omega, here, by rw [there, Nat.mul_one]⟩

/-- A draft that is left with a pending element has it finished when it is settled. -/
theorem between_pending (base : Draft) (count : Nat) (anchored : Bool) (node : Node) :
    (base.pending count anchored node).Between :=
  .inr ⟨anchored, node, rfl⟩

/-- An element that matches one rune is left unfinished by its spelling. -/
theorem Awaits.reads_of_isQuantifiable {anchored : Bool} {node : Node}
    (awaits : draft.Awaits anchored base) (single : node.isQuantifiable = true)
    (operand : Operand node) (spelled : node.SpelledBy text) (offset : Nat) :
    draft.Reads offset text (base.pending 0 anchored node) := by
  cases operand with
  | literal rune => exact awaits.reads_of_leaf (.literal rune) spelled offset
  | ofClass kind => exact awaits.reads_of_leaf (.ofClass kind) spelled offset
  | set negated nonempty written => exact awaits.reads_of_set nonempty written spelled offset
  | optional | onceOrMore | backreference | group => cases single

/-- A quantifier finishes the element before it. -/
theorem reads_quantifier {anchored : Bool} {node : Node} (quantifier : Quantifier)
    (single : node.isQuantifiable = true) :
    (base.pending 0 anchored node).Reads offset [quantifier.rune]
      (base.grow 0 [anchor anchored (quantifier.apply node)]) := by
  have taken : (base.pending 0 anchored node).read (offset, .plain quantifier.rune) =
      .ok (base.grow 0 [anchor anchored (quantifier.apply node)]) := by
    show readQuantifier _ anchored node offset _ = _
    cases quantifier with
    | question => exact if_pos single
    | plus => exact if_pos single
  have whole : (Token.plain quantifier.rune).Whole := by
    cases quantifier <;> decide
  exact reads_token _ whole taken

/-- So a quantified element is read. -/
theorem operandReads_quantified {node : Node} (quantifier : Quantifier)
    (single : node.isQuantifiable = true) (operand : Operand node)
    (written : ∀ text, (quantifier.apply node).SpelledBy text →
      ∃ inside, node.SpelledBy inside ∧ text = inside ++ [quantifier.rune]) :
    OperandReads (quantifier.apply node) := by
  intro draft base anchored offset count text awaits spelled numbered
  obtain ⟨inside, here, rfl⟩ := written text spelled
  rw [indices_apply, indices_eq_nil_of_isQuantifiable single] at numbered
  have none : count = 0 := by simpa using congrArg List.length numbered.symm
  rw [none]
  exact ⟨_, (awaits.reads_of_isQuantifiable single operand here offset).append
    (reads_quantifier quantifier single), .inl rfl, settle_of_element rfl⟩

/-- A leaf is read. -/
theorem operandReads_leaf {node : Node} (leaf : Leaf node) (noGroups : node.indices = []) :
    OperandReads node := by
  intro draft base anchored offset count text awaits spelled numbered
  rw [noGroups] at numbered
  have none : count = 0 := by simpa using congrArg List.length numbered.symm
  rw [none]
  exact ⟨_, awaits.reads_of_leaf leaf spelled offset, between_pending _ _ _ _, settle_pending _ _ _ _⟩

/-- Elements behind a first one are read one after another. -/
theorem reads_later {nodes : List Node} (each : ∀ node ∈ nodes, PieceReads false node)
    (noneBare : ∀ node ∈ nodes, node ≠ .startAnchor (.sequence [])) {count : Nat}
    (between : draft.Between) (spelled : RowSpelledBy nodes text)
    (numbered : nodes.flatMap Node.indices = List.range' (draft.groupCount + 1) count) :
    ∃ next, draft.Reads offset text next ∧ next.Between ∧
      next.settle = draft.settle.grow count nodes := by
  induction nodes generalizing draft offset text count with
  | nil =>
    have none : count = 0 := by simpa using congrArg List.length numbered.symm
    have settled : draft.settle.focus = .element := Outside.settle_focus (.inl between)
    rw [none, show text = [] from spelled]
    refine ⟨draft, .nil _ _, between, ?_⟩
    rw [grow, ← settled]
    rfl
  | cons node rest ih =>
    obtain ⟨first, behind, here, others, rfl⟩ := spelled
    rw [List.flatMap_cons] at numbered
    obtain ⟨few, more, total, numberedHere, numberedLater⟩ := range'_split numbered
    obtain ⟨middle, read, -, open', settled⟩ := each node List.mem_cons_self draft offset few first
      between nofun here numberedHere
    have between' := open' (noneBare node List.mem_cons_self)
    have counted : middle.groupCount = draft.groupCount + few := by
      rw [← settle_groupCount middle, settled, grow, settle_groupCount]
    obtain ⟨next, readLater, between'', settledLater⟩ := ih
      (fun other member => each other (List.mem_cons_of_mem _ member))
      (fun other member => noneBare other (List.mem_cons_of_mem _ member)) between' others
      (by rw [numberedLater, counted, Nat.add_right_comm])
    refine ⟨next, read.append readLater, between'', ?_⟩
    rw [settledLater, settled, grow_grow, total]
    rfl

/-- A branch is read element by element. -/
theorem rowReads_cons {head : Node} {rest : List Node} (first : PieceReads true head)
    (last : head = .startAnchor (.sequence []) → rest = [])
    (each : ∀ node ∈ rest, PieceReads false node)
    (noneBare : ∀ node ∈ rest, node ≠ .startAnchor (.sequence [])) :
    RowReads (.sequence (head :: rest)) := by
  intro draft offset count text atHead spelled numbered
  obtain ⟨front, behind, here, others, rfl⟩ := spelled
  rw [indices_sequence, List.flatMap_cons] at numbered
  obtain ⟨few, more, total, numberedHere, numberedLater⟩ := range'_split numbered
  obtain ⟨middle, read, outside, open', settled⟩ := first draft offset few front (.inl atHead.focus)
    (fun _ => atHead) here numberedHere
  rw [settle_of_element atHead.focus] at settled
  by_cases bare : head = .startAnchor (.sequence [])
  · have nothing := last bare
    subst nothing
    have none : more = 0 := by simpa using congrArg List.length numberedLater.symm
    rw [show behind = [] from others, List.append_nil, ← total, none]
    exact ⟨[head], middle, rfl, read, outside, settled⟩
  · have counted : middle.groupCount = draft.groupCount + few := by
      rw [← settle_groupCount middle, settled, grow]
    obtain ⟨next, readLater, between, settledLater⟩ := reads_later each noneBare (open' bare) others
      (by rw [numberedLater, counted, Nat.add_right_comm])
    refine ⟨head :: rest, next, rfl, read.append readLater, .inl between, ?_⟩
    rw [settledLater, settled, grow_grow, total]
    rfl

/-- A bar in front of a further branch. -/
theorem reads_bar {nodes : List Node} {count : Nat} (atHead : draft.AtHead)
    (outside : middle.Outside) (settled : middle.settle = draft.grow count nodes) :
    middle.Reads offset ['|'] ⟨draft.groupCount + count, draft.enclosing,
      ⟨.sequence nodes :: draft.alternation.branches, []⟩, .element⟩ := by
  apply reads_token (.plain '|') (by decide)
  rw [outside.read_of_ends rfl, settled]
  show Except.ok { draft.grow count nodes with
    alternation := (draft.grow count nodes).alternation.nextBranch } = _
  simp only [grow, Alternation.nextBranch, atHead.elements, List.append_nil, List.reverse_reverse]

/-- Branches are read one after another. -/
theorem reads_branches {branches : List Node} (each : ∀ branch ∈ branches, RowReads branch)
    {count : Nat} (offset : Nat) (atHead : draft.AtHead) (spelled : BranchesSpelledBy branches text)
    (numbered : branches.flatMap Node.indices = List.range' (draft.groupCount + 1) count) :
    ∃ next, draft.Reads offset text next ∧ next.Outside ∧
      next.settle.groupCount = draft.groupCount + count ∧
      next.settle.enclosing = draft.enclosing ∧
      next.settle.alternation.allBranches = draft.alternation.branches.reverse ++ branches := by
  induction branches generalizing draft offset text count with
  | nil => exact spelled.elim
  | cons branch rest ih =>
    rw [List.flatMap_cons] at numbered
    obtain ⟨few, more, total, numberedHere, numberedLater⟩ := range'_split numbered
    have here := each branch List.mem_cons_self
    cases rest with
    | nil =>
      have none : more = 0 := by simpa using congrArg List.length numberedLater.symm
      obtain ⟨nodes, next, rfl, read, outside, settled⟩ := here draft offset few text atHead spelled
        numberedHere
      refine ⟨next, read, outside, ?_⟩
      rw [settled, ← total, none]
      refine ⟨rfl, rfl, ?_⟩
      simp only [grow, Alternation.allBranches, atHead.elements, List.append_nil,
        List.reverse_reverse, List.reverse_cons]
    | cons second rest =>
      obtain ⟨front, behind, first, others, rfl⟩ := spelled
      obtain ⟨nodes, middle, rfl, read, outside, settled⟩ := here draft offset few front atHead first
        numberedHere
      let further : Draft := ⟨draft.groupCount + few, draft.enclosing,
        ⟨.sequence nodes :: draft.alternation.branches, []⟩, .element⟩
      have bar : middle.Reads (offset + front.length) ['|'] further := reads_bar atHead outside settled
      obtain ⟨next, readLater, outside, counted, around, all⟩ := ih
        (fun other member => each other (List.mem_cons_of_mem _ member)) (offset + front.length + 1)
        (⟨rfl, rfl⟩ : further.AtHead) others (by rw [numberedLater, Nat.add_right_comm])
      refine ⟨next, read.append (bar.append readLater), outside, ?_, around, ?_⟩
      · rw [counted, ← total, Nat.add_assoc]
      · rw [all, List.reverse_cons, List.append_assoc, List.singleton_append]

/-- A group is left unfinished by its spelling. -/
theorem operandReads_group {index : Nat} {branches : List Node}
    (each : ∀ branch ∈ branches, RowReads branch) : OperandReads (.group index branches) := by
  intro draft base anchored offset count text awaits spelled numbered
  obtain ⟨inside, here, rfl⟩ := spelled
  rw [indices_group] at numbered
  cases count with
  | zero => cases numbered
  | succ count =>
    rw [List.range'_succ] at numbered
    obtain ⟨rfl, numberedInside⟩ := List.cons.inj numbered
    let opened : Draft := ⟨base.groupCount + 1,
      ⟨offset, base.groupCount + 1, anchored, base.alternation⟩ :: base.enclosing, .empty, .element⟩
    have opening : draft.read (offset, .plain '(') = .ok opened := by
      rw [awaits offset (.plain '(') (by decide)]
      rfl
    obtain ⟨inner, read, outside, counted, around, all⟩ := reads_branches each
      (offset + 1) (⟨rfl, rfl⟩ : opened.AtHead) here numberedInside
    let next := base.pending (count + 1) anchored (.group (base.groupCount + 1) branches)
    have closing : ∀ place, inner.Reads place [')'] next := by
      intro place
      apply reads_token (.plain ')') (by decide)
      rw [outside.read_of_ends rfl]
      show inner.settle.closeGroup place = _
      unfold closeGroup
      rw [around]
      simp only [all, counted, opened, next, pending, Alternation.empty, List.reverse_nil,
        List.nil_append]
      congr 2
      omega
    refine ⟨next, ?_, between_pending _ _ _ _, settle_pending _ _ _ _⟩
    exact .append (.cons (.plain '(') (by decide) opening read) (closing _)

/-- An end anchor anchors the element before it. -/
theorem pieceReads_endAnchor {first : Bool} {node : Node} (reads : PieceReads first node) :
    PieceReads first (.endAnchor node) := by
  intro draft offset count text between atHead spelled numbered
  obtain ⟨inside, here, rfl⟩ := spelled
  rw [indices_endAnchor] at numbered
  obtain ⟨middle, read, outside, -, settled⟩ := reads draft offset count inside between atHead here
    numbered
  let next := draft.settle.grow count [.endAnchor node]
  have anchoring : ∀ place, middle.Reads place ['$'] next := by
    intro place
    apply reads_token (.plain '$') (by decide)
    rw [outside.read_of_ends rfl, settled]
    rfl
  exact ⟨next, read.append (anchoring _), .inl (.inl rfl), fun _ => .inl rfl,
    settle_of_element rfl⟩

/-- An element without anchors is an element of a branch. -/
theorem pieceReads_operand {first : Bool} {node : Node} (reads : OperandReads node) :
    PieceReads first node := by
  intro draft offset count text between _ spelled numbered
  rw [← settle_groupCount] at numbered
  obtain ⟨next, read, between', settled⟩ := reads draft draft.settle false offset count text
    between.awaits spelled numbered
  exact ⟨next, read, .inl between', fun _ => between', settled⟩

/-- A start anchor is taken at the head of a branch. -/
theorem AtHead.reads_startAnchor (atHead : draft.AtHead) (offset : Nat) :
    draft.Reads offset ['^'] { draft with focus := .anchor } := by
  apply reads_token (.plain '^') (by decide)
  rw [read, atHead.focus]
  show (if draft.alternation.elements.isEmpty then _ else _) = _
  rw [atHead.elements]
  rfl

/-- A start anchor anchors the element behind it. -/
theorem pieceReads_startAnchor {node : Node} (reads : OperandReads node) :
    PieceReads true (.startAnchor node) := by
  intro draft offset count text _ atHead spelled numbered
  obtain ⟨inside, here, rfl⟩ := spelled
  have head := atHead rfl
  rw [indices_startAnchor] at numbered
  obtain ⟨next, read, between, settled⟩ := reads { draft with focus := .anchor }
    { draft with focus := .anchor } true (offset + 1) count inside (awaits_of_anchor rfl) here numbered
  refine ⟨next, (head.reads_startAnchor offset).append read, .inl between, fun _ => between, ?_⟩
  rw [settled, settle_of_element head.focus]
  rfl

/-- A start anchor may stand alone. -/
theorem pieceReads_bareStartAnchor : PieceReads true (.startAnchor (.sequence [])) := by
  intro draft offset count text _ atHead spelled numbered
  obtain ⟨inside, here, rfl⟩ := spelled
  have head := atHead rfl
  have none : count = 0 := by simpa using congrArg List.length numbered.symm
  rw [show inside = [] from here, none]
  refine ⟨_, head.reads_startAnchor offset, .inr rfl, fun other => absurd rfl other, ?_⟩
  rw [settle_of_element head.focus]
  rfl

/-- Only a first element may be a start anchor that anchors nothing. -/
theorem ne_bareStartAnchor_of_piece {node : Node} (piece : Piece false node) :
    node ≠ .startAnchor (.sequence []) := by
  rintro rfl
  cases piece with
  | operand operand => cases operand

mutual

/-- Everything that may stand between anchors is read. -/
theorem operandReads : {node : Node} → Operand node → OperandReads node
  | _, .literal rune => operandReads_leaf (.literal rune) rfl
  | _, .ofClass kind => operandReads_leaf (.ofClass kind) rfl
  | _, .backreference positive digit => operandReads_leaf (.backreference positive digit) rfl
  | _, .set negated nonempty written => by
    intro draft base anchored offset count text awaits spelled numbered
    rw [indices_eq_nil_of_isQuantifiable rfl] at numbered
    have none : count = 0 := by simpa using congrArg List.length numbered.symm
    rw [none]
    exact ⟨_, awaits.reads_of_set nonempty written spelled offset, between_pending _ _ _ _,
      settle_pending _ _ _ _⟩
  | _, .optional single operand => by
    apply operandReads_quantified .question single operand
    intro text ⟨inside, here, mark⟩
    rcases mark with ⟨-, -, rfl⟩ | ⟨one, -, -⟩
    · exact ⟨inside, here, rfl⟩
    · cases one
  | _, .onceOrMore single operand => by
    apply operandReads_quantified .plus single operand
    intro text ⟨inside, here, mark⟩
    rcases mark with ⟨zero, -, -⟩ | ⟨-, -, rfl⟩
    · cases zero
    · exact ⟨inside, here, rfl⟩
  | _, .group index _ each => operandReads_group fun branch member => rowReads (each branch member)

/-- So is every element with its anchors. -/
theorem pieceReads : {first : Bool} → {node : Node} → Piece first node → PieceReads first node
  | _, _, .operand operand => pieceReads_operand (operandReads operand)
  | _, _, .startAnchor operand => pieceReads_startAnchor (operandReads operand)
  | _, _, .bareStartAnchor => pieceReads_bareStartAnchor
  | _, _, .endAnchor piece => pieceReads_endAnchor (pieceReads piece)

/-- So is every branch. -/
theorem rowReads : {node : Node} → Row node → RowReads node
  | _, .empty => by
    intro draft offset count text atHead spelled numbered
    have none : count = 0 := by simpa using congrArg List.length numbered.symm
    rw [show text = [] from spelled, none]
    refine ⟨[], draft, rfl, .nil _ _, .inl (.inl atHead.focus), ?_⟩
    rw [settle_of_element atHead.focus, grow, ← atHead.focus]
    rfl
  | _, .cons first last later =>
    rowReads_cons (pieceReads first) last (fun node member => pieceReads (later node member))
      fun node member => ne_bareStartAnchor_of_piece (later node member)

end

/-- A draft is finished when it is outside of all sets and groups: with what is settled in it. -/
theorem finish_eq_ok {tree : Node} {count : Nat} :
    draft.finish = .ok (tree, count) ↔
      draft.Outside ∧ draft.enclosing = [] ∧ root draft.settle.alternation = tree ∧
        draft.groupCount = count := by
  have finished : draft.Outside → draft.enclosing = [] →
      draft.finish = .ok (root draft.settle.alternation, draft.groupCount) := by
    intro outside closed
    unfold finish
    rcases outside with (between | ⟨anchored, node, unfinished⟩) | unfinished
    · rw [between, closed]
    · rw [unfinished, closed]
    · rw [unfinished, closed]
  constructor
  · intro found
    have outside : draft.Outside := by
      cases unfinished : draft.focus with
      | element => exact .inl (.inl unfinished)
      | anchor => exact .inr unfinished
      | atom anchored node => exact .inl (.inr ⟨anchored, node, unfinished⟩)
      | openedSet | set =>
        unfold finish at found
        rw [unfinished] at found
        cases found
    have closed : draft.enclosing = [] := by
      cases around : draft.enclosing with
      | nil => rfl
      | cons opened enclosing =>
        unfold finish at found
        rw [around] at found
        split at found <;> cases found
    rw [finished outside closed] at found
    cases found
    exact ⟨outside, closed, rfl, rfl⟩
  · rintro ⟨outside, closed, rfl, rfl⟩
    exact finished outside closed

end Draft

namespace Pattern

/-- Spellings of branches with bars between them are read as an alternation of these branches. -/
theorem parse_of_branches {branches : List Node} {count : Nat} {source : Text}
    (each : ∀ branch ∈ branches, Row branch) (spelled : BranchesSpelledBy branches source)
    (numbered : branches.flatMap indices = List.range' 1 count) :
    ∃ alternation, alternation.allBranches = branches ∧
      parse source = .ok (Draft.root alternation, count) := by
  have empty : Draft.empty.AtHead := ⟨rfl, rfl⟩
  obtain ⟨final, read, outside, counted, around, all⟩ := Draft.reads_branches
    (fun branch member => Draft.rowReads (each branch member)) 0 empty spelled numbered
  have readAll : Draft.empty.readAll (Token.scan source) = .ok final := by
    have whole := read []
    rwa [List.append_nil] at whole
  rw [Draft.settle_groupCount] at counted
  rw [Draft.settle_enclosing] at around
  refine ⟨final.settle.alternation, all, ?_⟩
  unfold parse
  rw [readAll]
  exact Draft.finish_eq_ok.2 ⟨outside, around, rfl, counted.trans (Nat.zero_add count)⟩

/-- Every spelling of a well-formed tree is read as that tree, with the number of its groups. -/
theorem parse_eq_ok_of_writtenBy (tree : Node) (count : Nat) (source : Text)
    (wellFormed : WellFormed tree count) (written : tree.WrittenBy source) :
    parse source = .ok (tree, count) := by
  cases wellFormed with
  | branch row numbered =>
    have spelled : BranchesSpelledBy [tree] source := by
      cases row <;> exact written
    obtain ⟨alternation, all, parsed⟩ := parse_of_branches
      (fun branch member => List.mem_singleton.1 member ▸ row) spelled
      (by rw [List.flatMap_singleton, numbered])
    rw [parsed, Draft.root, all]
  | @alternation branches count several each numbered =>
    obtain ⟨alternation, all, parsed⟩ := parse_of_branches each written numbered
    rw [parsed, Draft.root, all]
    match branches, several with
    | _ :: _ :: _, _ => rfl

/-- In `^a?([\^d]+\10$|)|.` an escape keeps the set from being negated, and the digit behind the
backreference is a rune of its own. -/
theorem parse_of_escapes :
    ∃ tree, WellFormed tree 1 ∧ tree.WrittenBy "^a?([\\^d]+\\10$|)|.".toList ∧
      parse "^a?([\\^d]+\\10$|)|.".toList = .ok (tree, 1) := by
  let set : Node := .set [.literal '^', .literal 'd'] false
  let inner : Node :=
    .sequence [.repetition set 1 none, .backreference 1, .endAnchor (.literal '0')]
  let outer : Node := .sequence [.startAnchor (.repetition (.literal 'a') 0 (some 1)),
    .group 1 [inner, .sequence []]]
  let tree : Node := .group 0 [outer, .sequence [.ofClass .any]]
  have innerRow : Row inner := by
    refine .cons (.operand (.onceOrMore rfl (.set false (by decide) (by decide)))) (by decide) ?_
    intro node member
    rcases List.mem_pair.1 member with rfl | rfl
    · exact .operand (.backreference (by decide) (by decide))
    · exact .endAnchor (.operand (.literal '0'))
  have outerRow : Row outer := by
    refine .cons (.startAnchor (.optional rfl (.literal 'a'))) (by decide) ?_
    intro node member
    rw [List.mem_singleton.1 member]
    refine .operand (.group 1 (by decide) fun branch isBranch => ?_)
    rcases List.mem_pair.1 isBranch with rfl | rfl
    · exact innerRow
    · exact .empty
  have wellFormed : WellFormed tree 1 := by
    refine .alternation (by decide) (fun branch member => ?_) (by decide)
    rcases List.mem_pair.1 member with rfl | rfl
    · exact outerRow
    · exact .cons (.operand (.ofClass .any)) (by decide) (fun _ none => absurd none List.not_mem_nil)
  have setWritten : set.SpelledBy "[\\^d]".toList := by
    refine ⟨"\\^d".toList, ⟨"\\^d".toList, ?_, rfl, by decide⟩, rfl⟩
    exact ⟨['\\', '^'], ['d'], .inr ⟨by decide, by decide, rfl⟩,
      ⟨['d'], [], .inl ⟨by decide, by decide, rfl⟩, rfl, rfl⟩, rfl⟩
  have innerWritten : inner.SpelledBy "[\\^d]+\\10$".toList :=
    ⟨"[\\^d]+".toList, "\\10$".toList, ⟨"[\\^d]".toList, setWritten, .inr ⟨rfl, rfl, rfl⟩⟩,
      ⟨['\\', '1'], ['0', '$'], rfl, ⟨['0', '$'], [], ⟨['0'], .inl ⟨by decide, rfl⟩, rfl⟩, rfl, rfl⟩,
        rfl⟩, rfl⟩
  have outerWritten : outer.SpelledBy "^a?([\\^d]+\\10$|)".toList :=
    ⟨"^a?".toList, "([\\^d]+\\10$|)".toList,
      ⟨"a?".toList, ⟨['a'], .inl ⟨by decide, rfl⟩, .inl ⟨rfl, rfl, rfl⟩⟩, rfl⟩,
      ⟨"([\\^d]+\\10$|)".toList, [], ⟨"[\\^d]+\\10$|".toList,
        ⟨"[\\^d]+\\10$".toList, [], innerWritten, rfl, rfl⟩, rfl⟩, rfl, rfl⟩, rfl⟩
  have written : tree.WrittenBy "^a?([\\^d]+\\10$|)|.".toList :=
    ⟨"^a?([\\^d]+\\10$|)".toList, ['.'], outerWritten, ⟨['.'], [], rfl, rfl, rfl⟩, rfl⟩
  exact ⟨tree, wellFormed, written, parse_eq_ok_of_writtenBy tree 1 _ wellFormed written⟩

end Pattern
end PatternSearch
