import PatternSearch.Proofs.Descending

/-!
# Errors that point at their culprits

The offset of a pattern error is that of a rune, and the reason tells which one it is: the parenthesis
that is never closed, the bracket of the set, the quantifier, the anchor or the backslash
(`Reason.culprit?`). Some reasons tell more about the runes around it (`Reason.Around`). An unexpected end
blames no rune, and no text is refused for one.

An offset is noted long before it is reported when a group or a set stays open, and a quantifier is
refused for the element in front of it. So a draft carries along what stands at the offsets that it has
noted and in front of the next token (`Draft.Points`), and each token keeps that or is refused with an
error that points at its culprit (`leads_of_read`). Main statement: `pointsAt_of_parse_eq_error`, for
every refused text. The descent gives the same error, and so it never begins an element where no token
is left.
-/
namespace PatternSearch

/-! ## What an error points at -/

/-- A text of an element that no quantifier may follow ends in front of an offset: a group ends with its
parenthesis, a backreference with a digit that is not zero. -/
def EndsUnquantifiable (source : Text) (offset : Nat) (description : String) : Prop :=
  ∃ last rune, offset = last + 1 ∧ source[last]? = some rune ∧
    (description = "a group" ∧ rune = ')' ∨
      description = "a backreference" ∧ rune.isDigit = true ∧ rune ≠ '0')

namespace PatternError

/-- The rune that a reason blames, if it blames one. -/
def Reason.culprit? : Reason → Option Char
  | .unterminatedGroup => some '('
  | .unmatchedParenthesis => some ')'
  | .unterminatedSet | .emptySet => some '['
  | .danglingQuantifier quantifier | .unquantifiable quantifier _ => some quantifier.rune
  | .danglingEndAnchor => some '$'
  | .misplacedStartAnchor => some '^'
  | .invalidEscape _ | .zeroBackreference | .danglingEscape => some '\\'
  | .unexpectedEnd => none

/-- What a reason says about the text around the offset of its culprit. -/
def Reason.Around (source : Text) (offset : Nat) : Reason → Prop
  | .danglingQuantifier quantifier => quantifier.rune ∈ ['?', '+']
  | .unquantifiable quantifier operand =>
    quantifier.rune ∈ ['?', '+'] ∧ EndsUnquantifiable source offset operand
  | .invalidEscape rune =>
    source[offset + 1]? = some rune ∧ rune ∉ 'd' :: 'w' :: metacharacters ∧ rune.isDigit = false
  | .zeroBackreference => source[offset + 1]? = some '0'
  | .danglingEscape => offset + 1 = source.length
  | _ => True

/-- An error points at the rune that its reason blames, and what its reason says holds there. -/
structure PointsAt (source : Text) (error : PatternError) : Prop where
  /-- The reason blames a rune, and it is the one at the offset. -/
  culprit : ∃ rune ∈ error.reason.culprit?, source[error.offset]? = some rune
  /-- The text around it is as the reason says. -/
  around : error.reason.Around source error.offset

/-- An error that points at a rune is no unexpected end. -/
theorem PointsAt.reason_ne_unexpectedEnd {source : Text} {error : PatternError}
    (points : error.PointsAt source) : error.reason ≠ .unexpectedEnd := by
  intro unexpected
  have ⟨_, blamed, _⟩ := points.culprit
  rw [unexpected] at blamed
  cases blamed

end PatternError

/-- The rune of a quantifier is one of two. -/
theorem Quantifier.rune_mem (quantifier : Quantifier) : quantifier.rune ∈ ['?', '+'] := by
  cases quantifier <;> decide

/-! ## Tokens and what they write -/

/-- A token begins at an offset of a text. A backslash that escapes nothing ends the text. -/
def Token.StandsAt (source : Text) (offset : Nat) : Token → Prop
  | .plain rune => source[offset]? = some rune
  | .escaped rune => source[offset]? = some '\\' ∧ source[offset + 1]? = some rune
  | .danglingEscape => source[offset]? = some '\\' ∧ offset + 1 = source.length

/-- A quantifier is the rune that it is read from. -/
theorem Quantifier.plain_of_ofToken? {token : Token} {quantifier : Quantifier}
    (written : Quantifier.ofToken? token = some quantifier) : token = .plain quantifier.rune := by
  unfold Quantifier.ofToken? at written
  split at written <;> cases written <;> rfl

namespace Node

variable {source : Text} {offset : Nat} {token : Token} {node : Node} {rune : Char}
  {reason : PatternError.Reason}

/-- An escaped rune is no node when it is zero, or when it has no escaped meaning at all. -/
theorem ofEscaped_eq_error (refused : ofEscaped rune = .error reason) :
    rune = '0' ∧ reason = .zeroBackreference ∨
      rune ∉ 'd' :: 'w' :: metacharacters ∧ rune.isDigit = false ∧ reason = .invalidEscape rune := by
  unfold ofEscaped at refused
  split at refused
  · cases refused
  · rename_i zero
    cases refused
    exact .inl ⟨(Draft.digitChar_of_backreferenceIndex? zero).2, rfl⟩
  · cases refused
  · rename_i noClass noDigit
    split at refused
    · cases refused
    · rename_i notMeta
      cases refused
      have notDigit : ¬ rune.isDigit = true := fun digit => by
        rw [backreferenceIndex?, if_pos digit] at noDigit
        cases noDigit
      refine .inr ⟨?_, Bool.eq_false_iff.2 notDigit, rfl⟩
      rw [List.mem_cons, List.mem_cons]
      rintro (rfl | rfl | isMeta)
      · cases noClass
      · cases noClass
      · exact notMeta isMeta

/-- A node that an escaped rune writes may be quantified, or it is a backreference and the rune is a digit
that is not zero. -/
theorem ofEscaped_eq_ok (written : ofEscaped rune = .ok node) :
    node.isQuantifiable = true ∨
      node.description = "a backreference" ∧ rune.isDigit = true ∧ rune ≠ '0' := by
  unfold ofEscaped at written
  split at written
  · cases written
    exact .inl rfl
  · cases written
  · rename_i index notZero noClass isIndex
    cases written
    refine .inr ⟨rfl, ?_, ?_⟩
    · by_contra notDigit
      rw [backreferenceIndex?, if_neg notDigit] at isIndex
      cases isIndex
    · rintro rfl
      exact notZero (Option.some.inj isIndex).symm
  · split at written
    · cases written
      exact .inl rfl
    · cases written

/-- A token that is no node is the culprit of its error. -/
theorem pointsAt_of_ofToken (stands : token.StandsAt source offset)
    (refused : ofToken token = .error reason) : PatternError.PointsAt source ⟨offset, reason⟩ := by
  unfold ofToken at refused
  split at refused
  case h_1 => cases refused
  case h_2 | h_3 =>
    cases refused
    exact ⟨⟨_, rfl, stands⟩, Quantifier.rune_mem _⟩
  case h_4 | h_5 =>
    cases refused
    exact ⟨⟨_, rfl, stands⟩, trivial⟩
  case h_6 => cases refused
  case h_7 rune =>
    have ⟨backslash, escaped⟩ := stands
    rcases ofEscaped_eq_error refused with ⟨rfl, rfl⟩ | ⟨notMeta, notDigit, rfl⟩
    · exact ⟨⟨_, rfl, backslash⟩, escaped⟩
    · exact ⟨⟨_, rfl, backslash⟩, escaped, notMeta, notDigit⟩
  case h_8 =>
    have ⟨backslash, ended⟩ := stands
    cases refused
    exact ⟨⟨_, rfl, backslash⟩, ended⟩

/-- A token that is a node may be followed by a quantifier, or ends as the text of a backreference. -/
theorem endsUnquantifiable_of_ofToken (stands : token.StandsAt source offset)
    (written : ofToken token = .ok node) (unquantifiable : node.isQuantifiable = false) :
    EndsUnquantifiable source (offset + token.spelling.length) node.description := by
  unfold ofToken at written
  split at written
  case h_7 rune =>
    rcases ofEscaped_eq_ok written with quantifiable | ⟨described, digit, notZero⟩
    · rw [quantifiable] at unquantifiable
      cases unquantifiable
    · exact ⟨offset + 1, rune, rfl, stands.2, .inr ⟨described, digit, notZero⟩⟩
  all_goals cases written
  all_goals cases unquantifiable

end Node

namespace Draft

/-! ## Drafts that keep their offsets -/

/-- The groups that are open stand at the offsets noted for them. -/
def Opened (source : Text) (draft : Draft) : Prop :=
  ∀ group ∈ draft.enclosing, source[group.offset]? = some '('

/-- What the latest token left unfinished in front of an offset: a node that may not be quantified ends
there, and a set stands at the offset noted for it. -/
def Focus.Points (source : Text) (offset : Nat) : Focus → Prop
  | .element | .anchor => True
  | .atom _ node => node.isQuantifiable = false → EndsUnquantifiable source offset node.description
  | .openedSet _ opened | .set _ opened _ _ => source[opened]? = some '['

/-- A draft of which a text is read up to an offset knows where its culprits would stand. -/
structure Points (source : Text) (offset : Nat) (draft : Draft) : Prop where
  /-- The open groups. -/
  opened : draft.Opened source
  /-- The latest token. -/
  focus : draft.focus.Points source offset

/-- A token leads to a draft that knows where its culprits would stand, or to an error that points at its
own. -/
def Leads (source : Text) (offset : Nat) : Except PatternError Draft → Prop
  | .ok next => next.Points source offset
  | .error error => error.PointsAt source

variable {source : Text} {draft : Draft} {offset : Nat} {token : Token} {anchored : Bool}

/-- Finishing an element opens and closes no group. -/
theorem Opened.settle (opened : draft.Opened source) : draft.settle.Opened source := by
  unfold Opened
  rwa [settle_enclosing]

/-- An element that is finished leaves nothing unfinished. -/
theorem settle_focus_eq_element (outside : draft.Outside) : draft.settle.focus = .element := by
  unfold Draft.settle
  rcases outside with (element | ⟨anchored, node, atom⟩) | anchor
  · simp only [element]
  · simp only [atom, push]
  · simp only [anchor, push]

/-- A parenthesis ends the innermost group, or it is the culprit. -/
theorem leads_of_closeGroup (opened : draft.Opened source) (stands : source[offset]? = some ')') :
    Leads source (offset + 1) (draft.closeGroup offset) := by
  unfold closeGroup
  split
  · exact ⟨⟨_, rfl, stands⟩, trivial⟩
  · rename_i group enclosing around
    refine ⟨fun outer member => opened outer ?_, fun _ => ?_⟩
    · rw [around]
      exact List.mem_cons_of_mem _ member
    · exact ⟨offset, ')', rfl, stands, .inl ⟨rfl, rfl⟩⟩

/-- A `$` anchors the latest element, or it is the culprit. -/
theorem leads_of_anchorEnd (opened : draft.Opened source) (between : draft.focus = .element)
    (stands : source[offset]? = some '$') : Leads source (offset + 1) (draft.anchorEnd offset) := by
  unfold anchorEnd
  split
  · exact ⟨⟨_, rfl, stands⟩, trivial⟩
  · refine ⟨opened, ?_⟩
    rw [between]
    trivial

/-- A token opens a group or a set, or it writes a node, or it is the culprit. -/
theorem leads_of_readAtom (opened : draft.Opened source) (stands : token.StandsAt source offset) :
    Leads source (offset + token.spelling.length) (draft.readAtom anchored offset token) := by
  unfold readAtom
  split
  · refine ⟨fun group member => ?_, trivial⟩
    rcases List.mem_cons.1 member with rfl | outer
    · exact stands
    · exact opened group outer
  · exact ⟨opened, stands⟩
  · split
    · rename_i node written
      exact ⟨opened, Node.endsUnquantifiable_of_ofToken stands written⟩
    · rename_i reason refused
      exact Node.pointsAt_of_ofToken stands refused

/-- Between two elements a token does that, or it anchors, or it ends a branch. -/
theorem leads_of_readElement (opened : draft.Opened source) (between : draft.focus = .element)
    (stands : token.StandsAt source offset) :
    Leads source (offset + token.spelling.length) (draft.readElement offset token) := by
  unfold readElement
  split
  · exact leads_of_closeGroup opened stands
  · refine ⟨opened, ?_⟩
    rw [between]
    trivial
  · exact leads_of_anchorEnd opened between stands
  · split
    · exact ⟨opened, trivial⟩
    · exact ⟨⟨_, rfl, stands⟩, trivial⟩
  · exact leads_of_readAtom opened stands

/-- A quantifier is taken behind an element that it may follow, and it is the culprit behind any other. -/
theorem leads_of_readQuantifier {node : Node} (points : draft.Points source offset)
    (unfinished : draft.focus = .atom anchored node) (stands : token.StandsAt source offset) :
    Leads source (offset + token.spelling.length)
      (draft.readQuantifier anchored node offset token) := by
  unfold readQuantifier
  split
  · rename_i quantifier written
    rw [Quantifier.plain_of_ofToken? written] at stands
    split
    · exact ⟨points.opened, trivial⟩
    · rename_i unquantifiable
      have front := points.focus
      rw [unfinished] at front
      exact ⟨⟨_, rfl, stands⟩, quantifier.rune_mem, front (Bool.eq_false_iff.2 unquantifiable)⟩
  · have outside : draft.Outside := .inl (.inr ⟨anchored, node, unfinished⟩)
    exact leads_of_readElement points.opened.settle (settle_focus_eq_element outside) stands

/-- Inside a set a token is a member or ends the set, or the bracket of the set is the culprit. -/
theorem leads_of_readMember {opened : Nat} {negated : Bool} {members : List SetMember} (behind : Nat)
    (around : draft.Opened source) (bracket : source[opened]? = some '[') :
    Leads source behind (draft.readMember anchored opened negated members token) := by
  unfold readMember
  split
  · split
    · exact ⟨⟨_, rfl, bracket⟩, trivial⟩
    · exact ⟨around, nofun⟩
  · split
    · exact ⟨around, bracket⟩
    · exact ⟨⟨_, rfl, bracket⟩, trivial⟩

/-- Each token is taken into a draft that knows where its culprits would stand, or it is refused with an
error that points at its own. -/
theorem leads_of_read (points : draft.Points source offset) (stands : token.StandsAt source offset) :
    Leads source (offset + token.spelling.length) (draft.read (offset, token)) := by
  have front := points.focus
  cases unfinished : draft.focus with
  | element =>
    simp only [read, unfinished]
    exact leads_of_readElement points.opened unfinished stands
  | anchor =>
    simp only [read, unfinished]
    split
    · exact leads_of_readElement points.opened.settle (settle_focus_eq_element (.inr unfinished)) stands
    · exact leads_of_readAtom points.opened stands
  | atom anchored node =>
    simp only [read, unfinished]
    exact leads_of_readQuantifier points unfinished stands
  | openedSet anchored opened =>
    rw [unfinished] at front
    simp only [read, unfinished]
    split
    · exact ⟨points.opened, front⟩
    · exact leads_of_readMember _ points.opened front
  | set anchored opened negated members =>
    rw [unfinished] at front
    simp only [read, unfinished]
    exact leads_of_readMember _ points.opened front

/-! ## Whole texts -/

/-- A draft that cannot be finished blames what is open. -/
theorem pointsAt_of_finish {error : PatternError} (points : draft.Points source offset)
    (refused : draft.finish = .error error) : error.PointsAt source := by
  have front := points.focus
  unfold finish at refused
  split at refused
  · rename_i unfinished
    rw [unfinished] at front
    cases refused
    exact ⟨⟨_, rfl, front⟩, trivial⟩
  · rename_i unfinished
    rw [unfinished] at front
    cases refused
    exact ⟨⟨_, rfl, front⟩, trivial⟩
  · split at refused
    · rename_i group enclosing around
      cases refused
      refine ⟨⟨_, rfl, points.opened group ?_⟩, trivial⟩
      rw [around]
      exact List.mem_cons_self
    · cases refused

/-- A text that is read to its end from a token on is refused with an error that points at its culprit, if
that holds behind the token. -/
theorem pointsAt_of_cons {error : PatternError} {rest : List (Nat × Token)}
    (points : draft.Points source offset) (stands : token.StandsAt source offset)
    (later : ∀ next : Draft, next.Points source (offset + token.spelling.length) →
      (next.readAll rest >>= finish) = .error error → error.PointsAt source)
    (refused : (draft.readAll ((offset, token) :: rest) >>= finish) = .error error) :
    error.PointsAt source := by
  have leads := leads_of_read points stands
  rw [readAll, List.foldlM_cons] at refused
  cases read : draft.read (offset, token) with
  | error other =>
    rw [read] at leads refused
    cases refused
    exact leads
  | ok next =>
    rw [read] at leads refused
    exact later next leads refused

/-- The rune in front of the rest of a text, and the rest behind it. -/
theorem ahead_cons {first : Char} {rest : Text} (ahead : source.drop offset = first :: rest) :
    source[offset]? = some first ∧ source.drop (offset + 1) = rest := by
  constructor
  · rw [← List.head?_drop, ahead]
    rfl
  · rw [← List.tail_drop, ahead]
    rfl

/-- What is left of a text is refused with an error that points at its culprit in the whole text. -/
theorem pointsAt_of_readToEnd {error : PatternError} {rest : Text} (points : draft.Points source offset)
    (ahead : source.drop offset = rest) (refused : draft.readToEnd offset rest = .error error) :
    error.PointsAt source := by
  unfold readToEnd at refused
  fun_induction Token.scanFrom offset rest generalizing draft with
  | case1 offset => exact pointsAt_of_finish points refused
  | case2 offset =>
    obtain ⟨backslash, _⟩ := ahead_cons ahead
    have ended : offset + 1 = source.length := by
      have length := congrArg List.length ahead
      rw [List.length_drop, List.length_singleton] at length
      omega
    have stands : Token.danglingEscape.StandsAt source offset := ⟨backslash, ended⟩
    exact pointsAt_of_cons points stands (fun _ => pointsAt_of_finish) refused
  | case3 offset rune rest ih =>
    obtain ⟨backslash, behind⟩ := ahead_cons ahead
    obtain ⟨escaped, ahead'⟩ := ahead_cons behind
    have stands : (Token.escaped rune).StandsAt source offset := ⟨backslash, escaped⟩
    exact pointsAt_of_cons points stands (fun _ points' => ih points' ahead') refused
  | case4 offset first rest notLast notEscape ih =>
    obtain ⟨plain, ahead'⟩ := ahead_cons ahead
    have stands : (Token.plain first).StandsAt source offset := plain
    exact pointsAt_of_cons points stands (fun _ points' => ih points' ahead') refused

/-- Nothing is noted before the text begins. -/
theorem points_empty (source : Text) : Draft.empty.Points source 0 :=
  ⟨fun _ none => absurd none List.not_mem_nil, trivial⟩

end Draft

namespace Pattern

/-- The error with which a text is refused points at its culprit, which is a rune of the text. So it is
never an unexpected end. The descent ends with the same error in a machine whose words count the runes of
the text and one more. -/
theorem pointsAt_of_parse_eq_error (source : Text) (error : PatternError)
    (refused : parse source = .error error) :
    error.offset < source.length ∧ error.reason ≠ .unexpectedEnd ∧ error.PointsAt source ∧
      ∀ limit, source.length + 1 < limit → descend? limit source = some (.error error) := by
  have points : error.PointsAt source :=
    Draft.pointsAt_of_readToEnd (Draft.points_empty source) rfl refused
  have ⟨_, _, stands⟩ := points.culprit
  refine ⟨?inside, ?expected, points, ?descent⟩
  case inside => exact (List.getElem?_eq_some_iff.1 stands).1
  case expected => exact points.reason_ne_unexpectedEnd
  case descent =>
    intro limit short
    rw [descend_eq_parse short, refused]

/-- In `é(ü|\1+` the quantifier at offset 6 is refused, though the group at offset 1 is open too. -/
theorem pointsAt_of_quantified_backreference :
    parse "é(ü|\\1+".toList = .error ⟨6, .unquantifiable .plus "a backreference"⟩ ∧
      EndsUnquantifiable "é(ü|\\1+".toList 6 "a backreference" ∧
      descend? 9 "é(ü|\\1+".toList = some (.error ⟨6, .unquantifiable .plus "a backreference"⟩) := by
  have ⟨_, _, points, descent⟩ := pointsAt_of_parse_eq_error "é(ü|\\1+".toList
    ⟨6, .unquantifiable .plus "a backreference"⟩ rfl
  exact ⟨rfl, points.around.2, descent 9 (by decide)⟩

end Pattern
end PatternSearch
