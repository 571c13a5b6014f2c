import PatternSearch.Proofs.Accepting

/-!
# Texts that begin a pattern

A text that is refused may still begin a pattern: a group or a set may be open where the text ends, or
a backslash may wait for the rune that it escapes. `Reason.IsUnfinished` names these reasons. Every
other reason is found at a token that is whole, so the draft that has been read up to there refuses the
text whatever comes after (`not_isUnfinished_of_read`).

A draft, on the other hand, can always be completed: a member and a bracket close a set, and
parentheses close the groups (`exists_completion`). Main statement: a refused text begins a pattern
exactly when the reason is one of the three, and otherwise every longer text is refused with the same
error (`parse_append_of_refused`).
-/
namespace PatternSearch

/-- The text ended too early: something is open, or a backslash escapes nothing yet. -/
def PatternError.Reason.IsUnfinished (reason : PatternError.Reason) : Prop :=
  reason = .unterminatedGroup ∨ reason = .unterminatedSet ∨ reason = .danglingEscape

/-- Whether a text ended too early is a matter of the reason. -/
instance : DecidablePred PatternError.Reason.IsUnfinished := fun reason =>
  inferInstanceAs (Decidable (reason = .unterminatedGroup ∨ _))

namespace Draft

variable {draft next : Draft} {anchored : Bool} {offset : Nat} {token : Token}
  {error : PatternError}

/-- Take a text into the draft, beginning at an offset, and finish the draft at its end. -/
def readToEnd (draft : Draft) (offset : Nat) (text : Text) : Except PatternError (Node × Nat) := do
  let final ← draft.readAll (Token.scanFrom offset text)
  final.finish

/-- Reading a text is reading it to its end into a draft of which nothing is read. -/
theorem parse_eq_readToEnd (source : Text) : Pattern.parse source = Draft.empty.readToEnd 0 source :=
  rfl

/-- Behind a text that leads from one draft to another, the rest is read into the other. -/
theorem Reads.readToEnd {text : Text} {next : Draft} (reads : draft.Reads offset text next)
    (rest : Text) :
    draft.readToEnd offset (text ++ rest) = next.readToEnd (offset + text.length) rest :=
  congrArg (· >>= finish) (reads rest)

/-- Whole tokens are read alike whatever text comes after them. -/
theorem readToEnd_append {text : Text} (whole : ∀ place ∈ Token.scanFrom offset text, place.2.Whole)
    (rest : Text) :
    draft.readToEnd offset (text ++ rest) =
      draft.readAll (Token.scanFrom offset text) >>= fun middle =>
        middle.readToEnd (offset + text.length) rest := by
  rw [readToEnd, Token.scanFrom_append whole, readAll, List.foldlM_append, bind_assoc]
  rfl

/-! ## Errors at whole tokens -/

/-- A whole token that is no node is not refused for ending the text. -/
theorem not_isUnfinished_of_ofToken {reason : PatternError.Reason} (whole : token.Whole)
    (refused : Node.ofToken token = .error reason) : ¬ reason.IsUnfinished := by
  unfold Node.ofToken at refused
  split at refused
  case h_7 rune =>
    unfold Node.ofEscaped at refused
    split at refused
    · cases refused
    · cases refused
      decide
    · cases refused
    · split at refused
      · cases refused
      · cases refused
        simp [PatternError.Reason.IsUnfinished]
  case h_8 => exact whole.elim
  all_goals cases refused
  all_goals decide

/-- A whole token is a member of a set. -/
theorem ofToken?_ne_none (whole : token.Whole) : SetMember.ofToken? token ≠ none := by
  unfold SetMember.ofToken?
  split
  · exact nofun
  · split <;> exact nofun
  · exact whole.elim

/-- A whole token that is no node is wrong whatever comes after it. -/
theorem not_isUnfinished_of_readAtom (whole : token.Whole)
    (refused : draft.readAtom anchored offset token = .error error) :
    ¬ error.reason.IsUnfinished := by
  unfold readAtom at refused
  split at refused
  · cases refused
  · cases refused
  · split at refused
    · cases refused
    · rename_i reason isError
      cases refused
      exact not_isUnfinished_of_ofToken whole isError

/-- So is one that is refused between two elements. -/
theorem not_isUnfinished_of_readElement (whole : token.Whole)
    (refused : draft.readElement offset token = .error error) : ¬ error.reason.IsUnfinished := by
  unfold readElement at refused
  split at refused
  · unfold closeGroup at refused
    split at refused
    · cases refused
      exact (by decide : ¬ PatternError.Reason.IsUnfinished .unmatchedParenthesis)
    · cases refused
  · cases refused
  · unfold anchorEnd at refused
    split at refused
    · cases refused
      exact (by decide : ¬ PatternError.Reason.IsUnfinished .danglingEndAnchor)
    · cases refused
  · split at refused
    · cases refused
    · cases refused
      exact (by decide : ¬ PatternError.Reason.IsUnfinished .misplacedStartAnchor)
  · exact not_isUnfinished_of_readAtom whole refused

/-- So is one that is refused behind an element. -/
theorem not_isUnfinished_of_readQuantifier {node : Node} (whole : token.Whole)
    (refused : draft.readQuantifier anchored node offset token = .error error) :
    ¬ error.reason.IsUnfinished := by
  unfold readQuantifier at refused
  split at refused
  · split at refused
    · cases refused
    · cases refused
      simp [PatternError.Reason.IsUnfinished]
  · exact not_isUnfinished_of_readElement whole refused

/-- So is one that is refused inside a set. -/
theorem not_isUnfinished_of_readMember {opened : Nat} {negated : Bool} {members : List SetMember}
    (whole : token.Whole)
    (refused : draft.readMember anchored opened negated members token = .error error) :
    ¬ error.reason.IsUnfinished := by
  unfold readMember at refused
  split at refused
  · split at refused
    · cases refused
      exact (by decide : ¬ PatternError.Reason.IsUnfinished .emptySet)
    · cases refused
  · split at refused
    · cases refused
    · rename_i none
      exact absurd none (ofToken?_ne_none whole)

/-- A whole token is never refused for ending the text. -/
theorem not_isUnfinished_of_read (whole : token.Whole)
    (refused : draft.read (offset, token) = .error error) : ¬ error.reason.IsUnfinished := by
  rw [read] at refused
  split at refused
  · exact not_isUnfinished_of_readElement whole refused
  · split at refused
    · exact not_isUnfinished_of_readElement whole refused
    · exact not_isUnfinished_of_readAtom whole refused
  · exact not_isUnfinished_of_readQuantifier whole refused
  · split at refused
    · cases refused
    · exact not_isUnfinished_of_readMember whole refused
  · exact not_isUnfinished_of_readMember whole refused

/-- Neither are whole tokens one after another. -/
theorem not_isUnfinished_of_readAll {tokens : List (Nat × Token)}
    (whole : ∀ place ∈ tokens, place.2.Whole) (refused : draft.readAll tokens = .error error) :
    ¬ error.reason.IsUnfinished := by
  induction tokens generalizing draft with
  | nil => cases refused
  | cons place rest ih =>
    rw [readAll, List.foldlM_cons] at refused
    cases first : draft.read place with
    | error other =>
      rw [first] at refused
      cases refused
      exact not_isUnfinished_of_read (whole place List.mem_cons_self) first
    | ok middle =>
      rw [first] at refused
      exact ih (fun other member => whole other (List.mem_cons_of_mem _ member)) refused

/-! ## Errors at the end -/

/-- A backslash at the very end is refused for ending the text. -/
theorem read_danglingEscape_eq_error (draft : Draft) (offset : Nat) :
    ∃ error, draft.read (offset, .danglingEscape) = .error error ∧ error.reason.IsUnfinished := by
  cases unfinished : draft.focus with
  | element | anchor | atom =>
    refine ⟨⟨offset, .danglingEscape⟩, ?_, .inr (.inr rfl)⟩
    rw [read, unfinished]
    rfl
  | openedSet anchored opened | set anchored opened negated members =>
    refine ⟨⟨opened, .unterminatedSet⟩, ?_, .inr (.inl rfl)⟩
    rw [read, unfinished]
    rfl

/-- A draft that cannot be finished has something open. -/
theorem isUnfinished_of_finish (refused : draft.finish = .error error) :
    error.reason.IsUnfinished := by
  unfold finish at refused
  split at refused
  · cases refused
    exact .inr (.inl rfl)
  · cases refused
    exact .inr (.inl rfl)
  · split at refused
    · cases refused
      exact .inl rfl
    · cases refused

/-! ## Completing a draft -/

/-- A parenthesis closes the innermost group. -/
theorem Outside.read_closing {opened : OpenGroup} {enclosing : List OpenGroup}
    (outside : draft.Outside) (inside : draft.enclosing = opened :: enclosing) (offset : Nat) :
    ∃ next, draft.read (offset, .plain ')') = .ok next ∧ next.Outside ∧
      next.enclosing = enclosing := by
  have around : draft.settle.enclosing = opened :: enclosing := by rw [settle_enclosing, inside]
  rw [outside.read_of_ends rfl]
  show ∃ next, draft.settle.closeGroup offset = .ok next ∧ _
  unfold closeGroup
  rw [around]
  exact ⟨_, rfl, .inl (.inr ⟨_, _, rfl⟩), rfl⟩

/-- A draft outside of all sets is completed by a parenthesis for each group that is open. -/
theorem Outside.exists_completion (outside : draft.Outside) (offset : Nat) :
    ∃ rest result, draft.readToEnd offset rest = .ok result := by
  induction inside : draft.enclosing generalizing draft offset with
  | nil => exact ⟨[], _, finish_eq_ok.2 ⟨outside, inside, rfl, rfl⟩⟩
  | cons opened enclosing ih =>
    have ⟨next, closed, outside', around⟩ := outside.read_closing inside offset
    have ⟨rest, result, completed⟩ := ih outside' (offset + 1) around
    have read := (reads_token (.plain ')') (by decide) closed).readToEnd rest
    exact ⟨')' :: rest, result, read.trans completed⟩

/-- A draft in the middle of a set is completed when the set has a further member and is closed. -/
theorem exists_completion_of_set {opened : Nat} (offset : Nat)
    (inside : draft.focus = .openedSet anchored opened ∨
      ∃ negated members, draft.focus = .set anchored opened negated members) :
    ∃ rest result, draft.readToEnd offset rest = .ok result := by
  have member : ∃ negated members,
      draft.read (offset, .plain 'a') = .ok (draft.inSet anchored opened negated members) ∧
        members ≠ [] := by
    rcases inside with unfinished | ⟨negated, members, unfinished⟩
    · refine ⟨false, [.literal 'a'], ?_, by decide⟩
      rw [read, unfinished]
      rfl
    · refine ⟨negated, .literal 'a' :: members, ?_, List.cons_ne_nil _ _⟩
      rw [read, unfinished]
      rfl
  obtain ⟨negated, members, taken, nonempty⟩ := member
  have closing : (draft.inSet anchored opened negated members).Reads (offset + 1) [']'] _ :=
    reads_token (.plain ']') (by decide) (read_closing nonempty)
  have reads := (reads_token (.plain 'a') (by decide) taken).append closing
  have outside : (draft.pending 0 anchored (.set members.reverse negated)).Outside :=
    .inl (between_pending _ _ _ _)
  obtain ⟨rest, result, completed⟩ := outside.exists_completion (offset + 2)
  exact ⟨'a' :: ']' :: rest, result, (reads.readToEnd rest).trans completed⟩

/-- Every draft can be completed. -/
theorem exists_completion (draft : Draft) (offset : Nat) :
    ∃ rest result, draft.readToEnd offset rest = .ok result := by
  cases unfinished : draft.focus with
  | element => exact Outside.exists_completion (.inl (.inl unfinished)) offset
  | anchor => exact Outside.exists_completion (.inr unfinished) offset
  | atom anchored node =>
    exact Outside.exists_completion (.inl (.inr ⟨anchored, node, unfinished⟩)) offset
  | openedSet anchored opened => exact exists_completion_of_set offset (.inl unfinished)
  | set anchored opened negated members =>
    exact exists_completion_of_set offset (.inr ⟨negated, members, unfinished⟩)

/-- A backslash that escapes itself is read from every draft. -/
theorem read_escapedBackslash (draft : Draft) (offset : Nat) :
    ∃ next, draft.read (offset, .escaped '\\') = .ok next := by
  cases unfinished : draft.focus with
  | element | anchor | atom | openedSet | set =>
    rw [read, unfinished]
    exact ⟨_, rfl⟩

/-- So every draft can be completed behind a backslash. -/
theorem exists_completion_behind_backslash (draft : Draft) (offset : Nat) :
    ∃ rest result, draft.readToEnd offset ('\\' :: rest) = .ok result := by
  have ⟨next, escaped⟩ := read_escapedBackslash draft offset
  have ⟨rest, result, completed⟩ := next.exists_completion (offset + 2)
  have reads := (reads_token (.escaped '\\') trivial escaped).readToEnd rest
  exact ⟨'\\' :: rest, result, reads.trans completed⟩

/-- A backslash at the end of the text leaves every draft unfinished. -/
theorem readToEnd_backslash_eq_error (draft : Draft) (offset : Nat) :
    ∃ error, draft.readToEnd offset ['\\'] = .error error ∧ error.reason.IsUnfinished := by
  have ⟨error, dangling, unfinished⟩ := read_danglingEscape_eq_error draft offset
  refine ⟨error, ?_, unfinished⟩
  exact congrArg (fun next => (next >>= fun draft => pure draft) >>= finish) dangling

end Draft

namespace Pattern

open Draft

/-- A refused text is refused by a whole token, or it is unfinished: what is in front of the end of the
text has been read. -/
theorem refused_cases {source : Text} {error : PatternError} (refused : parse source = .error error) :
    (¬ error.reason.IsUnfinished ∧ ∀ rest, parse (source ++ rest) = .error error) ∨
      (error.reason.IsUnfinished ∧ ∃ rest result, parse (source ++ rest) = .ok result) := by
  have ⟨front, whole, same⟩ := Token.exists_whole_front 0 source
  have split : ∀ rest, parse (front ++ rest) =
      Draft.empty.readAll (Token.scanFrom 0 front) >>= fun middle =>
        middle.readToEnd (0 + front.length) rest := by
    intro rest
    rw [parse_eq_readToEnd, readToEnd_append whole rest]
  cases read : Draft.empty.readAll (Token.scanFrom 0 front) with
  | error earlier =>
    have always : ∀ rest, parse (front ++ rest) = .error earlier := by
      intro rest
      rw [split, read]
      rfl
    have persists : ∀ rest, parse (source ++ rest) = .error earlier := by
      intro rest
      rcases same with same | same
      · rw [same]
        exact always rest
      · rw [same, List.append_assoc]
        exact always (['\\'] ++ rest)
    have first := persists []
    rw [List.append_nil, refused] at first
    cases first
    exact .inl ⟨not_isUnfinished_of_readAll whole read, persists⟩
  | ok middle =>
    have goesOn : ∀ rest, parse (front ++ rest) = middle.readToEnd (0 + front.length) rest := by
      intro rest
      rw [split, read]
      rfl
    rcases same with same | same
    · have ended := goesOn []
      rw [List.append_nil, ← same, refused] at ended
      have ⟨rest, result, completed⟩ := middle.exists_completion (0 + front.length)
      exact .inr ⟨isUnfinished_of_finish ended.symm, rest, result, by rw [same, goesOn, completed]⟩
    · have ⟨other, isError, unfinished⟩ := middle.readToEnd_backslash_eq_error (0 + front.length)
      have ended := goesOn ['\\']
      rw [← same, refused, isError] at ended
      cases ended
      have ⟨rest, result, completed⟩ :=
        middle.exists_completion_behind_backslash (0 + front.length)
      refine .inr ⟨unfinished, rest, result, ?_⟩
      rw [same, List.append_assoc]
      exact (goesOn ('\\' :: rest)).trans completed

/-- A refused text is refused with the same error however it goes on, unless it ended too early; then
some text behind it makes it a pattern. So a text begins a pattern exactly when it is one, or is
refused because a group or a set is open at its end or a backslash escapes nothing. -/
theorem parse_append_of_refused (source : Text) :
    (∀ error, parse source = .error error → ¬ error.reason.IsUnfinished →
      ∀ rest, parse (source ++ rest) = .error error) ∧
    (∀ error, parse source = .error error → error.reason.IsUnfinished →
      ∃ rest result, parse (source ++ rest) = .ok result) ∧
    ((∃ rest result, parse (source ++ rest) = .ok result) ↔
      (∃ result, parse source = .ok result) ∨
        ∃ error, parse source = .error error ∧ error.reason.IsUnfinished) := by
  refine ⟨?hopeless, ?unfinished, ?begins⟩
  case hopeless =>
    intro error refused hopeless
    rcases refused_cases refused with ⟨_, persists⟩ | ⟨unfinished, _⟩
    · exact persists
    · exact absurd unfinished hopeless
  case unfinished =>
    intro error refused unfinished
    rcases refused_cases refused with ⟨hopeless, _⟩ | ⟨_, completed⟩
    · exact absurd unfinished hopeless
    · exact completed
  case begins =>
    constructor
    · intro ⟨rest, result, completed⟩
      cases parsed : parse source with
      | ok result => exact .inl ⟨result, rfl⟩
      | error error =>
        rcases refused_cases parsed with ⟨_, persists⟩ | ⟨unfinished, _⟩
        · rw [persists rest] at completed
          cases completed
        · exact .inr ⟨error, rfl, unfinished⟩
    · intro begun
      rcases begun with ⟨result, parsed⟩ | ⟨error, refused, unfinished⟩
      · exact ⟨[], result, by rw [List.append_nil, parsed]⟩
      · rcases refused_cases refused with ⟨hopeless, _⟩ | ⟨_, completed⟩
        · exact absurd unfinished hopeless
        · exact completed

/-- Behind `(a|^[^\` a set, a group and an escape wait for their ends. `(a|^+` is refused for good. -/
theorem parse_append_of_open_set :
    (∃ rest result, parse ("(a|^[^\\".toList ++ rest) = .ok result) ∧
      ∀ rest, parse ("(a|^+".toList ++ rest) = .error ⟨4, .danglingQuantifier .plus⟩ := by
  have ⟨_, unfinished, _⟩ := parse_append_of_refused "(a|^[^\\".toList
  have ⟨hopeless, _, _⟩ := parse_append_of_refused "(a|^+".toList
  exact ⟨unfinished ⟨4, .unterminatedSet⟩ rfl (by decide),
    hopeless ⟨4, .danglingQuantifier .plus⟩ rfl (by decide)⟩

end Pattern
end PatternSearch
