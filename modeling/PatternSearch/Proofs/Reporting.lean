import Mathlib.Order.Bounds.Basic
import PatternSearch.Proofs.Accepting
import PatternSearch.Proofs.Finding
import PatternSearch.Proofs.Reaching
import PatternSearch.Proofs.Restoring

/-!
# What a search reports

A match that a search reports is the first one, and what it says about itself is true
(`Match.Reported`): its text is the text between its ends, it captures only for groups of the pattern,
and under index zero only for an alternation. All that it captures stands inside it.

The last point is not obvious, since a text may be left by an attempt that failed. Such a text remains
only where an end anchor stands behind a group, fails, and holds after rounds were given back. But then
the match ends where the subject ends, and whatever was captured on the way stands before that.

The invariant is `State.Encloses`: everything captured stands between an offset and the offset of the
state. An element leads from such states to such states, at every end to which it may give back
(`Enclosing`).
-/
namespace PatternSearch

open Attempt

variable {subject : Array Char} {low high : Nat}

namespace Captures

/-- Every captured text stands in the subject between two offsets. -/
def Within (subject : Array Char) (low high : Nat) (captures : Captures) : Prop :=
  ∀ index text, captures.get? index = some text →
    ∃ first last, low ≤ first ∧ first ≤ last ∧ last ≤ high ∧
      text = (subject.extract first last).toList

/-- Where nothing is captured, everything captured is within. -/
theorem within_empty : empty.Within subject low high := by
  intro index text captured
  rw [get?_empty] at captured
  cases captured

/-- The stretch may be longer. -/
theorem Within.mono {wider : Nat} {captures : Captures} (within : captures.Within subject low high)
    (further : high ≤ wider) : captures.Within subject low wider := by
  intro index text captured
  have ⟨first, last, after, between, before, same⟩ := within index text captured
  exact ⟨first, last, after, between, Nat.le_trans before further, same⟩

/-- A text between the offsets may be recorded. -/
theorem Within.record {captures : Captures} {first last : Nat}
    (within : captures.Within subject low high) (index : Nat) (after : low ≤ first)
    (between : first ≤ last) (before : last ≤ high) :
    (captures.record index (subject.extract first last).toList).Within subject low high := by
  intro other text captured
  rw [get?_record] at captured
  by_cases same : other = index
  · rw [if_pos same] at captured
    cases captured
    exact ⟨first, last, after, between, before, rfl⟩
  · rw [if_neg same] at captured
    exact within other text captured

end Captures

/-- A state stands at an offset or behind it, and everything captured in the state stands between the
two. -/
structure State.Encloses (subject : Array Char) (low : Nat) (state : State) : Prop where
  /-- The state stands at the offset or behind it. -/
  after : low ≤ state.offset
  /-- What is captured stands between the two. -/
  within : state.captures.Within subject low state.offset

namespace Node

variable {rollback : Rollback} {start final : State} {outcome : Outcome}

/-! ## Captured texts of an attempt -/

/-- Where a step succeeds, it leads from a state that encloses what is captured to such states, at every
end to which it may still give back. -/
def Enclosing (subject : Array Char) (low : Nat) (step : State → Attempt) : Prop :=
  Reaching subject (fun start final => start.Encloses subject low → final.Encloses subject low) step

/-- A tree without groups captures nothing, and does not end before it began. -/
theorem enclosing_of_indices_eq_nil {node : Node} (none : node.indices = []) :
    Enclosing subject low (node.attemptWith rollback subject) := by
  intro start final outcome inside found stop ends enclosed
  have accounts := accounts_of_attemptWith node inside found
  have onward : start.offset ≤ stop := by
    rcases ends with last | shorter
    · rw [last, accounts.stop_eq]
      exact Nat.le_add_right _ _
    · have between : start.offset ≤ stop ∧ stop ≤ final.offset :=
        Preceding.shorterEnds_between accounts shorter
      exact between.1
  have same : (node.attemptWith rollback subject start).state.captures = start.captures :=
    captures_of_attemptWith none inside
  rw [found] at same
  refine ⟨Nat.le_trans enclosed.after onward, ?_⟩
  show final.captures.Within subject low stop
  rw [show final.captures = start.captures from same]
  exact enclosed.within.mono onward

/-- An element before an end anchor succeeds only at the end of the subject. Whatever was captured up
to then, also by attempts that failed, stands before that. -/
theorem encloses_of_endAnchor {node : Node} {began : Nat} {preceding : Option Preceding}
    (from_ : low ≤ began) (after : began ≤ start.offset) (inside : start.offset ≤ subject.size)
    (remembered : ∀ latest ∈ preceding, Remembers subject began start.offset latest)
    (enclosed : start.Encloses subject low)
    (found : orAfterGiveback ((endAnchor node).attemptWith rollback subject) preceding start =
      ⟨.ok outcome, final⟩) :
    final.Encloses subject low ∧ outcome.giveback = 0 := by
  have recorded : KeptByRecording subject low (endAnchor node).indices
      (Captures.Within subject low subject.size) :=
    fun index _ _ _ _ after between before within => within.record index after between before
  have keeps : KeepsFrom subject low (Captures.Within subject low subject.size)
      ((endAnchor node).attemptWith rollback subject) := keeps_of_attemptWith (endAnchor node) recorded
  have captured : (orAfterGiveback ((endAnchor node).attemptWith rollback subject) preceding
      start).state.captures.Within subject low subject.size := by
    have here := keeps start enclosed.after inside (enclosed.within.mono inside)
    refine @keeps_orAfterGiveback ((endAnchor node).attemptWith rollback subject)
      (Captures.Within subject low subject.size) preceding start here ?_
    intro latest isLatest offset shorter captures within
    have between := between_of_triedAt after inside remembered (.inr ⟨latest, isLatest, shorter⟩)
    exact keeps ⟨offset, captures⟩ (Nat.le_trans from_ between.1) between.2 within
  rw [found] at captured
  have known := remembers_of_orAfterGiveback (accounts_of_attemptWith (endAnchor node)) after inside
    remembered found
  have onward : began ≤ final.offset := Nat.le_trans known.began_le (Nat.sub_le _ _)
  have ⟨tried, _, _, stepped⟩ := orAfterGiveback_eq_ok (fun _ => True)
    (fun _ _ _ _ _ _ => trivial) trivial found
  have ⟨inner, _, ended, consumed⟩ := endAnchor_eq_ok.1 stepped
  refine ⟨⟨Nat.le_trans from_ onward, captured.mono ended⟩, ?_⟩
  rw [consumed]
  rfl

/-- An element leads on from states that enclose what is captured to such states. -/
theorem encloses_of_element {node : Node} {began : Nat} {preceding : Option Preceding}
    (element : Element node) (enclosing : Enclosing subject low (node.attemptWith rollback subject))
    (from_ : low ≤ began) (after : began ≤ start.offset) (inside : start.offset ≤ subject.size)
    (remembered : ∀ latest ∈ preceding, Remembers subject began start.offset latest)
    (enclosed : ∀ stop, TriedAt preceding start.offset stop → (start.at stop).Encloses subject low)
    (found : orAfterGiveback (node.attemptWith rollback subject) preceding start =
      ⟨.ok outcome, final⟩) :
    ∀ stop, TriedAt (some ⟨final.offset - outcome.consumed, outcome⟩) final.offset stop →
      (final.at stop).Encloses subject low := by
  by_cases atEnd : ∃ inner, node = .endAnchor inner
  · have ⟨inner, isEnd⟩ := atEnd
    subst isEnd
    have ⟨ended, kept⟩ := encloses_of_endAnchor from_ after inside remembered
      (enclosed start.offset (.inl rfl)) found
    intro stop ends
    rcases ends with last | ⟨latest, isLatest, shorter⟩
    · rw [last]
      exact ended
    · cases isLatest
      rw [Preceding.shorterEnds_eq_nil kept] at shorter
      cases shorter
  · have restores : ∀ before mismatch failed, before.offset ≤ subject.size →
        before.captures = start.captures →
        node.attemptWith rollback subject before = ⟨.error mismatch, failed⟩ →
        failed.captures = start.captures := by
      intro before mismatch failed within same stepped
      have restored := state_of_failed_element element
        (fun inner isEnd => absurd ⟨inner, isEnd⟩ atEnd) within stepped
      rw [restored]
      exact same
    have reached : ∀ state : State, TriedAt preceding start.offset state.offset →
        state.captures = start.captures → state.Encloses subject low := by
      intro state place same
      have here : state = start.at state.offset := congrArg₂ State.mk rfl same
      rw [here]
      exact enclosed _ place
    have ⟨middle, isReached, leads⟩ := enclosing.extends (· = start.captures)
      (State.Encloses subject low) (accounts_of_attemptWith node) after inside remembered restores rfl
      reached found
    exact fun stop ends => leads stop ends isReached

mutual

/-- An attempt of a tree of a pattern leads from a state that encloses what is captured to such a
state. -/
theorem enclosing_of_attemptWith :
    (node : Node) → InPattern node → Enclosing subject low (node.attemptWith rollback subject)
  | .literal _, _ | .ofClass _, _ | .set _ _, _ | .backreference _, _ =>
    enclosing_of_indices_eq_nil rfl
  | .repetition node min max, shape => by
    refine enclosing_of_indices_eq_nil ?_
    rw [indices_repetition]
    exact indices_eq_nil_of_isQuantifiable shape.of_repetition
  | .startAnchor node, shape => fun _ _ _ inside found =>
    enclosing_of_attemptWith node shape.of_startAnchor inside (startAnchor_eq_ok.1 found).2
  | .endAnchor node, shape => Reaching.of_consuming fun inside found => by
    have ⟨inner, matched, _, consumed⟩ := endAnchor_eq_ok.1 found
    rw [consumed]
    exact ⟨enclosing_of_attemptWith node (.inl shape.of_endAnchor) inside matched _ (.inl rfl), rfl⟩
  | .group index branches, shape => Reaching.of_consuming fun inside found => by
    have matched := group_eq_ok.1 found
    exact ⟨encloses_of_attemptBranches branches shape.of_group inside matched,
      (attemptBranches_leaves matched).1⟩
  | .sequence nodes, shape => Reaching.of_consuming fun inside found => by
    have matched := sequence_eq_ok.1 found
    refine ⟨fun enclosed => ?_, giveback_of_attemptSequence matched⟩
    refine encloses_of_attemptSequence nodes shape.of_sequence enclosed.after (Nat.le_refl _) inside
      (by simp) ?_ matched
    intro stop place
    rcases place with here | ⟨_, none, _⟩
    · rw [here]
      exact enclosed
    · cases none

/-- So does a group, which records the text between the ends of its branch. -/
theorem encloses_of_attemptBranches {index : Nat} {start final : State} {outcome : Outcome} :
    (branches : List Node) → (∀ branch ∈ branches, Branch branch) → start.offset ≤ subject.size →
      attemptBranches rollback subject index branches start = ⟨.ok outcome, final⟩ →
      start.Encloses subject low → final.Encloses subject low
  | [], _, _, found, _ => by
    rw [attemptBranches, failure_eq_ok] at found
    exact found.elim
  | branch :: rest, each, inside, found, enclosed => by
    rcases attemptBranches_cons_eq_ok.1 found with
      ⟨inner, reached, matched, _, moved⟩ | ⟨_, _, _, later⟩
    · have ended : reached.Encloses subject low := enclosing_of_attemptWith branch
        (.inr (each branch List.mem_cons_self)) inside matched _ (.inl rfl) enclosed
      have onward : start.offset ≤ reached.offset := by
        rw [(accounts_of_attemptWith branch inside matched).stop_eq]
        exact Nat.le_add_right _ _
      rw [moved]
      exact ⟨ended.after, ended.within.record index enclosed.after onward (Nat.le_refl _)⟩
    · exact encloses_of_attemptBranches rest
        (fun other member => each other (List.mem_cons_of_mem _ member)) inside later enclosed

/-- So does a sequence, wherever it stands. -/
theorem encloses_of_attemptSequence {began : Nat} {preceding : Option Preceding}
    {start final : State} {outcome : Outcome} :
    (nodes : List Node) → (∀ node ∈ nodes, Element node) → low ≤ began → began ≤ start.offset →
      start.offset ≤ subject.size →
      (∀ latest ∈ preceding, Remembers subject began start.offset latest) →
      (∀ stop, TriedAt preceding start.offset stop → (start.at stop).Encloses subject low) →
      attemptSequence rollback subject began preceding nodes start = ⟨.ok outcome, final⟩ →
      final.Encloses subject low
  | [], _, _, _, _, _, enclosed, found => by
    rw [attemptSequence, success_eq_ok] at found
    rw [← found.2]
    exact enclosed start.offset (.inl rfl)
  | node :: rest, each, from_, after, inside, remembered, enclosed, found => by
    have ⟨inner, next, matched, later⟩ := attemptSequence_cons_eq_ok.1 found
    have element := each node List.mem_cons_self
    have known := remembers_of_orAfterGiveback (accounts_of_attemptWith node) after inside
      remembered matched
    have onward : began ≤ next.offset := Nat.le_trans known.began_le (Nat.sub_le _ _)
    have ended := encloses_of_element element (enclosing_of_attemptWith node (.inl element)) from_
      after inside remembered enclosed matched
    refine encloses_of_attemptSequence rest
      (fun other member => each other (List.mem_cons_of_mem _ member)) from_ onward
      known.accounts.stop_le ?_ ended later
    intro latest isLatest
    cases isLatest
    exact known

end

/-- A group captures the text between its ends. -/
theorem get?_of_attemptBranches {index : Nat} {branches : List Node}
    (found : attemptBranches rollback subject index branches start = ⟨.ok outcome, final⟩) :
    final.captures.get? index = some (subject.extract start.offset final.offset).toList := by
  induction branches with
  | nil =>
    rw [attemptBranches, failure_eq_ok] at found
    exact found.elim
  | cons branch rest ih =>
    rcases attemptBranches_cons_eq_ok.1 found with
      ⟨inner, reached, _, _, moved⟩ | ⟨_, _, _, later⟩
    · rw [moved, Captures.get?_record, if_pos rfl]
    · exact ih later

/-- An attempt with nothing captured before captures only for groups of its tree. -/
theorem mem_indices_of_captured {node : Node} {offset index : Nat} {text : Text}
    (inside : offset ≤ subject.size)
    (found : node.attemptWith rollback subject ⟨offset, .empty⟩ = ⟨.ok outcome, final⟩)
    (captured : final.captures.get? index = some text) : index ∈ node.indices := by
  by_contra other
  have agree : Captures.AgreeOff (· ∈ node.indices)
      (node.attemptWith rollback subject ⟨offset, .empty⟩).state.captures .empty :=
    agreeOff_of_attemptWith inside
  have none := agree index other
  rw [found, Captures.get?_empty] at none
  rw [show final.captures.get? index = Option.none from none] at captured
  cases captured

/-- An attempt of a well-formed tree, with nothing captured before, captures a text under index zero
exactly when the tree has several branches. -/
theorem bound_zero_iff {tree : Node} {count offset : Nat} (wellFormed : WellFormed tree count)
    (inside : offset ≤ subject.size)
    (found : tree.attemptWith rollback subject ⟨offset, .empty⟩ = ⟨.ok outcome, final⟩) :
    Bound 0 final.captures ↔ ∃ branches, 2 ≤ branches.length ∧ tree = .group 0 branches := by
  constructor
  · intro bound
    have ⟨text, captured⟩ := Option.isSome_iff_exists.1 bound
    exact wellFormed.alternation_of_zero_mem (mem_indices_of_captured inside found captured)
  · intro ⟨branches, _, isGroup⟩
    rw [isGroup] at found
    exact (attemptBranches_leaves (group_eq_ok.1 found)).2

/-- That text is what the attempt consumed: the group around the branches is the last one to record. -/
theorem eq_of_get?_zero {tree : Node} {count offset : Nat} {text : Text}
    (wellFormed : WellFormed tree count) (inside : offset ≤ subject.size)
    (found : tree.attemptWith rollback subject ⟨offset, .empty⟩ = ⟨.ok outcome, final⟩)
    (captured : final.captures.get? 0 = some text) :
    text = (subject.extract offset final.offset).toList := by
  have ⟨branches, _, isGroup⟩ :=
    wellFormed.alternation_of_zero_mem (mem_indices_of_captured inside found captured)
  rw [isGroup] at found
  rw [get?_of_attemptBranches (group_eq_ok.1 found)] at captured
  exact (Option.some.inj captured).symm

end Node

/-! ## Matches -/

/-- The tree of a pattern matches at an offset of a subject with nothing captured before. -/
def Pattern.MatchesAt (pattern : Pattern) (subject : Text) (start : Nat) : Prop :=
  start ≤ subject.length ∧ ∃ outcome final,
    pattern.root.attempt subject.toArray ⟨start, .empty⟩ = ⟨.ok outcome, final⟩

/-- A match is one that a search for a pattern may report. -/
structure Match.Reported (pattern : Pattern) (subject : Text) (found : Match) : Prop where
  /-- No match begins before it. -/
  leftmost : IsLeast {start | pattern.MatchesAt subject start} found.start
  /-- It ends where the attempt from its start ends, and holds what that captures. -/
  attempted : ∃ outcome, found.stop = found.start + outcome.consumed ∧
    pattern.root.attempt subject.toArray ⟨found.start, .empty⟩ =
      ⟨.ok outcome, ⟨found.stop, found.captures⟩⟩
  /-- It ends behind its start or there. -/
  start_le : found.start ≤ found.stop
  /-- It ends inside the subject. -/
  stop_le : found.stop ≤ subject.length
  /-- Its text is the text between its ends. -/
  text_eq : found.text = subject.extract found.start found.stop
  /-- It captures only for groups of the pattern. -/
  index_le : ∀ index text, found.group? index = some text → index ≤ pattern.groupCount
  /-- It captures something under index zero exactly when the pattern has several branches. -/
  whole : (found.group? 0).isSome = true ↔
    ∃ branches, 2 ≤ branches.length ∧ pattern.root = .group 0 branches
  /-- Under index zero it captures its own text. -/
  whole_eq : ∀ text, found.group? 0 = some text → text = found.text
  /-- What it captures stands inside it. -/
  within : found.captures.Within subject.toArray found.start found.stop

namespace Pattern

open Node

variable {source subject : Text} {pattern : Pattern} {start : Nat}

/-- A tree matches at an offset when a search finds a match there. -/
theorem matchesAt_iff : pattern.MatchesAt subject start ↔
    start ≤ subject.length ∧
      ∃ found, matchAt? .offset pattern.root subject.toArray start = some found := by
  unfold MatchesAt
  refine and_congr_right fun inside => ?_
  cases looked : matchAt? .offset pattern.root subject.toArray start with
  | some found =>
    have ⟨outcome, final, matched, _⟩ := (matchAt?_eq_some inside).1 looked
    exact ⟨fun _ => ⟨found, rfl⟩, fun _ => ⟨outcome, final, matched⟩⟩
  | none =>
    have ⟨mismatch, state, failed⟩ := matchAt?_eq_none.1 looked
    constructor
    · intro ⟨outcome, final, matched⟩
      rw [attempt, failed] at matched
      cases matched
    · intro ⟨_, impossible⟩
      cases impossible

/-- A search finds a match exactly when the tree matches somewhere. -/
theorem find_isSome_iff_matchesAt :
    (pattern.find subject).isSome = true ↔ ∃ start, pattern.MatchesAt subject start := by
  cases isFound : pattern.find subject with
  | some found =>
    have ⟨inside, here, _⟩ := findWith_eq_some.1 isFound
    exact ⟨fun _ => ⟨found.start, matchesAt_iff.2 ⟨inside, found, here⟩⟩, fun _ => rfl⟩
  | none =>
    have nothing := findWith_eq_none.1 isFound
    constructor
    · intro isSome
      cases isSome
    · intro ⟨start, matched⟩
      have ⟨inside, found, here⟩ := matchesAt_iff.1 matched
      rw [nothing start inside] at here
      cases here

/-- The match that a search finds begins at the least offset at which the tree matches. -/
theorem isLeast_of_find {found : Match} (isFound : pattern.find subject = some found) :
    IsLeast {start | pattern.MatchesAt subject start} found.start := by
  have ⟨inside, here, nothing⟩ := findWith_eq_some.1 isFound
  refine ⟨matchesAt_iff.2 ⟨inside, found, here⟩, fun start matched => ?_⟩
  by_contra earlier
  have ⟨_, other, there⟩ := matchesAt_iff.1 matched
  rw [nothing start (Nat.lt_of_not_le earlier)] at there
  cases there

/-- A search finds a match exactly when the tree of the pattern matches somewhere, from nothing
captured. What it finds is the match with the least start, which holds what the attempt from there
consumes and captures; and all that is captured stands inside the match, also after rounds were given
back. -/
theorem find_isSome_iff_and_reported (source : Text) (pattern : Pattern)
    (compiled : compile source = .ok pattern) (subject : Text) :
    ((pattern.find subject).isSome = true ↔ ∃ start, pattern.MatchesAt subject start) ∧
      ∀ found, pattern.find subject = some found → found.Reported pattern subject := by
  refine ⟨find_isSome_iff_matchesAt, fun found isFound => ?_⟩
  have ⟨inside, here, _⟩ := findWith_eq_some.1 isFound
  rw [← List.size_toArray] at inside
  have ⟨outcome, final, matched, same⟩ := (matchAt?_eq_some inside).1 here
  have accounts := accounts_of_attemptWith pattern.root inside matched
  have wellFormed := (written_of_parse (parse_of_compile compiled)).2
  have shape := (compile_compiled compiled).inPattern
  have begins : State.Encloses subject.toArray found.start ⟨found.start, .empty⟩ :=
    ⟨Nat.le_refl _, Captures.within_empty⟩
  have ended : final.Encloses subject.toArray found.start :=
    enclosing_of_attemptWith pattern.root shape inside matched _ (.inl rfl) begins
  have stopped : found.stop = final.offset := by rw [same]
  have holds : found.captures = final.captures := by rw [same]
  have text : found.text = (subject.toArray.extract found.start final.offset).toList := by rw [same]
  constructor
  case leftmost => exact isLeast_of_find isFound
  case attempted =>
    refine ⟨outcome, stopped.trans accounts.stop_eq, ?_⟩
    rw [stopped, holds]
    exact matched
  case start_le => exact stopped ▸ ended.after
  case stop_le =>
    rw [stopped, ← List.size_toArray]
    exact accounts.stop_le
  case text_eq => rw [text, stopped, Array.toList_extract]
  case index_le =>
    intro index text captured
    rw [Match.group?, holds] at captured
    exact wellFormed.index_le (mem_indices_of_captured inside matched captured)
  case whole =>
    rw [Match.group?, holds]
    exact bound_zero_iff wellFormed inside matched
  case whole_eq =>
    intro own captured
    rw [Match.group?, holds] at captured
    rw [text]
    exact eq_of_get?_zero wellFormed inside matched captured
  case within =>
    rw [stopped, holds]
    exact ended.within

/-- The search for `b|x?((a)|xab)$` in `cxab` captures an `a` that the group behind `x?` left when the
end anchor failed. It stands in the match, which begins at the `x` that was given back. -/
theorem reported_of_giveback_at_end :
    ∃ pattern, compile "b|x?((a)|xab)$".toList = .ok pattern ∧
      ∃ found, pattern.find "cxab".toList = some found ∧
        found.group? 2 = some "a".toList ∧ found.Reported pattern "cxab".toList := by
  let group : Node := .group 1 [.sequence [.group 2 [.sequence [.literal 'a']]],
    .sequence [.literal 'x', .literal 'a', .literal 'b']]
  let pattern : Pattern := ⟨"b|x?((a)|xab)$".toList, .group 0 [.sequence [.literal 'b'],
    .sequence [.repetition (.literal 'x') 0 (some 1), .endAnchor group]], 2⟩
  have compiled : compile "b|x?((a)|xab)$".toList = .ok pattern := rfl
  let captures := ((Captures.empty.record 2 "a".toList).record 1 "xab".toList).record 0 "xab".toList
  let found : Match := ⟨1, 4, "xab".toList, captures⟩
  have isFound : pattern.find "cxab".toList = some found := by decide +kernel
  have ⟨_, reported⟩ := find_isSome_iff_and_reported _ pattern compiled "cxab".toList
  exact ⟨pattern, compiled, found, isFound, rfl, reported found isFound⟩

end Pattern
end PatternSearch
