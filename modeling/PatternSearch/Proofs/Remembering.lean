import Mathlib.Algebra.Ring.Nat
import PatternSearch.Proofs.Accounting

/-!
# What a sequence remembers

While a sequence is matched, the latest success is remembered, so that it may give rounds back to the
element behind it. `Passes` lists the stages of such a match, one for each element that has matched,
also after rounds were given back; `attemptSequence_of_passes` says that the match goes on from each of
them. The numbers that are remembered agree with the offset at every stage (`remembers_of_passes`).

A retry after giving back is accounted for by itself: it fails where it began, or it succeeds past
fewer rounds and what the element then consumed (`offset_of_afterGiveback_error`,
`exists_kept_of_afterGiveback`).
-/
namespace PatternSearch

namespace Attempt

/-- The lengths of rounds together are their sum. -/
theorem totalLength_eq_sum (lengths : List Nat) : totalLength lengths = lengths.sum := by
  induction lengths with
  | nil => rfl
  | cons length later ih => rw [totalLength, ih, List.sum_cons]

variable {subject : Array Char} {step : State → Attempt} {preceding : Preceding}
  {state final : State} {outcome : Outcome} {mismatch : Mismatch}

/-- A step that fails at every offset is left where the last retry is said to end. -/
theorem offset_of_atFirst_error {ended : Nat} {offsets : List Nat}
    (failed : atFirst step ended offsets state = ⟨.error mismatch, final⟩) :
    final.offset = ended ∧ mismatch = .givebackExhausted := by
  induction offsets generalizing state with
  | nil =>
    cases failed
    exact ⟨rfl, rfl⟩
  | cons offset rest ih =>
    rw [atFirst] at failed
    cases stepped : step (state.at offset) with
    | mk result next =>
      rw [stepped] at failed
      cases result with
      | ok first => cases failed
      | error other => exact ih failed

/-- A retry that fails is back where the repetition ended. -/
theorem offset_of_afterGiveback_error
    (failed : afterGiveback step preceding state = ⟨.error mismatch, final⟩) :
    final.offset = state.offset ∧ mismatch = .givebackExhausted :=
  offset_of_atFirst_error failed

end Attempt

namespace Node

open Attempt

variable {rollback : Rollback} {subject : Array Char} {nodes : List Node} {start : State}

/-- A retry that succeeds stands past the rounds that were kept, fewer than were made and no fewer than
had to be, and past what it consumed behind them. -/
theorem exists_kept_of_afterGiveback {step : State → Attempt} {preceding : Preceding}
    {state final : State} {outcome : Outcome} (accounting : Accounting subject step)
    (accounts : preceding.outcome.Accounts subject preceding.start state.offset)
    (found : afterGiveback step preceding state = ⟨.ok outcome, final⟩) :
    ∃ kept, preceding.leastRounds ≤ kept ∧ kept < preceding.outcome.repetitions.length ∧
      final.offset =
        preceding.start + totalLength (preceding.outcome.repetitions.take kept) + outcome.consumed := by
  obtain ⟨tried, shorter, -, stepped⟩ := atFirst_eq_ok (fun _ => True)
    (fun _ _ _ _ _ _ => trivial) trivial found
  have between := Preceding.shorterEnds_between accounts shorter
  have inside := Nat.le_trans between.2 accounts.stop_le
  have stopped := (accounting inside stepped).stop_eq
  obtain ⟨kept, least, fewer, reached⟩ := Preceding.mem_shorterEnds.1 shorter
  exact ⟨kept, least, fewer, by rw [stopped, reached]⟩

/-! ## Stages of a sequence -/

/-- A place between two elements of a sequence. -/
structure Stage where
  /-- The elements that are still to match. -/
  rest : List Node
  /-- The latest success, if an element has matched. -/
  preceding : Option Preceding
  /-- The state that is reached. -/
  state : State

/-- The stages through which the match of nodes passes that begins in a state. -/
inductive Passes (rollback : Rollback) (subject : Array Char) (nodes : List Node) (start : State) :
    Stage → Prop
  /-- In front of the first node nothing is remembered. -/
  | begins : Passes rollback subject nodes start ⟨nodes, none, start⟩
  /-- When the next node matches, its success is remembered from where it began. -/
  | advances {node : Node} {rest : List Node} {preceding : Option Preceding} {state next : State}
      {outcome : Outcome} (passed : Passes rollback subject nodes start ⟨node :: rest, preceding, state⟩)
      (matched : orAfterGiveback (node.attemptWith rollback subject) preceding state =
        ⟨.ok outcome, next⟩) :
      Passes rollback subject nodes start
        ⟨rest, some ⟨next.offset - outcome.consumed, outcome⟩, next⟩

/-- The match of a sequence goes on from every stage through which it passes. -/
theorem attemptSequence_of_passes {stage : Stage} (passed : Passes rollback subject nodes start stage) :
    attemptSequence rollback subject start.offset none nodes start =
      attemptSequence rollback subject start.offset stage.preceding stage.rest stage.state := by
  induction passed with
  | begins => rfl
  | advances _ matched ih =>
    rw [ih]
    simp only [attemptSequence, matched]

/-- At every stage the success that is remembered lies in the sequence, accounts for the stretch up to
the stage, and the stage lies in the subject. -/
theorem remembers_of_passes {stage : Stage} (inside : start.offset ≤ subject.size)
    (passed : Passes rollback subject nodes start stage) :
    start.offset ≤ stage.state.offset ∧ stage.state.offset ≤ subject.size ∧
      ∀ latest ∈ stage.preceding, Remembers subject start.offset stage.state.offset latest := by
  induction passed with
  | begins => exact ⟨Nat.le_refl _, inside, fun latest none => by cases none⟩
  | @advances node rest preceding state next outcome _ matched ih =>
    obtain ⟨after, within, remembered⟩ := ih
    have known := remembers_of_orAfterGiveback (accounts_of_attemptWith node) after within remembered
      matched
    have onward : start.offset ≤ next.offset := Nat.le_trans known.began_le (Nat.sub_le _ _)
    refine ⟨onward, known.accounts.stop_le, ?_⟩
    rintro _ ⟨⟩
    exact known

/-- An attempt that succeeds stands past what it consumed, inside the subject; it gives back only rounds
that it made, and these consumed everything; one that fails is back where it began. In a sequence the
success that is remembered always begins at or behind the beginning of the sequence and ends where
the sequence stands. A retry from such a success fails where it began, or stands past the rounds that
were kept and what the element behind them consumed. -/
theorem accounts_of_attempt_and_sequence (subject : Array Char) :
    (∀ (node : Node) (start final : State), start.offset ≤ subject.size →
      (∀ outcome, node.attempt subject start = ⟨.ok outcome, final⟩ →
        final.offset = start.offset + outcome.consumed ∧ final.offset ≤ subject.size ∧
          outcome.giveback ≤ outcome.repetitions.length ∧
          (outcome.repetitions = [] ∧ outcome.giveback = 0 ∨
            outcome.repetitions.sum = outcome.consumed)) ∧
      ∀ mismatch, node.attempt subject start = ⟨.error mismatch, final⟩ →
        final.offset = start.offset) ∧
    (∀ (nodes : List Node) (start : State) (stage : Stage), start.offset ≤ subject.size →
      Passes .offset subject nodes start stage →
      attemptSequence .offset subject start.offset none nodes start =
          attemptSequence .offset subject start.offset stage.preceding stage.rest stage.state ∧
        ∀ latest ∈ stage.preceding,
          latest.start + latest.outcome.consumed = stage.state.offset ∧
            start.offset ≤ latest.start) ∧
    ∀ (node : Node) (preceding : Preceding) (state final : State), state.offset ≤ subject.size →
      preceding.start + preceding.outcome.consumed = state.offset →
      preceding.outcome.giveback ≤ preceding.outcome.repetitions.length →
      (preceding.outcome.repetitions = [] ∨
        preceding.outcome.repetitions.sum = preceding.outcome.consumed) →
      (∀ mismatch, afterGiveback (node.attempt subject) preceding state = ⟨.error mismatch, final⟩ →
        final.offset = state.offset) ∧
      ∀ outcome, afterGiveback (node.attempt subject) preceding state = ⟨.ok outcome, final⟩ →
        ∃ kept, preceding.outcome.repetitions.length - preceding.outcome.giveback ≤ kept ∧
          kept < preceding.outcome.repetitions.length ∧
          final.offset =
            preceding.start + (preceding.outcome.repetitions.take kept).sum + outcome.consumed := by
  refine ⟨?attempts, ?sequences, ?retries⟩
  case attempts =>
    intro node start final inside
    refine ⟨fun outcome found => ?_, fun mismatch failed => offset_of_attemptWith_error failed⟩
    have accounts := accounts_of_attemptWith node inside found
    have few := accounts.giveback_le
    refine ⟨accounts.stop_eq, accounts.stop_le, few, ?_⟩
    rcases accounts.total with nothing | everything
    · rw [nothing, List.length_nil] at few
      exact .inl ⟨nothing, Nat.le_zero.1 few⟩
    · exact .inr (by rw [← totalLength_eq_sum, everything])
  case sequences =>
    intro nodes start stage inside passed
    refine ⟨attemptSequence_of_passes passed, fun latest isLatest => ?_⟩
    obtain ⟨-, -, remembered⟩ := remembers_of_passes inside passed
    have known := remembered latest isLatest
    exact ⟨known.accounts.stop_eq.symm, known.began_le⟩
  case retries =>
    intro node preceding state final inside ends few total
    refine ⟨fun mismatch failed => (offset_of_afterGiveback_error failed).1, fun outcome found => ?_⟩
    have accounts : preceding.outcome.Accounts subject preceding.start state.offset :=
      ⟨ends.symm, inside, few, by rwa [totalLength_eq_sum]⟩
    have accounting : Accounting subject (node.attempt subject) := accounts_of_attemptWith node
    obtain ⟨kept, least, fewer, reached⟩ := exists_kept_of_afterGiveback accounting accounts found
    exact ⟨kept, least, fewer, by rw [reached, totalLength_eq_sum]⟩

/-- In the subject `aaa` the repetition of `a+a` takes all runes, and gives its last round back to the
rune behind it. -/
theorem accounts_of_round_given_back :
    ∃ (repeated : Outcome) (middle final : State),
      (repetition (.literal 'a') 1 none).attempt #['a', 'a', 'a'] ⟨0, .empty⟩ =
        ⟨.ok repeated, middle⟩ ∧ middle.offset = 0 + repeated.consumed ∧
      Passes .offset #['a', 'a', 'a'] [.repetition (.literal 'a') 1 none, .literal 'a'] ⟨0, .empty⟩
        ⟨[], some ⟨2, .consuming 1⟩, final⟩ ∧ 2 + 1 = final.offset ∧
      ∃ kept, 3 - 2 ≤ kept ∧ kept < 3 ∧
        final.offset = 0 + (repeated.repetitions.take kept).sum + 1 := by
  obtain ⟨attempts, sequences, retries⟩ := accounts_of_attempt_and_sequence #['a', 'a', 'a']
  let repeated : Outcome := ⟨3, [1, 1, 1], 2⟩
  let middle : State := ⟨3, .empty⟩
  let final : State := ⟨3, .empty⟩
  have matched : (repetition (.literal 'a') 1 none).attempt #['a', 'a', 'a'] ⟨0, .empty⟩ =
      ⟨.ok repeated, middle⟩ := rfl
  have retried : afterGiveback ((literal 'a').attempt #['a', 'a', 'a']) ⟨0, repeated⟩ middle =
      ⟨.ok (.consuming 1), final⟩ := rfl
  have behind : Passes .offset #['a', 'a', 'a'] [.repetition (.literal 'a') 1 none, .literal 'a']
      ⟨0, .empty⟩ ⟨[.literal 'a'], some ⟨0, repeated⟩, middle⟩ :=
    .advances .begins (orAfterGiveback_none_eq_ok.2 matched)
  have passed : Passes .offset #['a', 'a', 'a'] [.repetition (.literal 'a') 1 none, .literal 'a']
      ⟨0, .empty⟩ ⟨[], some ⟨2, .consuming 1⟩, final⟩ :=
    .advances behind retried
  have consumed := ((attempts _ _ middle (Nat.zero_le 3)).1 repeated matched).1
  have remembered := ((sequences _ _ _ (Nat.zero_le 3) passed).2 _ rfl).1
  have kept := (retries (.literal 'a') ⟨0, repeated⟩ middle final (Nat.le_refl 3) rfl (by decide)
    (.inr rfl)).2 _ retried
  exact ⟨repeated, middle, final, matched, consumed, passed, remembered, kept⟩

end Node
end PatternSearch
