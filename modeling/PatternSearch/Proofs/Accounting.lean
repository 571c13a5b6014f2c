import PatternSearch.Proofs.Parts
import PatternSearch.Proofs.Steps

/-!
# What an attempt consumes

The laws `startAnchor_eq_ok` and so on say for each kind of node when an attempt succeeds, under
every rule of what a failed attempt puts back. From them follows the accounting of the engine: an
attempt that fails is back where it began, and one that succeeds stands past what its outcome says
it consumed (`accounts_of_attemptWith`), through every nesting, every retry and every rule.
-/
namespace PatternSearch.Node

open Attempt

variable {rollback : Rollback} {subject : Array Char} {start final : State} {outcome : Outcome}
  {mismatch : Mismatch}

/-- A failed attempt is back at the offset where it began. -/
theorem offset_of_attemptWith_error {node : Node}
    (failed : node.attemptWith rollback subject start = ⟨.error mismatch, final⟩) :
    final.offset = start.offset := by
  rw [attemptWith.eq_def] at failed
  obtain ⟨reached, -, rfl⟩ := restoring_eq_error.1 failed
  exact rollback.restore_offset start reached

/-- A node that matches one rune is an attempt of that rune. -/
theorem attemptWith_of_isQuantifiable {node : Node} (single : node.isQuantifiable = true) :
    node.attemptWith rollback subject start =
      restoring rollback start (rune subject node.accepts start) := by
  cases node <;> first | rfl | simp [isQuantifiable] at single

/-- A start anchor matches what its node matches, at the start of the subject. -/
theorem startAnchor_eq_ok {node : Node} :
    (startAnchor node).attemptWith rollback subject start = ⟨.ok outcome, final⟩ ↔
      start.offset = 0 ∧ node.attemptWith rollback subject start = ⟨.ok outcome, final⟩ := by
  rw [attemptWith, restoring_eq_ok]
  by_cases first : start.offset = 0
  · simp only [first, ↓reduceIte, true_and]
  · simp only [first, ↓reduceIte, false_and, failure_eq_ok]

/-- An end anchor matches what its node matches, up to the end of the subject, and gives no rounds back. -/
theorem endAnchor_eq_ok {node : Node} :
    (endAnchor node).attemptWith rollback subject start = ⟨.ok outcome, final⟩ ↔
      ∃ inner, node.attemptWith rollback subject start = ⟨.ok inner, final⟩ ∧
        subject.size ≤ final.offset ∧ outcome = .consuming inner.consumed := by
  rw [attemptWith, restoring_eq_ok]
  cases node.attemptWith rollback subject start with
  | mk result reached =>
    cases result with
    | error mismatch => simp
    | ok inner =>
      by_cases ended : subject.size ≤ reached.offset
      · simp only [if_pos ended, success_eq_ok, Attempt.mk.injEq, Except.ok.injEq]
        constructor
        · rintro ⟨rfl, rfl⟩
          exact ⟨inner, ⟨rfl, rfl⟩, ended, rfl⟩
        · rintro ⟨_, ⟨rfl, rfl⟩, -, rfl⟩
          exact ⟨rfl, rfl⟩
      · simp only [if_neg ended, failure_eq_ok, Attempt.mk.injEq, Except.ok.injEq, false_iff,
          not_exists, not_and]
        rintro _ ⟨-, rfl⟩ reachedEnd
        exact absurd reachedEnd ended

/-- A repetition matches when its loop makes enough rounds, and it may give back those past the minimum. -/
theorem repetition_eq_ok {node : Node} {min : Nat} {max : Option Nat} :
    (repetition node min max).attemptWith rollback subject start = ⟨.ok outcome, final⟩ ↔
      ∃ lengths,
        repeated (node.attemptWith rollback subject) (rounds (subject.size - start.offset) max)
          start = (lengths, final) ∧
        min ≤ lengths.length ∧
        outcome = ⟨totalLength lengths, lengths, lengths.length - min⟩ := by
  rw [attemptWith, restoring_eq_ok, Attempt.repetition_eq_ok]

/-- A group matches when its branches do. -/
theorem group_eq_ok {index : Nat} {branches : List Node} :
    (group index branches).attemptWith rollback subject start = ⟨.ok outcome, final⟩ ↔
      attemptBranches rollback subject index branches start = ⟨.ok outcome, final⟩ := by
  rw [attemptWith, restoring_eq_ok]

/-- A backreference matches where the captured text comes next. -/
theorem backreference_eq_ok {index : Nat} :
    (backreference index).attemptWith rollback subject start = ⟨.ok outcome, final⟩ ↔
      ∃ captured, start.captures.get? index = some captured ∧
        captured <+: subject.toList.drop start.offset ∧
        outcome = .consuming captured.length ∧
        final = start.at (start.offset + captured.length) := by
  rw [attemptWith, restoring_eq_ok]
  cases start.captures.get? index with
  | none => simp
  | some captured => simp [text_eq_ok]

/-- A sequence matches when its nodes do, with nothing matched in front of them. -/
theorem sequence_eq_ok {nodes : List Node} :
    (sequence nodes).attemptWith rollback subject start = ⟨.ok outcome, final⟩ ↔
      attemptSequence rollback subject start.offset none nodes start = ⟨.ok outcome, final⟩ := by
  rw [attemptWith, restoring_eq_ok]

/-- The first branch that matches makes a group match. -/
theorem attemptBranches_cons_eq_ok {index : Nat} {branch : Node} {rest : List Node} :
    attemptBranches rollback subject index (branch :: rest) start = ⟨.ok outcome, final⟩ ↔
      (∃ inner reached, branch.attemptWith rollback subject start = ⟨.ok inner, reached⟩ ∧
        outcome = .consuming inner.consumed ∧
        final = { reached with
          captures := reached.captures.record index
            (subject.extract start.offset reached.offset).toList }) ∨
      ∃ mismatch failed, branch.attemptWith rollback subject start = ⟨.error mismatch, failed⟩ ∧
        attemptBranches rollback subject index rest start = ⟨.ok outcome, final⟩ := by
  rw [attemptBranches]
  cases tried : branch.attemptWith rollback subject start with
  | mk result reached =>
    cases result with
    | ok inner => simp [eq_comm (b := outcome), eq_comm (b := final)]
    | error mismatch =>
      -- the branch is back at its offset, and the captured texts are put back by the group
      have back : ({ reached with captures := start.captures } : State) = start := by
        rw [show start = ⟨start.offset, start.captures⟩ from rfl,
          ← offset_of_attemptWith_error tried]
      simp [back]

/-- A sequence matches when its first node does and the nodes after it match from there. -/
theorem attemptSequence_cons_eq_ok {began : Nat} {preceding : Option Preceding} {node : Node}
    {rest : List Node} :
    attemptSequence rollback subject began preceding (node :: rest) start = ⟨.ok outcome, final⟩ ↔
      ∃ inner next,
        orAfterGiveback (node.attemptWith rollback subject) preceding start = ⟨.ok inner, next⟩ ∧
        attemptSequence rollback subject began (some ⟨next.offset - inner.consumed, inner⟩) rest next
          = ⟨.ok outcome, final⟩ := by
  rw [attemptSequence]
  cases orAfterGiveback (node.attemptWith rollback subject) preceding start with
  | mk result next => cases result <;> simp

/-- A sequence leaves no rounds to give back. -/
theorem giveback_of_attemptSequence {began : Nat} {preceding : Option Preceding} {nodes : List Node}
    (found : attemptSequence rollback subject began preceding nodes start = ⟨.ok outcome, final⟩) :
    outcome.giveback = 0 := by
  induction nodes generalizing preceding start with
  | nil =>
    rw [attemptSequence, success_eq_ok] at found
    rw [← found.1]
    rfl
  | cons node rest ih =>
    obtain ⟨_, _, -, later⟩ := attemptSequence_cons_eq_ok.1 found
    exact ih later

/-- A step that accounts for what it consumes: wherever it begins inside the subject and succeeds,
the numbers in its outcome agree with the offsets. -/
def Accounting (subject : Array Char) (step : State → Attempt) : Prop :=
  ∀ {start final : State} {outcome : Outcome}, start.offset ≤ subject.size →
    step start = ⟨.ok outcome, final⟩ → outcome.Accounts subject start.offset final.offset

/-- Rounds of such a step end past what they consumed together. -/
theorem offset_of_rounds {step : State → Attempt} (accounting : Accounting subject step)
    {lengths : List Nat} (rounds : Rounds step start lengths final)
    (inside : start.offset ≤ subject.size) :
    final.offset = start.offset + totalLength lengths ∧ final.offset ≤ subject.size := by
  induction rounds with
  | none state => exact ⟨rfl, inside⟩
  | more stepped _ ih =>
    have accounts := accounting inside stepped
    have stopped := accounts.stop_eq
    have later := ih accounts.stop_le
    rw [totalLength]
    omega

/-- Matching one rune accounts for it. -/
theorem accounts_of_rune (node : Node) (single : node.isQuantifiable = true) :
    Accounting subject (node.attemptWith rollback subject) := by
  intro start final outcome _ found
  rw [attemptWith_of_isQuantifiable single, restoring_eq_ok] at found
  obtain ⟨rune, present, -, rfl, rfl⟩ := rune_eq_ok.1 found
  obtain ⟨inside, -⟩ := Array.getElem?_eq_some_iff.1 present
  exact Outcome.accounts_consuming rfl inside

/-- A repetition of an accounting step, where a failed step is back at its offset, ends past what
its rounds consumed together. -/
theorem accounts_of_repeated {node : Node} {rounds : Nat} {lengths : List Nat}
    (accounting : Accounting subject (node.attemptWith rollback subject))
    (repeats : repeated (node.attemptWith rollback subject) rounds start = (lengths, final))
    (inside : start.offset ≤ subject.size) :
    final.offset = start.offset + totalLength lengths ∧ final.offset ≤ subject.size := by
  obtain ⟨last, made, -, ended⟩ := repeated_rounds (node.attemptWith rollback subject) rounds start
  rw [repeats] at made ended
  have reached := offset_of_rounds accounting made inside
  have same : final.offset = last.offset := by
    rcases ended with rfl | ⟨mismatch, failed⟩
    · rfl
    · exact offset_of_attemptWith_error failed
  rwa [same]

/-- A remembered success of a sequence that began at `began`: it began there or later, and ended at
`stop`. -/
structure Remembers (subject : Array Char) (began stop : Nat) (preceding : Preceding) : Prop where
  /-- It belongs to the sequence. -/
  began_le : began ≤ preceding.start
  /-- Its outcome accounts for the stretch up to `stop`. -/
  accounts : preceding.outcome.Accounts subject preceding.start stop

/-- An element of a sequence is tried only between the beginning of the sequence and where it stands,
so inside the subject. -/
theorem between_of_triedAt {began stands offset : Nat} {preceding : Option Preceding}
    (after : began ≤ stands) (inside : stands ≤ subject.size)
    (remembered : ∀ latest ∈ preceding, Remembers subject began stands latest)
    (tried : TriedAt preceding stands offset) : began ≤ offset ∧ offset ≤ subject.size := by
  rcases tried with rfl | ⟨latest, isLatest, shorter⟩
  · exact ⟨after, inside⟩
  · have known := remembered latest isLatest
    have ends := Preceding.shorterEnds_between known.accounts shorter
    have begins := known.began_le
    omega

/-- When an element of a sequence succeeds, also after rounds are given back, the success to remember
begins where the element was tried last, and that is inside the sequence. -/
theorem remembers_of_orAfterGiveback {step : State → Attempt}
    (accounting : Accounting subject step) {began : Nat} {preceding : Option Preceding}
    (after : began ≤ start.offset) (inside : start.offset ≤ subject.size)
    (remembered : ∀ latest ∈ preceding, Remembers subject began start.offset latest)
    (found : orAfterGiveback step preceding start = ⟨.ok outcome, final⟩) :
    Remembers subject began final.offset ⟨final.offset - outcome.consumed, outcome⟩ := by
  have ⟨tried, place, _, stepped⟩ := orAfterGiveback_eq_ok (fun _ => True)
    (fun _ _ _ _ _ _ => trivial) trivial found
  have between := between_of_triedAt after inside remembered place
  have accounts := accounting between.2 stepped
  have same : final.offset - outcome.consumed = tried.offset := by
    have := accounts.stop_eq
    omega
  exact ⟨same ▸ between.1, same ▸ accounts⟩

mutual

/-- An attempt that succeeds stands past what its outcome says it consumed. -/
theorem accounts_of_attemptWith :
    (node : Node) → Accounting subject (node.attemptWith rollback subject)
  | .literal own => accounts_of_rune (.literal own) rfl
  | .ofClass kind => accounts_of_rune (.ofClass kind) rfl
  | .set members negated => accounts_of_rune (.set members negated) rfl
  | .startAnchor node => fun inside found =>
    accounts_of_attemptWith node inside (startAnchor_eq_ok.1 found).2
  | .endAnchor node => fun inside found => by
    obtain ⟨inner, matched, -, rfl⟩ := endAnchor_eq_ok.1 found
    have accounts := accounts_of_attemptWith node inside matched
    exact Outcome.accounts_consuming accounts.stop_eq accounts.stop_le
  | .repetition node min max => fun inside found => by
    obtain ⟨lengths, repeats, enough, rfl⟩ := repetition_eq_ok.1 found
    have reached := accounts_of_repeated (accounts_of_attemptWith node) repeats inside
    exact ⟨reached.1, reached.2, Nat.sub_le _ _, .inr rfl⟩
  | .group index branches => fun inside found =>
    accounts_of_attemptBranches branches inside (group_eq_ok.1 found)
  | .backreference index => fun inside found => by
    obtain ⟨captured, -, begins, rfl, rfl⟩ := backreference_eq_ok.1 found
    have short := begins.length_le
    simp only [List.length_drop, Array.length_toList] at short
    exact Outcome.accounts_consuming rfl (by rw [State.at_offset]; omega)
  | .sequence nodes => fun inside found => by
    obtain ⟨after, stopped, rfl⟩ :=
      accounts_of_attemptSequence nodes (Nat.le_refl _) inside (by simp) (sequence_eq_ok.1 found)
    exact Outcome.accounts_consuming (by omega) stopped

/-- A group that succeeds stands past what its branch consumed. -/
theorem accounts_of_attemptBranches {index : Nat} :
    (branches : List Node) →
      Accounting subject (attemptBranches rollback subject index branches)
  | [] => fun _ found => by
    rw [attemptBranches, failure_eq_ok] at found
    exact found.elim
  | branch :: rest => fun inside found => by
    rcases attemptBranches_cons_eq_ok.1 found with
      ⟨inner, reached, matched, rfl, rfl⟩ | ⟨_, _, -, later⟩
    · have accounts := accounts_of_attemptWith branch inside matched
      exact Outcome.accounts_consuming accounts.stop_eq accounts.stop_le
    · exact accounts_of_attemptBranches rest inside later

/-- A sequence that succeeds stands inside the subject, and consumed what lies between its beginning
and there. -/
theorem accounts_of_attemptSequence {began : Nat} {preceding : Option Preceding} :
    (nodes : List Node) → ∀ {start final : State} {outcome : Outcome},
      began ≤ start.offset → start.offset ≤ subject.size →
      (∀ latest ∈ preceding, Remembers subject began start.offset latest) →
      attemptSequence rollback subject began preceding nodes start = ⟨.ok outcome, final⟩ →
      began ≤ final.offset ∧ final.offset ≤ subject.size ∧
        outcome = .consuming (final.offset - began)
  | [] => fun after inside _ found => by
    rw [attemptSequence, success_eq_ok] at found
    obtain ⟨rfl, rfl⟩ := found
    exact ⟨after, inside, rfl⟩
  | node :: rest => fun after inside remembered found => by
    obtain ⟨inner, next, matched, later⟩ := attemptSequence_cons_eq_ok.1 found
    have known := remembers_of_orAfterGiveback (accounts_of_attemptWith node) after inside
      remembered matched
    have stopped := known.accounts.stop_eq
    have begins := known.began_le
    refine accounts_of_attemptSequence rest (by omega) known.accounts.stop_le ?_ later
    rintro _ ⟨⟩
    exact known

end

/-- A repetition may end where all its rounds end, or where fewer of them end, down to the minimum:
each such end is reached by rounds as many as the repetition allows. -/
theorem rounds_of_repetition {node : Node} {min : Nat} {max : Option Nat}
    (inside : start.offset ≤ subject.size)
    (found : (repetition node min max).attemptWith rollback subject start = ⟨.ok outcome, final⟩)
    {stop : Nat} (ends : stop = final.offset ∨ stop ∈ Preceding.shorterEnds ⟨start.offset, outcome⟩) :
    ∃ lengths middle, Rounds (node.attemptWith rollback subject) start lengths middle ∧
      middle.offset = stop ∧ min ≤ lengths.length ∧
      ∀ most, max = some most → lengths.length ≤ most := by
  obtain ⟨lengths, repeats, enough, consumed⟩ := repetition_eq_ok.1 found
  subst consumed
  have accounting : Accounting subject (node.attemptWith rollback subject) :=
    accounts_of_attemptWith node
  obtain ⟨last, made, few, _⟩ := repeated_rounds (node.attemptWith rollback subject)
    (rounds (subject.size - start.offset) max) start
  simp only [repeats] at made few
  have all := (accounts_of_repeated accounting repeats inside).1
  have kept : ∃ count, min ≤ count ∧ count ≤ lengths.length ∧
      stop = start.offset + totalLength (lengths.take count) := by
    rcases ends with last | shorter
    · exact ⟨lengths.length, enough, Nat.le_refl _, by rw [last, List.take_length, all]⟩
    · obtain ⟨count, least, fewer, reached⟩ := Preceding.mem_shorterEnds.1 shorter
      simp only [Preceding.leastRounds] at least fewer
      exact ⟨count, by omega, by omega, reached⟩
  obtain ⟨count, least, most, reached⟩ := kept
  obtain ⟨middle, first⟩ := made.take count
  refine ⟨lengths.take count, middle, first, ?_, ?_, fun bound bounded => ?_⟩
  · rw [reached]
    exact (offset_of_rounds accounting first inside).1
  · rw [List.length_take_of_le most]
    exact least
  · rw [List.length_take_of_le most]
    have := rounds_le (subject.size - start.offset) bounded
    omega

end PatternSearch.Node
