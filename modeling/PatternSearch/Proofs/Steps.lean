import Mathlib.Data.List.Basic
import Mathlib.Data.List.Range
import PatternSearch.Attempt

/-!
# Laws of single steps

What the attempts that need no pattern tree can do, each said once: putting a state back, matching a
rune or a text, taking a step round after round, and taking a step again after rounds are given
back. Proofs about trees use these laws and do not open the definitions.

`Rounds` is the relational reading of repetition: each round begins where the one before it ended,
with what that one captured. `Outcome.Accounts` says that the numbers in an outcome agree with the
offsets between which the attempt went.
-/
namespace PatternSearch

/-- The numbers in an outcome agree with the offsets at which its attempt began and stopped. -/
structure Outcome.Accounts (outcome : Outcome) (subject : Array Char) (start stop : Nat) : Prop where
  /-- The attempt stopped past what it consumed. -/
  stop_eq : stop = start + outcome.consumed
  /-- The attempt stopped inside the subject. -/
  stop_le : stop ≤ subject.size
  /-- Only rounds that were made are given back. -/
  giveback_le : outcome.giveback ≤ outcome.repetitions.length
  /-- Rounds, where there are any, consumed everything together. -/
  total : outcome.repetitions = [] ∨ Attempt.totalLength outcome.repetitions = outcome.consumed

/-- An outcome without rounds accounts for any stretch of its length. -/
theorem Outcome.accounts_consuming {subject : Array Char} {start stop consumed : Nat}
    (stopped : stop = start + consumed) (inside : stop ≤ subject.size) :
    (Outcome.consuming consumed).Accounts subject start stop :=
  ⟨stopped, inside, Nat.le_refl 0, .inl rfl⟩

/-- A state that is moved to an offset is there. -/
@[simp] theorem State.at_offset (state : State) (offset : Nat) : (state.at offset).offset = offset :=
  rfl

/-- Moving a state keeps the captured texts. -/
@[simp] theorem State.at_captures (state : State) (offset : Nat) :
    (state.at offset).captures = state.captures := rfl

/-- A state that is moved to where it is stays as it is. -/
@[simp] theorem State.at_self (state : State) : state.at state.offset = state := rfl

/-- The last one of two moves counts. -/
@[simp] theorem State.at_at (state : State) (first second : Nat) :
    (state.at first).at second = state.at second := rfl

/-- A state is put back to the offset at which the attempt began under every rule. -/
@[simp] theorem Rollback.restore_offset (rollback : Rollback) (start failed : State) :
    (rollback.restore start failed).offset = start.offset := by
  cases rollback <;> rfl

namespace Attempt

/-- A success ends with its own outcome and state. -/
@[simp] theorem success_eq_ok {outcome other : Outcome} {state final : State} :
    success outcome state = ⟨.ok other, final⟩ ↔ outcome = other ∧ state = final := by
  simp [success]

/-- A success is no failure. -/
@[simp] theorem success_eq_error {outcome : Outcome} {mismatch : Mismatch} {state final : State} :
    success outcome state = ⟨.error mismatch, final⟩ ↔ False := by
  simp [success]

/-- A failure is no success. -/
@[simp] theorem failure_eq_ok {mismatch : Mismatch} {outcome : Outcome} {state final : State} :
    failure mismatch state = ⟨.ok outcome, final⟩ ↔ False := by
  simp [failure]

/-- A failure ends with its own mismatch and state. -/
@[simp] theorem failure_eq_error {mismatch other : Mismatch} {state final : State} :
    failure mismatch state = ⟨.error other, final⟩ ↔ mismatch = other ∧ state = final := by
  simp [failure]

/-! ## Putting the state back -/

/-- Putting back leaves a success alone. -/
theorem restoring_eq_ok {rollback : Rollback} {start final : State} {attempt : Attempt}
    {outcome : Outcome} :
    restoring rollback start attempt = ⟨.ok outcome, final⟩ ↔ attempt = ⟨.ok outcome, final⟩ := by
  obtain ⟨result, state⟩ := attempt
  cases result <;> simp [restoring]

/-- Putting back changes the state of a failure, and nothing else. -/
theorem restoring_eq_error {rollback : Rollback} {start final : State} {attempt : Attempt}
    {mismatch : Mismatch} :
    restoring rollback start attempt = ⟨.error mismatch, final⟩ ↔
      ∃ failed, attempt = ⟨.error mismatch, failed⟩ ∧ final = rollback.restore start failed := by
  obtain ⟨result, state⟩ := attempt
  cases result <;> simp [restoring, eq_comm]

/-! ## Runes and texts -/

/-- A rune is matched where the subject has one that is wanted. -/
theorem rune_eq_ok {subject : Array Char} {wanted : Char → Bool} {state final : State}
    {outcome : Outcome} :
    rune subject wanted state = ⟨.ok outcome, final⟩ ↔
      ∃ found, subject[state.offset]? = some found ∧ wanted found = true ∧
        outcome = .consuming 1 ∧ final = state.at (state.offset + 1) := by
  unfold rune
  cases present : subject[state.offset]? with
  | none => simp
  | some found =>
    cases accepted : wanted found with
    | false => simp [accepted]
    | true => simp [accepted, eq_comm (b := outcome), eq_comm (b := final)]

/-- A rune that is not matched changes nothing. -/
theorem rune_eq_error {subject : Array Char} {wanted : Char → Bool} {state final : State}
    {mismatch : Mismatch} (failed : rune subject wanted state = ⟨.error mismatch, final⟩) :
    final = state ∧ ∀ found, subject[state.offset]? = some found → wanted found = false := by
  unfold rune at failed
  cases present : subject[state.offset]? with
  | none => simp_all
  | some found => cases accepted : wanted found <;> simp_all

/-- A text is found where the rest of the subject begins with it. -/
theorem compare_eq_ok {subject : Array Char} {wanted : Text} {offset stop : Nat} :
    text.compare subject wanted offset = .ok stop ↔
      wanted <+: subject.toList.drop offset ∧ stop = offset + wanted.length := by
  induction wanted generalizing offset with
  | nil => simp [text.compare, eq_comm]
  | cons rune rest ih =>
    rw [text.compare]
    cases present : subject[offset]? with
    | none =>
      have past : subject.size ≤ offset := by simpa using present
      have nothing : subject.toList.drop offset = [] := by simpa using past
      simp [nothing]
    | some found =>
      obtain ⟨inside, here⟩ := Array.getElem?_eq_some_iff.1 present
      have next : subject.toList.drop offset = found :: subject.toList.drop (offset + 1) := by
        rw [List.drop_eq_getElem_cons (by simpa using inside), Array.getElem_toList, here]
      rw [next, List.cons_prefix_cons, List.length_cons]
      show (if found = rune then text.compare subject rest (offset + 1) else .error .noMatch) = _ ↔ _
      by_cases same : found = rune
      · rw [if_pos same, ih]
        simp only [same, true_and]
        exact and_congr_right fun _ => by omega
      · rw [if_neg same]
        simp [Ne.symm same]

/-- A text is matched where the rest of the subject begins with it. -/
theorem text_eq_ok {subject : Array Char} {wanted : Text} {state final : State}
    {outcome : Outcome} :
    text subject wanted state = ⟨.ok outcome, final⟩ ↔
      wanted <+: subject.toList.drop state.offset ∧ outcome = .consuming wanted.length ∧
        final = state.at (state.offset + wanted.length) := by
  unfold text
  cases found : text.compare subject wanted state.offset with
  | ok stop =>
    obtain ⟨begins, stopped⟩ := compare_eq_ok.1 found
    simp [begins, stopped, eq_comm (b := outcome), eq_comm (b := final)]
  | error mismatch =>
    have missing : ¬ wanted <+: subject.toList.drop state.offset := by
      intro begins
      rw [compare_eq_ok.2 ⟨begins, rfl⟩] at found
      cases found
    simp [missing]

/-! ## Rounds of a repetition -/

/-- Successful rounds of a step: what each consumed, from one state to another. -/
inductive Rounds (step : State → Attempt) : State → List Nat → State → Prop
  /-- No round. -/
  | none (state : State) : Rounds step state [] state
  /-- One round, and the rounds from where it ended. -/
  | more {state next final : State} {outcome : Outcome} {lengths : List Nat} :
      step state = ⟨.ok outcome, next⟩ → Rounds step next lengths final →
        Rounds step state (outcome.consumed :: lengths) final

/-- The first rounds of a repetition are rounds as well. -/
theorem Rounds.take {step : State → Attempt} {state final : State} {lengths : List Nat}
    (rounds : Rounds step state lengths final) (count : Nat) :
    ∃ middle, Rounds step state (lengths.take count) middle := by
  induction rounds generalizing count with
  | none state => exact ⟨state, by rw [List.take_nil]; exact .none state⟩
  | more stepped _ ih =>
    cases count with
    | zero => exact ⟨_, .none _⟩
    | succ count =>
      obtain ⟨middle, first⟩ := ih count
      exact ⟨middle, .more stepped first⟩

/-- Rounds keep what every successful step keeps. -/
theorem Rounds.keeps (Kept : State → Prop) {step : State → Attempt} {state final : State}
    {lengths : List Nat} (rounds : Rounds step state lengths final)
    (keeps : ∀ before outcome after, Kept before → step before = ⟨.ok outcome, after⟩ → Kept after)
    (kept : Kept state) : Kept final := by
  induction rounds with
  | none state => exact kept
  | more stepped _ ih => exact ih (keeps _ _ _ kept stepped)

/-- A repetition takes successful rounds until its rounds are used up, or a round consumes nothing,
or the step fails; only in the last case does it end past the rounds, in what the failure left. -/
theorem repeated_rounds (step : State → Attempt) (rounds : Nat) (state : State) :
    ∃ last, Rounds step state (repeated step rounds state).1 last ∧
      (repeated step rounds state).1.length ≤ rounds ∧
      ((repeated step rounds state).2 = last ∨
        ∃ mismatch, step last = ⟨.error mismatch, (repeated step rounds state).2⟩) := by
  induction rounds generalizing state with
  | zero => exact ⟨state, .none state, Nat.le_refl 0, .inl rfl⟩
  | succ rounds ih =>
    cases stepped : step state with
    | mk result next =>
      cases result with
      | error mismatch =>
        simp only [repeated, stepped]
        exact ⟨state, .none state, Nat.zero_le _, .inr ⟨mismatch, stepped⟩⟩
      | ok outcome =>
        by_cases empty : outcome.consumed = 0
        · simp only [repeated, stepped, if_pos empty]
          exact ⟨next, empty ▸ .more stepped (.none next), by simp, .inl rfl⟩
        · obtain ⟨last, later, few, ended⟩ := ih next
          simp only [repeated, stepped, if_neg empty]
          exact ⟨last, .more stepped later, by simpa using few, ended⟩

/-- There are at most as many rounds as a maximum says. -/
theorem rounds_le (left : Nat) {most : Nat} {max : Option Nat} (bounded : max = some most) :
    rounds left max ≤ most := by
  subst bounded
  exact Nat.min_le_left _ _

/-- A repetition succeeds when its rounds reach the minimum. -/
theorem repetition_eq_ok {subject : Array Char} {step : State → Attempt} {min : Nat}
    {max : Option Nat} {state final : State} {outcome : Outcome} :
    repetition subject step min max state = ⟨.ok outcome, final⟩ ↔
      ∃ lengths, repeated step (rounds (subject.size - state.offset) max) state = (lengths, final) ∧
        min ≤ lengths.length ∧
        outcome = ⟨totalLength lengths, lengths, lengths.length - min⟩ := by
  unfold repetition
  cases repeated step (rounds (subject.size - state.offset) max) state with
  | mk lengths last =>
    by_cases few : lengths.length < min
    · simp only [if_pos few, failure_eq_ok, Prod.mk.injEq, false_iff, not_exists, not_and]
      rintro _ ⟨rfl, -⟩ enough
      omega
    · simp only [if_neg few, success_eq_ok, Prod.mk.injEq]
      constructor
      · rintro ⟨rfl, rfl⟩
        exact ⟨lengths, ⟨rfl, rfl⟩, by omega, rfl⟩
      · rintro ⟨_, ⟨rfl, rfl⟩, -, rfl⟩
        exact ⟨rfl, rfl⟩

/-! ## Giving rounds back -/

/-- A round begins past the rounds before it. -/
theorem roundStarts_eq_map (start : Nat) (lengths : List Nat) :
    roundStarts start lengths =
      (List.range lengths.length).map fun kept => start + totalLength (lengths.take kept) := by
  induction lengths generalizing start with
  | nil => rfl
  | cons length later ih =>
    rw [roundStarts, ih, List.length_cons, List.range_succ_eq_map, List.map_cons, List.map_map]
    refine congrArg₂ _ rfl (List.map_congr_left fun kept _ => ?_)
    simp only [Function.comp, List.take_succ_cons, totalLength]
    omega

/-- A repetition gives its rounds back one after the other, down to those that it has to keep. -/
theorem Preceding.shorterEnds_eq_map (preceding : Preceding) :
    preceding.shorterEnds =
      (List.range' preceding.leastRounds
        (preceding.outcome.repetitions.length - preceding.leastRounds)).reverse.map fun kept =>
          preceding.start + totalLength (preceding.outcome.repetitions.take kept) := by
  rw [shorterEnds, roundStarts_eq_map, ← List.map_drop, List.range_eq_range', List.drop_range',
    List.map_reverse, Nat.zero_add, Nat.mul_one]

/-- An offset to which a repetition can give back is where it ends with fewer rounds, but not fewer
than it has to keep. -/
theorem Preceding.mem_shorterEnds {preceding : Preceding} {offset : Nat} :
    offset ∈ preceding.shorterEnds ↔
      ∃ kept, preceding.leastRounds ≤ kept ∧ kept < preceding.outcome.repetitions.length ∧
        offset = preceding.start + totalLength (preceding.outcome.repetitions.take kept) := by
  rw [shorterEnds_eq_map, List.mem_map]
  constructor
  · rintro ⟨kept, member, rfl⟩
    have inRange := List.mem_range'_1.1 (List.mem_reverse.1 member)
    exact ⟨kept, by omega, by omega, rfl⟩
  · rintro ⟨kept, least, inside, rfl⟩
    exact ⟨kept, List.mem_reverse.2 (List.mem_range'_1.2 (by omega)), rfl⟩

/-- Rounds consume no less than the first ones among them. -/
theorem totalLength_take_le (lengths : List Nat) (count : Nat) :
    totalLength (lengths.take count) ≤ totalLength lengths := by
  induction lengths generalizing count with
  | nil => rw [List.take_nil]
  | cons length later ih =>
    cases count with
    | zero => exact Nat.zero_le _
    | succ count =>
      have := ih count
      simp only [List.take_succ_cons, totalLength]
      omega

/-- Giving back stays between the start of a success and its end. -/
theorem Preceding.shorterEnds_between {subject : Array Char} {preceding : Preceding} {stop : Nat}
    (accounts : preceding.outcome.Accounts subject preceding.start stop) {offset : Nat}
    (shorter : offset ∈ preceding.shorterEnds) : preceding.start ≤ offset ∧ offset ≤ stop := by
  obtain ⟨kept, -, inside, rfl⟩ := mem_shorterEnds.1 shorter
  have part := totalLength_take_le preceding.outcome.repetitions kept
  have stopped := accounts.stop_eq
  rcases accounts.total with nothing | all
  · rw [nothing, List.length_nil] at inside
    omega
  · omega

/-- Nothing is given back after an outcome that has no rounds to give. -/
theorem Preceding.shorterEnds_eq_nil {preceding : Preceding}
    (kept : preceding.outcome.giveback = 0) : preceding.shorterEnds = [] := by
  refine List.eq_nil_iff_forall_not_mem.2 fun offset shorter => ?_
  obtain ⟨kept', least, inside, -⟩ := mem_shorterEnds.1 shorter
  rw [leastRounds, kept] at least
  omega

section Giveback

variable {step : State → Attempt}

/-- A success at one of some offsets is a success of the step there, beside captured texts that keep
what every failure before it kept. -/
theorem atFirst_eq_ok (Kept : Captures → Prop) {ended : Nat} {offsets : List Nat}
    {state final : State} {outcome : Outcome}
    (keeps : ∀ before mismatch after, before.offset ∈ offsets → Kept before.captures →
      step before = ⟨.error mismatch, after⟩ → Kept after.captures)
    (kept : Kept state.captures)
    (found : atFirst step ended offsets state = ⟨.ok outcome, final⟩) :
    ∃ start, start.offset ∈ offsets ∧ Kept start.captures ∧ step start = ⟨.ok outcome, final⟩ := by
  induction offsets generalizing state with
  | nil => cases found
  | cons offset rest ih =>
    rw [atFirst] at found
    cases stepped : step (state.at offset) with
    | mk result next =>
      rw [stepped] at found
      cases result with
      | ok first =>
        cases found
        exact ⟨state.at offset, List.mem_cons_self, kept, stepped⟩
      | error mismatch =>
        have keepsLater : ∀ before mismatch after, before.offset ∈ rest → Kept before.captures →
            step before = ⟨.error mismatch, after⟩ → Kept after.captures :=
          fun before mismatch after member => keeps before mismatch after
            (List.mem_cons_of_mem _ member)
        have keptHere := keeps (state.at offset) _ _ List.mem_cons_self kept stepped
        have ⟨start, member, others⟩ := ih keepsLater keptHere found
        exact ⟨start, List.mem_cons_of_mem _ member, others⟩

/-- Where a step is tried that may follow a repetition: where it stands, or at an offset to which the
repetition before it can give back. -/
def TriedAt (preceding : Option Preceding) (stands offset : Nat) : Prop :=
  offset = stands ∨ ∃ latest ∈ preceding, offset ∈ latest.shorterEnds

/-- A step that succeeds, perhaps only after rounds are given back, succeeds where it may be tried,
beside captured texts that keep what every failure before it kept. -/
theorem orAfterGiveback_eq_ok (Kept : Captures → Prop) {preceding : Option Preceding}
    {state final : State} {outcome : Outcome}
    (keeps : ∀ before mismatch after, TriedAt preceding state.offset before.offset →
      Kept before.captures → step before = ⟨.error mismatch, after⟩ → Kept after.captures)
    (kept : Kept state.captures)
    (found : orAfterGiveback step preceding state = ⟨.ok outcome, final⟩) :
    ∃ start, TriedAt preceding state.offset start.offset ∧ Kept start.captures ∧
      step start = ⟨.ok outcome, final⟩ := by
  unfold orAfterGiveback at found
  cases stepped : step state with
  | mk result next =>
    rw [stepped] at found
    cases result with
    | ok first =>
      cases found
      exact ⟨state, .inl rfl, kept, stepped⟩
    | error mismatch =>
      cases preceding with
      | none => cases found
      | some repeated =>
        by_cases gives : 0 < repeated.outcome.giveback
        · simp only [if_pos gives] at found
          have ⟨start, member, others⟩ := atFirst_eq_ok Kept
            (fun before mismatch after member =>
              keeps before mismatch after (.inr ⟨repeated, rfl, member⟩))
            (keeps state _ _ (.inl rfl) kept stepped) found
          exact ⟨start, .inr ⟨repeated, rfl, member⟩, others⟩
        · simp only [if_neg gives] at found
          cases found

/-- Where success anywhere the step may be tried means success where it stands, giving rounds back
makes no difference. -/
theorem orAfterGiveback_eq_ok_of_useless {preceding : Option Preceding} {state final : State}
    {outcome : Outcome}
    (useless : ∀ start first next, TriedAt preceding state.offset start.offset →
      step start = ⟨.ok first, next⟩ → ∃ first next, step state = ⟨.ok first, next⟩) :
    orAfterGiveback step preceding state = ⟨.ok outcome, final⟩ ↔
      step state = ⟨.ok outcome, final⟩ := by
  cases stepped : step state with
  | mk result next =>
    cases result with
    | ok first =>
      unfold orAfterGiveback
      rw [stepped]
      rfl
    | error mismatch =>
      constructor
      · intro found
        have ⟨start, tried, _, there⟩ := orAfterGiveback_eq_ok (fun _ => True)
          (fun _ _ _ _ _ _ => trivial) trivial found
        have ⟨first, next, here⟩ := useless start outcome final tried there
        rw [stepped] at here
        cases here
      · intro found
        cases found

/-- A step that succeeds where it stands is taken once. -/
theorem orAfterGiveback_of_eq_ok {preceding : Option Preceding} {state final : State}
    {outcome : Outcome} (found : step state = ⟨.ok outcome, final⟩) :
    orAfterGiveback step preceding state = ⟨.ok outcome, final⟩ := by
  unfold orAfterGiveback
  rw [found]
  rfl

/-- Without a repetition before it, a step is taken once. -/
theorem orAfterGiveback_none_eq_ok {state final : State} {outcome : Outcome} :
    orAfterGiveback step none state = ⟨.ok outcome, final⟩ ↔
      step state = ⟨.ok outcome, final⟩ := by
  unfold orAfterGiveback
  cases step state with
  | mk result next => cases result <;> simp

end Giveback

end Attempt
end PatternSearch
