import PatternSearch.Proofs.Accounting

/-!
# Where an element may end

In a sequence an element may be left in more than one place: where it stopped, and wherever it may
give back to when the element after it fails. `Reaching` is the form of the invariants that speak of
all these ends at once, for any relation between the state where an attempt began and the states
where it may end.

`Reaching.extends` carries such an invariant along a sequence, past every retry. Rounds of a
repetition make a `Chain` of the relation.
-/
namespace PatternSearch.Node

open Attempt

/-- A relation over and over: from the first place to the last one in so many steps. -/
def Chain {Place : Type} (step : Place → Place → Prop) : (count : Nat) → Place → Place → Prop
  | 0, first, last => first = last
  | count + 1, first, last => ∃ next, step first next ∧ Chain step count next last

/-- Where a step succeeds, a relation leads from the state in which it began to the one that it
reached, and with the same captured texts to every end to which the step may still give back. -/
def Reaching (subject : Array Char) (Leads : State → State → Prop) (step : State → Attempt) :
    Prop :=
  ∀ ⦃start final : State⦄ ⦃outcome : Outcome⦄, start.offset ≤ subject.size →
    step start = ⟨.ok outcome, final⟩ →
    ∀ stop, stop = final.offset ∨ stop ∈ Preceding.shorterEnds ⟨start.offset, outcome⟩ →
      Leads start (final.at stop)

variable {subject : Array Char} {Leads : State → State → Prop} {step : State → Attempt}

/-- A step that gives nothing back may end in one state only. -/
theorem Reaching.of_consuming
    (leads : ∀ {start final : State} {outcome : Outcome}, start.offset ≤ subject.size →
      step start = ⟨.ok outcome, final⟩ → Leads start final ∧ outcome.giveback = 0) :
    Reaching subject Leads step := by
  intro start final outcome inside found stop ends
  have ⟨led, kept⟩ := leads inside found
  rcases ends with same | shorter
  · rw [same]
    exact led
  · rw [Preceding.shorterEnds_eq_nil kept] at shorter
    cases shorter

/-- Rounds of a step are a chain of what each of them is. -/
theorem chain_of_rounds {Place : Type} {Related : Place → Place → Prop} {start final : State}
    {lengths : List Nat} (place : State → Place) (accounting : Accounting subject step)
    (related : ∀ {start final : State} {outcome : Outcome}, start.offset ≤ subject.size →
      step start = ⟨.ok outcome, final⟩ → Related (place start) (place final))
    (rounds : Rounds step start lengths final) (inside : start.offset ≤ subject.size) :
    Chain Related lengths.length (place start) (place final) := by
  induction rounds with
  | none state => rfl
  | more stepped _ ih =>
    have accounts := accounting inside stepped
    exact ⟨_, related inside stepped, ih accounts.stop_le⟩

/-- An element of a sequence leads on from the states that the elements in front of it may have
reached: it is tried where the sequence may stand, beside captured texts that every failure before
keeps. -/
theorem Reaching.extends {began : Nat} {preceding : Option Preceding} {start final : State}
    {outcome : Outcome} (Kept : Captures → Prop) (Reached : State → Prop)
    (reaching : Reaching subject Leads step) (accounting : Accounting subject step)
    (after : began ≤ start.offset) (inside : start.offset ≤ subject.size)
    (remembered : ∀ latest ∈ preceding, Remembers subject began start.offset latest)
    (keeps : ∀ before mismatch failed, before.offset ≤ subject.size → Kept before.captures →
      step before = ⟨.error mismatch, failed⟩ → Kept failed.captures)
    (kept : Kept start.captures)
    (reached : ∀ state, TriedAt preceding start.offset state.offset → Kept state.captures →
      Reached state)
    (found : orAfterGiveback step preceding start = ⟨.ok outcome, final⟩) :
    ∃ middle, Reached middle ∧
      ∀ stop, TriedAt (some ⟨final.offset - outcome.consumed, outcome⟩) final.offset stop →
        Leads middle (final.at stop) := by
  have ⟨tried, place, keptThere, stepped⟩ := orAfterGiveback_eq_ok Kept
    (fun before mismatch failed place =>
      keeps before mismatch failed (between_of_triedAt after inside remembered place).2) kept found
  have between := between_of_triedAt after inside remembered place
  have begins : final.offset - outcome.consumed = tried.offset := by
    have stopped := (accounting between.2 stepped).stop_eq
    omega
  refine ⟨tried, reached tried place keptThere, fun stop ends => ?_⟩
  refine reaching between.2 stepped stop ?_
  rcases ends with last | ⟨latest, isLatest, shorter⟩
  · exact .inl last
  · cases isLatest
    rw [begins] at shorter
    exact .inr shorter

end PatternSearch.Node
