import PatternSearch.Pattern
import PatternSearch.Proofs.Accounting

/-!
# What a search finds

A search tries the tree of a pattern at every start offset in turn, each time with nothing captured.
`findWith_eq_some` and `findWith_eq_none` say what it answers in terms of these attempts, and
`matchAt?_eq_some` what a match holds: the numbers and texts of the attempt that succeeded.
-/
namespace PatternSearch.Pattern

open Node

variable {rollback : Rollback} {subject : Array Char}

/-- A match at an offset holds what the attempt there consumed and captured. -/
theorem matchAt?_eq_some {root : Node} {start : Nat} {found : Match}
    (inside : start ≤ subject.size) :
    matchAt? rollback root subject start = some found ↔
      ∃ outcome state,
        root.attemptWith rollback subject ⟨start, .empty⟩ = ⟨.ok outcome, state⟩ ∧
        found = ⟨start, state.offset, (subject.extract start state.offset).toList,
          state.captures⟩ := by
  unfold matchAt?
  cases tried : root.attemptWith rollback subject ⟨start, .empty⟩ with
  | mk result state =>
    cases result with
    | error mismatch => simp
    | ok outcome =>
      have stopped := (accounts_of_attemptWith root inside tried).stop_eq
      simp only at stopped
      simp [← stopped, eq_comm (b := found)]

/-- There is no match at an offset where the attempt fails. -/
theorem matchAt?_eq_none {root : Node} {start : Nat} :
    matchAt? rollback root subject start = none ↔
      ∃ mismatch state,
        root.attemptWith rollback subject ⟨start, .empty⟩ = ⟨.error mismatch, state⟩ := by
  unfold matchAt?
  cases tried : root.attemptWith rollback subject ⟨start, .empty⟩ with
  | mk result state => cases result <;> simp

/-- A match begins where it was looked for. -/
theorem start_of_matchAt? {root : Node} {start : Nat} {found : Match}
    (matched : matchAt? rollback root subject start = some found) : found.start = start := by
  unfold matchAt? at matched
  split at matched <;> cases matched
  rfl

/-- The first of some numbers at which there is something. -/
theorem findSome?_range_eq_some {Found : Type} {look : Nat → Option Found} {count : Nat}
    {found : Found} :
    (List.range count).findSome? look = some found ↔
      ∃ first, first < count ∧ look first = some found ∧
        ∀ earlier, earlier < first → look earlier = none := by
  induction count generalizing found with
  | zero => simp
  | succ count ih =>
    rw [List.range_succ, List.findSome?_append]
    cases before : (List.range count).findSome? look with
    | some other =>
      obtain ⟨first, inside, here, none⟩ := ih.1 before
      constructor
      · rintro ⟨⟩
        exact ⟨first, by omega, here, none⟩
      · rintro ⟨second, -, there, nothing⟩
        have same : first = second := by
          rcases Nat.lt_trichotomy first second with less | equal | more
          · rw [nothing first less] at here
            cases here
          · exact equal
          · rw [none second more] at there
            cases there
        rw [← there, ← same, here, Option.some_or]
    | none =>
      have nothing : ∀ earlier, earlier < count → look earlier = none := by
        simpa using before
      rw [Option.none_or]
      constructor
      · intro last
        refine ⟨count, Nat.lt_succ_self count, by simpa using last, nothing⟩
      · rintro ⟨first, inside, here, -⟩
        have : first = count := by
          by_contra other
          rw [nothing first (by omega)] at here
          cases here
        simpa [this] using here

/-- Two ways to look for something find related things, if each place has related things to offer. -/
theorem rel_findSome? {Found : Type} {Related : Found → Found → Prop} {places : List Nat}
    {first second : Nat → Option Found}
    (each : ∀ place ∈ places, Option.Rel Related (first place) (second place)) :
    Option.Rel Related (places.findSome? first) (places.findSome? second) := by
  induction places with
  | nil => exact .none
  | cons place rest ih =>
    have here := each place List.mem_cons_self
    rw [List.findSome?_cons, List.findSome?_cons]
    generalize first place = left at here
    generalize second place = right at here
    cases here with
    | some related => exact .some related
    | none => exact ih fun other member => each other (List.mem_cons_of_mem _ member)

/-- A search finds the match at the first offset that has one. -/
theorem findWith_eq_some {pattern : Pattern} {subject : Text} {found : Match} :
    pattern.findWith rollback subject = some found ↔
      found.start ≤ subject.length ∧
        matchAt? rollback pattern.root subject.toArray found.start = some found ∧
        ∀ earlier, earlier < found.start →
          matchAt? rollback pattern.root subject.toArray earlier = none := by
  rw [findWith, List.size_toArray, findSome?_range_eq_some]
  constructor
  · rintro ⟨start, inside, matched, nothing⟩
    rw [start_of_matchAt? matched]
    exact ⟨Nat.lt_succ_iff.1 inside, matched, nothing⟩
  · rintro ⟨inside, matched, nothing⟩
    exact ⟨found.start, Nat.lt_succ_iff.2 inside, matched, nothing⟩

/-- A search finds nothing when no offset has a match. -/
theorem findWith_eq_none {pattern : Pattern} {subject : Text} :
    pattern.findWith rollback subject = none ↔
      ∀ start, start ≤ subject.length →
        matchAt? rollback pattern.root subject.toArray start = none := by
  rw [findWith, List.size_toArray, List.findSome?_eq_none_iff]
  exact ⟨fun each start inside => each start (List.mem_range.2 (Nat.lt_succ_iff.2 inside)),
    fun each start member => each start (Nat.lt_succ_iff.1 (List.mem_range.1 member))⟩

end PatternSearch.Pattern
