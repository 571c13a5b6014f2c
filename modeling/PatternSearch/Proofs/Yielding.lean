import Mathlib.Order.Bounds.Basic
import Mathlib.Order.Interval.Set.Defs
import PatternSearch.Proofs.Flat
import PatternSearch.Proofs.Restoring

/-!
# Giving back to the next element

A repetition of a node that matches one rune first takes the whole run of runes that the node accepts, up
to its maximum (`Node.mostRounds`). The element behind it is tried where that ends, and then behind one
round less each time, down to the minimum.

When the element leaves no trace where it fails, these tries differ in nothing but the offset
(`Attempt.atFirst_rounds`). So the rounds that are kept are the most that leave room for the element, and
only where no number of rounds leaves room does the pair fail. Main statement:
`attempt_repetitionThen_isGreatest`, for every element without groups.
-/
namespace PatternSearch

namespace Attempt

variable {step : State → Attempt} {start : State} {least most : Nat}

/-- The numbers of rounds of one rune, out of some numbers, behind which a step succeeds. -/
def leavingRoom (step : State → Attempt) (start : State) (rounds : Set Nat) : Set Nat :=
  {kept ∈ rounds | ∃ outcome final,
    step (start.at (start.offset + kept)) = ⟨.ok outcome, final⟩}

/-- A step that fails behind so many rounds or fewer is in the state where it began. -/
def Traceless (step : State → Attempt) (start : State) (most : Nat) : Prop :=
  ∀ kept ≤ most, ∀ mismatch failed,
    step (start.at (start.offset + kept)) = ⟨.error mismatch, failed⟩ →
      failed = start.at (start.offset + kept)

/-- Where a step fails behind the greatest number of rounds, it has room behind the smaller ones only. -/
theorem leavingRoom_of_error {mismatch : Mismatch} {failed : State}
    (tried : step (start.at (start.offset + most)) = ⟨.error mismatch, failed⟩) :
    leavingRoom step start (Set.Icc least most) = leavingRoom step start (Set.Ico least most) := by
  ext kept
  constructor
  · intro ⟨⟨low, high⟩, outcome, final, there⟩
    have notMost : kept ≠ most := by
      intro same
      rw [same, tried] at there
      cases there
    exact ⟨⟨low, by omega⟩, outcome, final, there⟩
  · intro ⟨⟨low, high⟩, there⟩
    exact ⟨⟨low, Nat.le_of_lt high⟩, there⟩

/-- Where a step succeeds behind the greatest number of rounds, that is the greatest one with room. -/
theorem isGreatest_of_ok {outcome : Outcome} {final : State} (enough : least ≤ most)
    (tried : step (start.at (start.offset + most)) = ⟨.ok outcome, final⟩) :
    IsGreatest (leavingRoom step start (Set.Icc least most)) most :=
  ⟨⟨⟨enough, Nat.le_refl most⟩, outcome, final, tried⟩, fun _ ⟨⟨_, high⟩, _⟩ => high⟩

/-- Tries at offsets begin with the captured texts of a state, and not at its offset. -/
theorem atFirst_at (ended offset : Nat) (offsets : List Nat) (state : State) :
    atFirst step ended offsets (state.at offset) = atFirst step ended offsets state := by
  cases offsets <;> rfl

/-- A step tried behind one round less each time succeeds behind the most rounds that leave room for it, or
fails behind all of them. -/
theorem atFirst_rounds (ended count : Nat) (traceless : Traceless step start (least + count)) :
    (∃ kept outcome final, IsGreatest (leavingRoom step start (Set.Ico least (least + count))) kept ∧
      step (start.at (start.offset + kept)) = ⟨.ok outcome, final⟩ ∧
      atFirst step ended ((List.range' least count).reverse.map (start.offset + ·)) start =
        ⟨.ok outcome, final⟩) ∨
    (leavingRoom step start (Set.Ico least (least + count)) = ∅ ∧
      atFirst step ended ((List.range' least count).reverse.map (start.offset + ·)) start =
        ⟨.error .givebackExhausted, start.at ended⟩) := by
  induction count with
  | zero =>
    refine .inr ⟨Set.eq_empty_of_forall_notMem fun kept ⟨⟨low, high⟩, _⟩ => ?_, rfl⟩
    omega
  | succ count ih =>
    have rounds : Set.Ico least (least + (count + 1)) = Set.Icc least (least + count) := by
      ext kept
      exact and_congr_right fun _ => Nat.lt_succ_iff
    rw [List.range'_1_concat, List.reverse_concat, List.map_cons, atFirst, rounds]
    cases tried : step (start.at (start.offset + (least + count))) with
    | mk result reached =>
      cases result with
      | ok outcome =>
        exact .inl ⟨_, outcome, reached, isGreatest_of_ok (Nat.le_add_right _ _) tried, tried, rfl⟩
      | error mismatch =>
        have same : reached = start.at (start.offset + (least + count)) :=
          traceless _ (Nat.le_succ _) mismatch reached tried
        simp only [same, atFirst_at]
        rw [leavingRoom_of_error tried]
        exact ih fun kept few => traceless kept (by omega)

/-- Rounds of one rune are given back one rune at a time. -/
theorem Preceding.shorterEnds_of_runes (start : Nat) (enough : least ≤ most) :
    Preceding.shorterEnds ⟨start, most, List.replicate most 1, most - least⟩ =
      (List.range' least (most - least)).reverse.map (start + ·) := by
  rw [shorterEnds_eq_map]
  simp only [leastRounds, List.length_replicate, Nat.sub_sub_self enough]
  refine List.map_congr_left fun kept member => ?_
  have inRange := List.mem_range'_1.1 (List.mem_reverse.1 member)
  rw [List.take_replicate, Flat.totalLength_replicate, Nat.min_eq_left (by omega)]

/-- Behind rounds of one rune, a step that leaves no trace where it fails succeeds behind the most rounds
that leave room for it. Where none do, the mismatch is its own if no round could be given back. -/
theorem orAfterGiveback_rounds (traceless : Traceless step start most) (enough : least ≤ most) :
    (∃ kept outcome final, IsGreatest (leavingRoom step start (Set.Icc least most)) kept ∧
      step (start.at (start.offset + kept)) = ⟨.ok outcome, final⟩ ∧
      orAfterGiveback step (some ⟨start.offset, most, List.replicate most 1, most - least⟩)
        (start.at (start.offset + most)) = ⟨.ok outcome, final⟩) ∨
    (leavingRoom step start (Set.Icc least most) = ∅ ∧ ∃ mismatch,
      step (start.at (start.offset + most)) = ⟨.error mismatch, start.at (start.offset + most)⟩ ∧
      orAfterGiveback step (some ⟨start.offset, most, List.replicate most 1, most - least⟩)
          (start.at (start.offset + most)) =
        ⟨.error (if least < most then .givebackExhausted else mismatch),
          start.at (start.offset + most)⟩) := by
  unfold orAfterGiveback
  cases tried : step (start.at (start.offset + most)) with
  | mk result reached =>
    cases result with
    | ok outcome => exact .inl ⟨most, outcome, reached, isGreatest_of_ok enough tried, tried, rfl⟩
    | error mismatch =>
      have same : reached = start.at (start.offset + most) :=
        traceless most (Nat.le_refl most) mismatch reached tried
      subst same
      rw [leavingRoom_of_error tried]
      by_cases gives : least < most
      · have fewer := atFirst_rounds (start.offset + most) (most - least)
          (show Traceless step start (least + (most - least)) by rwa [Nat.add_sub_cancel' enough])
        rw [Nat.add_sub_cancel' enough] at fewer
        simp only [Nat.sub_pos_of_lt gives, gives, if_true, afterGiveback, State.at_offset, atFirst_at,
          Preceding.shorterEnds_of_runes start.offset enough]
        rcases fewer with found | ⟨none, exhausted⟩
        · exact .inl found
        · exact .inr ⟨none, mismatch, rfl, exhausted⟩
      · have none : leavingRoom step start (Set.Ico least most) = ∅ :=
          Set.eq_empty_of_forall_notMem fun kept ⟨⟨low, high⟩, _⟩ => by omega
        simp only [Nat.sub_pos_iff_lt, gives, if_false]
        exact .inr ⟨none, mismatch, rfl, rfl⟩

end Attempt

namespace Node

open Attempt

variable {rollback : Rollback} {subject : Array Char} {node next : Node} {least : Nat}
  {max : Option Nat} {start : State}

/-! ## Runs of runes -/

/-- The number of runes one after another, from an offset on, that a node accepts. -/
def runLength (subject : Array Char) (node : Node) (offset : Nat) : Nat :=
  ((subject.toList.drop offset).takeWhile node.accepts).length

/-- The number of rounds that a repetition of a node that matches one rune takes from an offset on: one
for each rune of the run there, but no more than the maximum. -/
def mostRounds (subject : Array Char) (node : Node) (max : Option Nat) (offset : Nat) : Nat :=
  match max with
  | none => node.runLength subject offset
  | some max => min (node.runLength subject offset) max

/-- A run ends inside the subject. -/
theorem runLength_le (subject : Array Char) (node : Node) (offset : Nat) :
    node.runLength subject offset ≤ subject.size - offset := by
  have short := (List.takeWhile_prefix (l := subject.toList.drop offset) node.accepts).length_le
  rwa [List.length_drop, Array.length_toList] at short

/-- A run is one rune longer than the run behind its first rune, and ends at a rune that is not accepted
or at the end of the subject. -/
theorem succ_le_runLength_iff {offset count : Nat} :
    count + 1 ≤ node.runLength subject offset ↔
      (∃ rune, subject[offset]? = some rune ∧ node.accepts rune = true) ∧
        count ≤ node.runLength subject (offset + 1) := by
  unfold runLength
  by_cases inside : offset < subject.size
  · have present : subject[offset]? = some subject[offset] := Array.getElem?_eq_getElem inside
    rw [List.drop_eq_getElem_cons (by simpa using inside), Array.getElem_toList, List.takeWhile_cons]
    by_cases accepted : node.accepts subject[offset] = true
    · simp [present, accepted]
    · simp [present, accepted]
  · have past : subject.toList.drop offset = [] := by simpa using inside
    simp [past, inside]

/-- A run has so many runes when the node accepts each of the first ones. -/
theorem le_runLength_iff {offset count : Nat} :
    count ≤ node.runLength subject offset ↔
      ∀ place, offset ≤ place → place < offset + count →
        ∃ rune, subject[place]? = some rune ∧ node.accepts rune = true := by
  induction count generalizing offset with
  | zero => exact ⟨fun _ place low high => by omega, fun _ => Nat.zero_le _⟩
  | succ count ih =>
    rw [succ_le_runLength_iff, ih]
    constructor
    · intro ⟨first, later⟩ place low high
      by_cases here : place = offset
      · rw [here]
        exact first
      · exact later place (by omega) (by omega)
    · intro each
      exact ⟨each offset (Nat.le_refl _) (by omega), fun place low high =>
        each place (by omega) (by omega)⟩

/-- So do the rounds that a repetition takes. -/
theorem mostRounds_le (subject : Array Char) (node : Node) (max : Option Nat) (offset : Nat) :
    node.mostRounds subject max offset ≤ subject.size - offset := by
  have short := runLength_le subject node offset
  cases max with
  | none => exact short
  | some max => exact Nat.le_trans (Nat.min_le_left _ _) short

/-! ## Repetitions of a node that matches one rune -/

/-- A repetition takes the run of runes that its node accepts, as far as its rounds go. -/
theorem repeated_eq_replicate (single : node.isQuantifiable = true) (rounds : Nat) :
    repeated (node.attemptWith rollback subject) rounds start =
      (List.replicate (min rounds (node.runLength subject start.offset)) 1,
        start.at (start.offset + min rounds (node.runLength subject start.offset))) := by
  have ⟨count, repeats, few, takes, ended⟩ :=
    Flat.Item.repeated_matcher ⟨node, single, none⟩ subject rollback rounds start
  have inRun : count ≤ node.runLength subject start.offset := le_runLength_iff.2 takes
  have same : min rounds (node.runLength subject start.offset) = count := by
    by_cases less : count < rounds
    · have short : ¬ count + 1 ≤ node.runLength subject start.offset :=
        fun longer => ended less (le_runLength_iff.1 longer)
      omega
    · omega
  rw [same]
  exact repeats

/-- The rounds that are allowed for never end a run. -/
theorem min_rounds_runLength (max : Option Nat) (offset : Nat) :
    min (rounds (subject.size - offset) max) (node.runLength subject offset) =
      node.mostRounds subject max offset := by
  have short := runLength_le subject node offset
  cases max with
  | none =>
    show min (subject.size - offset + 1) _ = node.runLength subject offset
    omega
  | some max =>
    show min (min max (subject.size - offset + 1)) _ = min (node.runLength subject offset) max
    omega

/-- A repetition takes as many rounds as it can, or it fails because these are too few. -/
theorem attemptWith_repetition (single : node.isQuantifiable = true) :
    (repetition node least max).attemptWith rollback subject start =
      if node.mostRounds subject max start.offset < least then ⟨.error .tooFewRepetitions, start⟩
      else
        ⟨.ok ⟨node.mostRounds subject max start.offset,
            List.replicate (node.mostRounds subject max start.offset) 1,
            node.mostRounds subject max start.offset - least⟩,
          start.at (start.offset + node.mostRounds subject max start.offset)⟩ := by
  rw [attemptWith, Attempt.repetition, repeated_eq_replicate single, min_rounds_runLength]
  simp only [List.length_replicate, Flat.totalLength_replicate]
  by_cases few : node.mostRounds subject max start.offset < least
  · rw [if_pos few, if_pos few]
    cases rollback <;> rfl
  · rw [if_neg few, if_neg few]
    rfl

/-! ## A repetition and the element behind it -/

/-- A repetition, perhaps behind a start anchor, and the element behind it. -/
def repetitionThen (anchored : Bool) (node : Node) (least : Nat) (max : Option Nat) (next : Node) :
    Node :=
  .sequence [Draft.anchor anchored (.repetition node least max), next]

/-- What a failed attempt puts back is not put back once more. -/
theorem restoring_attemptWith :
    restoring rollback start (node.attemptWith rollback subject start) =
      node.attemptWith rollback subject start := by
  cases tried : node.attemptWith rollback subject start with
  | mk result reached =>
    cases result with
    | ok outcome => rfl
    | error mismatch =>
      cases rollback with
      | offset => rw [restoring, Rollback.restore, ← offset_of_attemptWith_error tried, State.at_self]
      | everything => rw [state_of_failed_everything tried, restoring, restore_self]

/-- A start anchor only forbids that the node begins past the start of the subject. -/
theorem attemptWith_anchor {anchored : Bool} (allowed : anchored = true → start.offset = 0) :
    (Draft.anchor anchored node).attemptWith rollback subject start =
      node.attemptWith rollback subject start := by
  cases anchored with
  | false => rfl
  | true =>
    show (startAnchor node).attemptWith rollback subject start = _
    rw [attemptWith, if_pos (allowed rfl), restoring_attemptWith]

/-- A pair does not begin past the start of the subject behind a start anchor. -/
theorem allowed_of_repetitionThen {anchored : Bool} {outcome : Outcome} {final : State}
    (found : (repetitionThen anchored node least max next).attemptWith rollback subject start =
      ⟨.ok outcome, final⟩) : anchored = true → start.offset = 0 := by
  intro isAnchored
  subst isAnchored
  obtain ⟨inner, reached, matched, -⟩ := attemptSequence_cons_eq_ok.1 (sequence_eq_ok.1 found)
  exact (startAnchor_eq_ok.1 (orAfterGiveback_none_eq_ok.1 matched)).1

/-- An element without groups leaves no trace where it fails inside the subject. -/
theorem traceless_of_indices_eq_nil {most : Nat} (noGroups : next.indices = [])
    (inside : start.offset + most ≤ subject.size) :
    Traceless (next.attemptWith rollback subject) start most :=
  fun kept few _ _ failed => state_of_failed_without_groups noGroups
    (by rw [State.at_offset]; omega) failed

/-- A repetition that has too few rounds ends the pair. -/
theorem attemptWith_repetitionThen_of_lt {anchored : Bool} (single : node.isQuantifiable = true)
    (allowed : anchored = true → start.offset = 0)
    (few : node.mostRounds subject max start.offset < least) :
    (repetitionThen anchored node least max next).attemptWith rollback subject start =
      ⟨.error .tooFewRepetitions, start⟩ := by
  rw [repetitionThen, attemptWith, attemptSequence, orAfterGiveback, attemptWith_anchor allowed,
    attemptWith_repetition single, if_pos few]
  cases rollback <;> rfl

/-- Behind a repetition that has enough rounds, the next element decides, which may make the repetition
give rounds back. -/
theorem attemptWith_repetitionThen_of_le {anchored : Bool} (single : node.isQuantifiable = true)
    (allowed : anchored = true → start.offset = 0) {most : Nat}
    (all : node.mostRounds subject max start.offset = most) (enough : least ≤ most) :
    (repetitionThen anchored node least max next).attemptWith rollback subject start =
      restoring rollback start
        (match orAfterGiveback (next.attemptWith rollback subject)
            (some ⟨start.offset, most, List.replicate most 1, most - least⟩)
            (start.at (start.offset + most)) with
        | ⟨.ok _, final⟩ => .success (.consuming (final.offset - start.offset)) final
        | failed => failed) := by
  rw [repetitionThen, attemptWith, attemptSequence, orAfterGiveback, attemptWith_anchor allowed,
    attemptWith_repetition single, all, if_neg (Nat.not_lt.2 enough)]
  have began : start.offset + most - most = start.offset := Nat.add_sub_cancel _ _
  exact congrArg (fun began => restoring rollback start (attemptSequence rollback subject start.offset
    (some ⟨began, most, List.replicate most 1, most - least⟩) [next]
    (start.at (start.offset + most)))) began

/-- Where there are rounds enough, the pair keeps the most of them that leave room for the element behind
it, or it fails in the state where it began. -/
theorem attemptWith_repetitionThen {anchored : Bool} (single : node.isQuantifiable = true)
    (noGroups : next.indices = []) (allowed : anchored = true → start.offset = 0)
    (inside : start.offset ≤ subject.size) {most : Nat}
    (all : node.mostRounds subject max start.offset = most) (enough : least ≤ most) :
    (∃ kept inner final,
      IsGreatest (leavingRoom (next.attemptWith rollback subject) start (Set.Icc least most)) kept ∧
      next.attemptWith rollback subject (start.at (start.offset + kept)) = ⟨.ok inner, final⟩ ∧
      (repetitionThen anchored node least max next).attemptWith rollback subject start =
        ⟨.ok (.consuming (kept + inner.consumed)), final⟩) ∨
    (leavingRoom (next.attemptWith rollback subject) start (Set.Icc least most) = ∅ ∧ ∃ mismatch,
      next.attemptWith rollback subject (start.at (start.offset + most)) =
        ⟨.error mismatch, start.at (start.offset + most)⟩ ∧
      (repetitionThen anchored node least max next).attemptWith rollback subject start =
        ⟨.error (if least < most then .givebackExhausted else mismatch), start⟩) := by
  have within : start.offset + most ≤ subject.size := by
    have run := mostRounds_le subject node max start.offset
    omega
  rw [attemptWith_repetitionThen_of_le single allowed all enough]
  rcases orAfterGiveback_rounds (traceless_of_indices_eq_nil noGroups within) enough with
    ⟨kept, inner, final, greatest, matched, found⟩ | ⟨none, mismatch, failed, exhausted⟩
  · refine .inl ⟨kept, inner, final, greatest, matched, ?_⟩
    have fewer : kept ≤ most := greatest.1.1.2
    have stopped : final.offset = start.offset + kept + inner.consumed :=
      (accounts_of_attemptWith next (by rw [State.at_offset]; omega) matched).stop_eq
    have consumed : final.offset - start.offset = kept + inner.consumed := by omega
    rw [found, ← consumed]
    rfl
  · refine .inr ⟨none, mismatch, failed, ?_⟩
    rw [exhausted]
    cases rollback <;> rfl

/-- The numbers of rounds that leave room for the element behind a repetition, out of the numbers from its
minimum up to the rounds that it takes. -/
def roomFor (subject : Array Char) (node : Node) (least : Nat) (max : Option Nat) (next : Node)
    (start : State) : Set Nat :=
  leavingRoom (next.attempt subject) start
    (Set.Icc least (node.mostRounds subject max start.offset))

/-- Why a pair fails: there are too few rounds, or just enough, and then the element behind them has its
own mismatch, or more, and then giving them back did not help. -/
structure Refuses (subject : Array Char) (least most : Nat) (next : Node) (start : State)
    (mismatch : Mismatch) : Prop where
  /-- The rounds are too few. -/
  tooFew : most < least → mismatch = .tooFewRepetitions
  /-- They are just enough. -/
  enough : most = least →
    (next.attempt subject (start.at (start.offset + most))).result = .error mismatch
  /-- They are more than enough. -/
  exhausted : least < most → mismatch = .givebackExhausted

/-- Where a pair may begin, it keeps the most rounds that leave room for the element behind them, or it
fails in the state where it began. -/
theorem attempt_repetitionThen_cases {anchored : Bool} (single : node.isQuantifiable = true)
    (noGroups : next.indices = []) (allowed : anchored = true → start.offset = 0)
    (inside : start.offset ≤ subject.size) :
    (∃ kept inner final, IsGreatest (roomFor subject node least max next start) kept ∧
      next.attempt subject (start.at (start.offset + kept)) = ⟨.ok inner, final⟩ ∧
      (repetitionThen anchored node least max next).attempt subject start =
        ⟨.ok (.consuming (kept + inner.consumed)), final⟩) ∨
    (roomFor subject node least max next start = ∅ ∧ ∃ mismatch,
      Refuses subject least (node.mostRounds subject max start.offset) next start mismatch ∧
      (repetitionThen anchored node least max next).attempt subject start =
        ⟨.error mismatch, start⟩) := by
  by_cases few : node.mostRounds subject max start.offset < least
  · refine .inr ⟨?_, .tooFewRepetitions, ⟨fun _ => rfl, fun same => ?_, fun more => ?_⟩,
      attemptWith_repetitionThen_of_lt single allowed few⟩
    · exact Set.eq_empty_of_forall_notMem fun kept ⟨⟨low, high⟩, _⟩ => by omega
    · omega
    · omega
  · rcases attemptWith_repetitionThen single noGroups allowed inside rfl (Nat.not_lt.1 few) with
      found | ⟨none, mismatch, failed, exhausted⟩
    · exact .inl found
    · refine .inr ⟨none, _, ⟨fun less => absurd less few, fun same => ?_, fun more => if_pos more⟩,
        exhausted⟩
      rw [if_neg (by omega)]
      exact congrArg Attempt.result failed

/-- Behind a repetition of a node that matches one rune, perhaps with a start anchor in front, an element
without groups is matched exactly when some number of rounds leaves room for it. Then the greatest such
number is kept. Otherwise the rounds are too few, or they are just enough and the mismatch is that of the
element, or all that could be given back did not help. -/
theorem attempt_repetitionThen_isGreatest (subject : Array Char) (anchored : Bool) (node : Node)
    (least : Nat) (max : Option Nat) (next : Node) (start : State)
    (single : node.isQuantifiable = true) (noGroups : next.indices = [])
    (inside : start.offset ≤ subject.size) :
    ((∃ outcome final, (repetitionThen anchored node least max next).attempt subject start =
        ⟨.ok outcome, final⟩) ↔
      (anchored = true → start.offset = 0) ∧
        (roomFor subject node least max next start).Nonempty) ∧
    (∀ outcome final, (repetitionThen anchored node least max next).attempt subject start =
        ⟨.ok outcome, final⟩ →
      ∃ kept inner, IsGreatest (roomFor subject node least max next start) kept ∧
        next.attempt subject (start.at (start.offset + kept)) = ⟨.ok inner, final⟩ ∧
        outcome = .consuming (kept + inner.consumed) ∧
        final.offset = start.offset + (kept + inner.consumed)) ∧
    ((anchored = true → start.offset = 0) → roomFor subject node least max next start = ∅ →
      ∃ mismatch,
        Refuses subject least (node.mostRounds subject max start.offset) next start mismatch ∧
        (repetitionThen anchored node least max next).attempt subject start =
          ⟨.error mismatch, start⟩) := by
  refine ⟨⟨?possible, ?roomy⟩, ?greatest, ?refused⟩
  case possible =>
    intro ⟨outcome, final, found⟩
    have allowed := allowed_of_repetitionThen found
    rcases attempt_repetitionThen_cases single noGroups allowed inside with
      ⟨kept, inner, reached, greatest, _⟩ | ⟨_, mismatch, _, failed⟩
    · exact ⟨allowed, kept, greatest.1⟩
    · rw [failed] at found
      cases found
  case roomy =>
    intro ⟨allowed, nonempty⟩
    rcases attempt_repetitionThen_cases single noGroups allowed inside with
      ⟨kept, inner, reached, _, _, found⟩ | ⟨none, _⟩
    · exact ⟨_, reached, found⟩
    · exact absurd none nonempty.ne_empty
  case greatest =>
    intro outcome final found
    have stepped : (repetitionThen anchored node least max next).attemptWith .offset subject start =
        ⟨.ok outcome, final⟩ := found
    have stopped := (accounts_of_attemptWith _ inside stepped).stop_eq
    have allowed := allowed_of_repetitionThen found
    rcases attempt_repetitionThen_cases single noGroups allowed inside with
      ⟨kept, inner, reached, greatest, matched, same⟩ | ⟨_, mismatch, _, failed⟩
    · rw [same] at found
      cases found
      exact ⟨kept, inner, greatest, matched, rfl, stopped⟩
    · rw [failed] at found
      cases found
  case refused =>
    intro allowed none
    rcases attempt_repetitionThen_cases single noGroups allowed inside with
      ⟨kept, inner, reached, greatest, _⟩ | ⟨_, mismatch, refuses, failed⟩
    · rw [none] at greatest
      exact absurd greatest.1 (Set.notMem_empty kept)
    · exact ⟨mismatch, refuses, failed⟩

/-- Where group 1 has captured `a`, the repetition of at most three runes `a` takes all of them at the start
of `aaab` and gives one back to `\1b`. In `aab` it has to keep two, and the backreference finds no `a`. -/
theorem attempt_repetitionThen_of_reference :
    ∃ next : Node, next.indices = [] ∧
      (∃ kept inner final, IsGreatest
          (roomFor #['a', 'a', 'a', 'b'] (.literal 'a') 1 (some 3) next
            ⟨0, Captures.empty.record 1 ['a']⟩) kept ∧
        next.attempt #['a', 'a', 'a', 'b'] ⟨0 + kept, Captures.empty.record 1 ['a']⟩ =
          ⟨.ok inner, final⟩ ∧ Outcome.consuming 4 = .consuming (kept + inner.consumed)) ∧
      ∃ mismatch, Refuses #['a', 'a', 'b'] 2 2 next ⟨0, Captures.empty.record 1 ['a']⟩ mismatch ∧
        (repetitionThen true (.literal 'a') 2 none next).attempt #['a', 'a', 'b']
            ⟨0, Captures.empty.record 1 ['a']⟩ =
          ⟨.error mismatch, ⟨0, Captures.empty.record 1 ['a']⟩⟩ := by
  let next : Node := .sequence [.backreference 1, .literal 'b']
  let start : State := ⟨0, Captures.empty.record 1 ['a']⟩
  have ⟨_, greatest, _⟩ := attempt_repetitionThen_isGreatest #['a', 'a', 'a', 'b'] true (.literal 'a') 1
    (some 3) next start rfl rfl (Nat.zero_le 4)
  have ⟨kept, inner, isGreatest, matched, consumed, _⟩ := greatest (.consuming 4) ⟨4, start.captures⟩ rfl
  have ⟨possible, _, refused⟩ := attempt_repetitionThen_isGreatest #['a', 'a', 'b'] true (.literal 'a') 2
    none next start rfl rfl (Nat.zero_le 3)
  have none : roomFor #['a', 'a', 'b'] (.literal 'a') 2 none next start = ∅ := by
    refine Set.not_nonempty_iff_eq_empty.1 fun roomy => ?_
    obtain ⟨outcome, final, found⟩ := possible.2 ⟨fun _ => rfl, roomy⟩
    cases found
  exact ⟨next, rfl, ⟨kept, inner, _, isGreatest, matched, consumed⟩, refused (fun _ => rfl) none⟩

end Node
end PatternSearch
