import PatternSearch.Proofs.Accounting
import PatternSearch.Proofs.Relabeling

/-!
# Corresponding attempts

A tree may be attempted twice: in a subject and in one with more runes in front of it, with its own
indices and with others, beside some captured texts and beside others. `corresponds_of_attemptWith` says
when the two attempts go the same way: they have the same result, stand the same number of runes apart
all along, and the captured texts stay related as they were.

The relation of captured texts is a parameter. It must be kept when a group records the same text on
both sides, and related tables must answer the backreferences of the tree alike (`Node.Follows`). With
runes in front the tree must not have a start anchor.
-/
namespace PatternSearch

open Attempt

variable {front subject : Array Char} {ahead : Nat} {Same : Captures → Captures → Prop}

/-- The second state stands so many runes further than the first one, beside related captured texts. -/
structure State.Corresponds (ahead : Nat) (Same : Captures → Captures → Prop) (left right : State) :
    Prop where
  /-- The second state stands further by the number of runes. -/
  offset : right.offset = ahead + left.offset
  /-- What is captured is related. -/
  captures : Same left.captures right.captures

/-- Two attempts have the same result, and leave corresponding states behind. -/
structure Attempt.Corresponds (ahead : Nat) (Same : Captures → Captures → Prop)
    (left right : Attempt) : Prop where
  /-- The results are the same. -/
  result : left.result = right.result
  /-- The states correspond. -/
  state : left.state.Corresponds ahead Same right.state

/-- Two steps, the second one with runes in front of the subject, take corresponding states to
corresponding attempts. -/
def Corresponding (front subject : Array Char) (Same : Captures → Captures → Prop)
    (left right : State → Attempt) : Prop :=
  ∀ start start' : State, start.offset ≤ subject.size → start.Corresponds front.size Same start' →
    (left start).Corresponds front.size Same (right start')

namespace Attempt

variable {start start' : State} {left right : Attempt} {step step' : State → Attempt}

/-- Corresponding attempts both succeed with the same outcome, or both fail with the same mismatch. -/
theorem Corresponds.cases (corresponds : left.Corresponds ahead Same right) :
    (∃ outcome next next', left = ⟨.ok outcome, next⟩ ∧ right = ⟨.ok outcome, next'⟩ ∧
        next.Corresponds ahead Same next') ∨
      ∃ mismatch failed failed', left = ⟨.error mismatch, failed⟩ ∧
        right = ⟨.error mismatch, failed'⟩ ∧ failed.Corresponds ahead Same failed' := by
  have ⟨same, states⟩ := corresponds
  cases left with
  | mk result next =>
    cases right with
    | mk result' next' =>
      have same : result = result' := same
      subst same
      cases result with
      | ok outcome => exact .inl ⟨outcome, next, next', rfl, rfl, states⟩
      | error mismatch => exact .inr ⟨mismatch, next, next', rfl, rfl, states⟩

/-- Successes with the same outcome correspond if their states do. -/
theorem corresponds_success (outcome : Outcome) (states : start.Corresponds ahead Same start') :
    (success outcome start).Corresponds ahead Same (success outcome start') :=
  ⟨rfl, states⟩

/-- Failures with the same mismatch correspond if their states do. -/
theorem corresponds_failure (mismatch : Mismatch) (states : start.Corresponds ahead Same start') :
    (failure mismatch start).Corresponds ahead Same (failure mismatch start') :=
  ⟨rfl, states⟩

/-- States that are put back correspond as those before and after the attempt do. -/
theorem corresponds_restoring (rollback : Rollback) (before : start.Corresponds ahead Same start')
    (after : left.Corresponds ahead Same right) :
    (restoring rollback start left).Corresponds ahead Same (restoring rollback start' right) := by
  rcases after.cases with ⟨outcome, next, next', isLeft, isRight, states⟩ |
    ⟨mismatch, failed, failed', isLeft, isRight, states⟩
  · rw [isLeft, isRight]
    exact ⟨rfl, states⟩
  · rw [isLeft, isRight]
    cases rollback with
    | offset => exact ⟨rfl, before.offset, states.captures⟩
    | everything => exact ⟨rfl, before⟩

/-! ## Runes and texts -/

/-- The rune behind runes in front of a subject is the rune of the subject. -/
theorem getElem?_behind (front subject : Array Char) (offset : Nat) :
    (front ++ subject)[front.size + offset]? = subject[offset]? := by
  rw [Array.getElem?_append_right (Nat.le_add_right _ _), Nat.add_sub_cancel_left]

/-- So are the runes between two offsets. -/
theorem extract_behind (front subject : Array Char) (first last : Nat) :
    (front ++ subject).extract (front.size + first) (front.size + last) =
      subject.extract first last := by
  rw [Array.extract_append, Nat.add_sub_cancel_left, Nat.add_sub_cancel_left,
    Array.extract_empty_of_size_le_start (Nat.le_add_right _ _), Array.empty_append]

/-- The runes that are left behind an offset are as many as in the subject. -/
theorem left_behind (front subject : Array Char) (offset : Nat) :
    (front ++ subject).size - (front.size + offset) = subject.size - offset := by
  rw [Array.size_append]
  omega

/-- A rune is looked for at corresponding offsets. -/
theorem corresponding_rune (wanted : Char → Bool) :
    Corresponding front subject Same (rune subject wanted) (rune (front ++ subject) wanted) := by
  intro start start' _ states
  unfold rune
  rw [states.offset, getElem?_behind]
  cases subject[start.offset]? with
  | none => exact corresponds_failure _ states
  | some found =>
    by_cases accepted : wanted found = true
    · simp only [if_pos accepted]
      exact corresponds_success _ ⟨rfl, states.captures⟩
    · simp only [if_neg accepted]
      exact corresponds_failure _ states

/-- A text is found behind runes in front of a subject as it is in the subject. -/
theorem compare_behind (wanted : Text) (offset : Nat) :
    text.compare (front ++ subject) wanted (front.size + offset) =
      (text.compare subject wanted offset).map (front.size + ·) := by
  induction wanted generalizing offset with
  | nil => rfl
  | cons rune rest ih =>
    rw [text.compare, text.compare, getElem?_behind]
    cases subject[offset]? with
    | none => rfl
    | some found =>
      by_cases same : found = rune
      · simp only [if_pos same]
        exact ih (offset + 1)
      · simp only [if_neg same]
        rfl

/-- So is a text. -/
theorem corresponding_text (wanted : Text) :
    Corresponding front subject Same (text subject wanted) (text (front ++ subject) wanted) := by
  intro start start' _ states
  unfold text
  rw [states.offset, compare_behind]
  cases text.compare subject wanted start.offset with
  | ok stop => exact corresponds_success _ ⟨rfl, states.captures⟩
  | error mismatch => exact corresponds_failure mismatch states

/-! ## Rounds -/

/-- Corresponding steps make rounds of the same lengths. -/
theorem corresponds_of_repeated (accounting : Node.Accounting subject step)
    (corresponding : Corresponding front subject Same step step') (rounds : Nat)
    (inside : start.offset ≤ subject.size) (states : start.Corresponds front.size Same start') :
    (repeated step rounds start).1 = (repeated step' rounds start').1 ∧
      (repeated step rounds start).2.Corresponds front.size Same (repeated step' rounds start').2 := by
  induction rounds generalizing start start' with
  | zero => exact ⟨rfl, states⟩
  | succ rounds ih =>
    rcases (corresponding start start' inside states).cases with
      ⟨outcome, next, next', isLeft, isRight, after⟩ | ⟨mismatch, failed, failed', isLeft, isRight, after⟩
    · by_cases empty : outcome.consumed = 0
      · simp only [repeated, isLeft, isRight, if_pos empty]
        exact ⟨trivial, after⟩
      · obtain ⟨lengths, ended⟩ := ih (accounting inside isLeft).stop_le after
        simp only [repeated, isLeft, isRight, if_neg empty]
        exact ⟨congrArg _ lengths, ended⟩
    · simp only [repeated, isLeft, isRight]
      exact ⟨trivial, after⟩

/-- Repetitions correspond if the steps that they repeat do. -/
theorem corresponding_repetition (accounting : Node.Accounting subject step)
    (corresponding : Corresponding front subject Same step step') (min : Nat) (max : Option Nat) :
    Corresponding front subject Same (repetition subject step min max)
      (repetition (front ++ subject) step' min max) := by
  intro start start' inside states
  have ⟨lengths, ended⟩ := corresponds_of_repeated accounting corresponding
    (rounds (subject.size - start.offset) max) inside states
  unfold repetition
  rw [states.offset, left_behind]
  simp only [← lengths]
  by_cases few : (repeated step (rounds (subject.size - start.offset) max) start).1.length < min
  · simp only [if_pos few]
    exact corresponds_failure _ ended
  · simp only [if_neg few]
    exact corresponds_success _ ended

/-! ## Giving rounds back -/

/-- A success in a sequence, as it is remembered so many runes further. -/
def Preceding.moved (ahead : Nat) (preceding : Preceding) : Preceding :=
  { preceding with start := ahead + preceding.start }

/-- Rounds begin the same number of runes further. -/
theorem roundStarts_moved (ahead start : Nat) (lengths : List Nat) :
    roundStarts (ahead + start) lengths = (roundStarts start lengths).map (ahead + ·) := by
  induction lengths generalizing start with
  | nil => rfl
  | cons length later ih => rw [roundStarts, roundStarts, Nat.add_assoc, ih, List.map_cons]

/-- A success that is moved further may give back to ends that are moved as far. -/
theorem Preceding.shorterEnds_moved (ahead : Nat) (preceding : Preceding) :
    (preceding.moved ahead).shorterEnds = preceding.shorterEnds.map (ahead + ·) := by
  unfold shorterEnds
  rw [List.map_reverse, List.map_drop]
  exact congrArg (fun starts => (starts.drop preceding.leastRounds).reverse)
    (roundStarts_moved ahead preceding.start preceding.outcome.repetitions)

/-- Corresponding steps first succeed at the same one of some offsets. -/
theorem corresponds_of_atFirst (corresponding : Corresponding front subject Same step step')
    (ended : Nat) {offsets : List Nat} (inside : ∀ offset ∈ offsets, offset ≤ subject.size)
    (captures : Same start.captures start'.captures) :
    (atFirst step ended offsets start).Corresponds front.size Same
      (atFirst step' (front.size + ended) (offsets.map (front.size + ·)) start') := by
  induction offsets generalizing start start' with
  | nil => exact corresponds_failure _ ⟨rfl, captures⟩
  | cons offset rest ih =>
    rcases (corresponding (start.at offset) (start'.at (front.size + offset))
        (inside offset List.mem_cons_self) ⟨rfl, captures⟩).cases with
      ⟨outcome, next, next', isLeft, isRight, after⟩ | ⟨mismatch, failed, failed', isLeft, isRight, after⟩
    · simp only [List.map_cons, atFirst, isLeft, isRight]
      exact corresponds_success outcome after
    · simp only [List.map_cons, atFirst, isLeft, isRight]
      exact ih (fun other member => inside other (List.mem_cons_of_mem _ member)) after.captures

/-- Corresponding steps also go the same way after rounds are given back. -/
theorem corresponds_of_orAfterGiveback (corresponding : Corresponding front subject Same step step')
    {preceding : Option Preceding} (inside : start.offset ≤ subject.size)
    (shorter : ∀ latest ∈ preceding, ∀ stop ∈ latest.shorterEnds, stop ≤ subject.size)
    (states : start.Corresponds front.size Same start') :
    (orAfterGiveback step preceding start).Corresponds front.size Same
      (orAfterGiveback step' (preceding.map (Preceding.moved front.size)) start') := by
  rcases (corresponding start start' inside states).cases with
    ⟨outcome, next, next', isLeft, isRight, after⟩ | ⟨mismatch, failed, failed', isLeft, isRight, after⟩
  · simp only [orAfterGiveback, isLeft, isRight]
    exact corresponds_success outcome after
  · cases preceding with
    | none =>
      simp only [orAfterGiveback, isLeft, isRight, Option.map_none]
      exact corresponds_failure mismatch after
    | some latest =>
      simp only [orAfterGiveback, isLeft, isRight, Option.map_some]
      by_cases gives : 0 < latest.outcome.giveback
      · rw [if_pos gives, if_pos (show 0 < (latest.moved front.size).outcome.giveback from gives),
          afterGiveback, afterGiveback, after.offset, Preceding.shorterEnds_moved]
        exact corresponds_of_atFirst corresponding failed.offset (shorter latest rfl) after.captures
      · rw [if_neg gives, if_neg (show ¬ 0 < (latest.moved front.size).outcome.giveback from gives)]
        exact corresponds_failure mismatch after

end Attempt

namespace Node

/-! ## Trees -/

/-- A tree goes the same way when its groups have other indices, runes stand in front of the subject,
and captured texts are related. -/
structure Follows (front : Array Char) (index : Nat → Nat) (Same : Captures → Captures → Prop)
    (node : Node) : Prop where
  /-- Captured texts stay related when a group of the tree records a text on both sides. -/
  records : ∀ own branches, .group own branches ∈ node.parts → ∀ left right text, Same left right →
    Same (left.record own text) (right.record (index own) text)
  /-- Related captured texts are the same for the backreferences of the tree. -/
  answers : ∀ own, .backreference own ∈ node.parts → ∀ left right, Same left right →
    left.get? own = right.get? own
  /-- With runes in front, the tree has no start anchor. -/
  unanchored : ∀ inner, .startAnchor inner ∈ node.parts → front.size = 0

variable {index : Nat → Nat} {rollback : Rollback}

/-- What is inside a tree goes the same way as the tree. -/
theorem Follows.of_parts {outer inner : Node} (follows : Follows front index Same outer)
    (inside : inner.parts ⊆ outer.parts) : Follows front index Same inner :=
  ⟨fun own branches member => follows.records own branches (inside member),
    fun own member => follows.answers own (inside member),
    fun node member => follows.unanchored node (inside member)⟩

/-- Attempts of a node that matches one rune correspond. -/
theorem corresponding_of_rune (node : Node) (single : node.isQuantifiable = true) :
    Corresponding front subject Same (node.attemptWith rollback subject)
      ((node.relabel index).attemptWith rollback (front ++ subject)) := by
  intro start start' inside states
  rw [relabel_of_isQuantifiable index single, attemptWith_of_isQuantifiable single,
    attemptWith_of_isQuantifiable single]
  exact corresponds_restoring rollback states (corresponding_rune node.accepts start start' inside states)

mutual

/-- Attempts of a tree that goes the same way correspond. -/
theorem corresponding_of_attemptWith :
    (node : Node) → Follows front index Same node →
      Corresponding front subject Same (node.attemptWith rollback subject)
        ((node.relabel index).attemptWith rollback (front ++ subject))
  | .literal own, _ => corresponding_of_rune (.literal own) rfl
  | .ofClass kind, _ => corresponding_of_rune (.ofClass kind) rfl
  | .set members negated, _ => corresponding_of_rune (.set members negated) rfl
  | .startAnchor node, follows => by
    intro start start' inside states
    have none : front.size = 0 := follows.unanchored node (mem_parts_self _)
    have same : start'.offset = start.offset := by
      have := states.offset
      omega
    have matched := corresponding_of_attemptWith node
      (follows.of_parts (parts_subset_startAnchor node)) start start' inside states
    rw [relabel, attemptWith, attemptWith, same]
    refine corresponds_restoring rollback states ?_
    by_cases first : start.offset = 0
    · rw [if_pos first, if_pos first]
      exact matched
    · rw [if_neg first, if_neg first]
      exact corresponds_failure _ states
  | .endAnchor node, follows => by
    intro start start' inside states
    have matched := corresponding_of_attemptWith node
      (follows.of_parts (parts_subset_endAnchor node)) start start' inside states
    rw [relabel, attemptWith, attemptWith]
    refine corresponds_restoring rollback states ?_
    rcases matched.cases with ⟨outcome, next, next', isLeft, isRight, after⟩ |
      ⟨mismatch, failed, failed', isLeft, isRight, after⟩
    · have ends : (front ++ subject).size ≤ next'.offset ↔ subject.size ≤ next.offset := by
        have stands := after.offset
        rw [Array.size_append]
        omega
      rw [isLeft, isRight]
      by_cases ended : subject.size ≤ next.offset
      · simp only [if_pos ended, if_pos (ends.2 ended)]
        exact corresponds_success _ after
      · simp only [if_neg ended, if_neg fun beyond => ended (ends.1 beyond)]
        exact corresponds_failure _ after
    · rw [isLeft, isRight]
      exact corresponds_failure mismatch after
  | .repetition node min max, follows => by
    intro start start' inside states
    have matched := corresponding_of_attemptWith node
      (follows.of_parts (parts_subset_repetition node min max))
    rw [relabel, attemptWith, attemptWith]
    exact corresponds_restoring rollback states
      (corresponding_repetition (accounts_of_attemptWith node) matched min max start start' inside states)
  | .group own branches, follows => by
    intro start start' inside states
    have each : ∀ branch ∈ branches, Follows front index Same branch :=
      fun branch member => follows.of_parts (parts_subset_group own member)
    rw [relabel_group, attemptWith, attemptWith]
    exact corresponds_restoring rollback states (corresponding_of_attemptBranches branches
      (follows.records own branches (mem_parts_self _)) each start start' inside states)
  | .backreference own, follows => by
    intro start start' inside states
    rw [relabel_backreference, attemptWith, attemptWith,
      ← follows.answers own (mem_parts_self _) _ _ states.captures]
    refine corresponds_restoring rollback states ?_
    cases start.captures.get? own with
    | none => exact corresponds_failure _ states
    | some captured => exact corresponding_text captured start start' inside states
  | .sequence nodes, follows => by
    intro start start' inside states
    have each : ∀ node ∈ nodes, Follows front index Same node :=
      fun node member => follows.of_parts (parts_subset_sequence member)
    rw [relabel_sequence, attemptWith, attemptWith, states.offset]
    exact corresponds_restoring rollback states (corresponds_of_attemptSequence nodes each
      (Nat.le_refl _) inside (by simp) states)

/-- So do attempts of branches, whose group records the text under either index. -/
theorem corresponding_of_attemptBranches {own own' : Nat} :
    (branches : List Node) →
      (∀ left right text, Same left right → Same (left.record own text) (right.record own' text)) →
      (∀ branch ∈ branches, Follows front index Same branch) →
      Corresponding front subject Same (attemptBranches rollback subject own branches)
        (attemptBranches rollback (front ++ subject) own' (branches.map (relabel index)))
  | [], _, _ => fun _ _ _ states => corresponds_failure _ states
  | branch :: rest, records, each => by
    intro start start' inside states
    have matched := corresponding_of_attemptWith branch (each branch List.mem_cons_self) start start'
      inside states
    rw [List.map_cons, attemptBranches, attemptBranches]
    rcases matched.cases with ⟨outcome, next, next', isLeft, isRight, after⟩ |
      ⟨mismatch, failed, failed', isLeft, isRight, after⟩
    · rw [isLeft, isRight]
      refine corresponds_success _ ⟨after.offset, ?_⟩
      simp only
      rw [states.offset, after.offset, extract_behind]
      exact records _ _ _ after.captures
    · rw [isLeft, isRight]
      have back := offset_of_attemptWith_error isLeft
      exact corresponding_of_attemptBranches rest records
        (fun other member => each other (List.mem_cons_of_mem _ member)) _ _
        (by simp only; omega) ⟨after.offset, states.captures⟩

/-- So do attempts of a sequence, wherever it stands. -/
theorem corresponds_of_attemptSequence {began : Nat} {preceding : Option Preceding}
    {start start' : State} :
    (nodes : List Node) → (∀ node ∈ nodes, Follows front index Same node) → began ≤ start.offset →
      start.offset ≤ subject.size →
      (∀ latest ∈ preceding, Remembers subject began start.offset latest) →
      start.Corresponds front.size Same start' →
      (attemptSequence rollback subject began preceding nodes start).Corresponds front.size Same
        (attemptSequence rollback (front ++ subject) (front.size + began)
          (preceding.map (Preceding.moved front.size)) (nodes.map (relabel index)) start')
  | [], _, after, inside, _, states => by
    rw [List.map_nil, attemptSequence, attemptSequence, states.offset, Nat.add_sub_add_left]
    exact corresponds_success _ states
  | node :: rest, each, after, inside, remembered, states => by
    have shorter : ∀ latest ∈ preceding, ∀ stop ∈ latest.shorterEnds, stop ≤ subject.size :=
      fun latest isLatest stop member =>
        (between_of_triedAt after inside remembered (.inr ⟨latest, isLatest, member⟩)).2
    have matched := corresponds_of_orAfterGiveback
      (corresponding_of_attemptWith node (each node List.mem_cons_self)) inside shorter states
    rw [List.map_cons, attemptSequence, attemptSequence]
    rcases matched.cases with ⟨outcome, next, next', isLeft, isRight, reached⟩ |
      ⟨mismatch, failed, failed', isLeft, isRight, reached⟩
    · have known := remembers_of_orAfterGiveback (accounts_of_attemptWith node) after inside remembered
        isLeft
      have stopped : next.offset = next.offset - outcome.consumed + outcome.consumed :=
        known.accounts.stop_eq
      have begins : began ≤ next.offset - outcome.consumed := known.began_le
      have moved : some (⟨next'.offset - outcome.consumed, outcome⟩ : Preceding) =
          (some ⟨next.offset - outcome.consumed, outcome⟩).map (Preceding.moved front.size) := by
        rw [Option.map_some, Preceding.moved, reached.offset]
        simp only [Option.some.injEq, Preceding.mk.injEq, and_true]
        omega
      rw [isLeft, isRight]
      simp only [moved]
      refine corresponds_of_attemptSequence rest
        (fun other member => each other (List.mem_cons_of_mem _ member)) (by omega)
        known.accounts.stop_le ?_ reached
      intro latest isLatest
      cases isLatest
      exact known
    · rw [isLeft, isRight]
      exact corresponds_failure mismatch reached

end

end Node
end PatternSearch
