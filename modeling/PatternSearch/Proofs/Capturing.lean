import PatternSearch.Proofs.Accounting

/-!
# What an attempt does to captured texts

An attempt changes the captured texts only by recording, for a group of its tree, a text that stands
in the subject past the offset where the attempt began. `keeps_of_attemptWith` says this once for
every condition on the captured texts: one that such recordings keep is kept by the whole attempt,
whether it succeeds or fails. In particular nothing is changed for indices that no group of the tree
has (`agreeOff_of_attemptWith`).

Matching one rune, and repeating that, does not look at captured texts either (`Uniform`).
-/
namespace PatternSearch

namespace Captures

/-- Two tables answer look-ups alike, except perhaps at some indices. -/
def AgreeOff (apart : Nat → Prop) (left right : Captures) : Prop :=
  ∀ index, ¬ apart index → left.get? index = right.get? index

/-- A table agrees with itself. -/
theorem AgreeOff.refl (apart : Nat → Prop) (captures : Captures) : AgreeOff apart captures captures :=
  fun _ _ => rfl

/-- Tables that agree with a third one at the same indices agree. -/
theorem AgreeOff.trans {apart : Nat → Prop} {left middle right : Captures}
    (first : AgreeOff apart left middle) (second : AgreeOff apart middle right) :
    AgreeOff apart left right :=
  fun index off => (first index off).trans (second index off)

/-- Tables that agree everywhere are equal. -/
theorem AgreeOff.eq {apart : Nat → Prop} {left right : Captures} (agree : AgreeOff apart left right)
    (none : ∀ index, ¬ apart index) : left = right :=
  ext_get? fun index => agree index (none index)

/-- A table agrees with itself off the index where a text is recorded. -/
theorem agreeOff_record {apart : Nat → Prop} {index : Nat} (inside : apart index)
    (captures : Captures) (text : Text) : AgreeOff apart (captures.record index text) captures := by
  intro other off
  have different : other ≠ index := fun same => off (same ▸ inside)
  rw [get?_record, if_neg different]

end Captures

namespace Attempt

variable {step : State → Attempt} {Kept : Captures → Prop}

/-- Trying a step at some offsets keeps what the step keeps at each of them. -/
theorem keeps_atFirst {ended : Nat} {offsets : List Nat} {state : State}
    (keeps : ∀ offset ∈ offsets, ∀ captures, Kept captures →
      Kept (step ⟨offset, captures⟩).state.captures)
    (kept : Kept state.captures) : Kept (atFirst step ended offsets state).state.captures := by
  induction offsets generalizing state with
  | nil => exact kept
  | cons offset rest ih =>
    have here := keeps offset List.mem_cons_self state.captures kept
    rw [atFirst]
    cases stepped : step (state.at offset) with
    | mk result next =>
      have after : Kept next.captures := by
        have same : (step ⟨offset, state.captures⟩).state = next := congrArg Attempt.state stepped
        rwa [same] at here
      cases result with
      | ok outcome => exact after
      | error mismatch =>
        exact ih (fun other member => keeps other (List.mem_cons_of_mem _ member)) after

/-- Trying a step, also after rounds are given back, keeps what the step keeps wherever it may be
tried. -/
theorem keeps_orAfterGiveback {preceding : Option Preceding} {state : State}
    (here : Kept (step state).state.captures)
    (keeps : ∀ latest ∈ preceding, ∀ offset ∈ latest.shorterEnds, ∀ captures, Kept captures →
      Kept (step ⟨offset, captures⟩).state.captures) :
    Kept (orAfterGiveback step preceding state).state.captures := by
  unfold orAfterGiveback
  cases stepped : step state with
  | mk result next =>
    rw [stepped] at here
    cases result with
    | ok outcome => exact here
    | error mismatch =>
      cases preceding with
      | none => exact here
      | some latest =>
        by_cases gives : 0 < latest.outcome.giveback
        · simp only [if_pos gives]
          exact keeps_atFirst (keeps latest rfl) here
        · simp only [if_neg gives]
          exact here

end Attempt

namespace Node

open Attempt

variable {rollback : Rollback} {subject : Array Char} {Kept : Captures → Prop} {low : Nat}

/-- A condition on captured texts that is kept when a text of the subject from some offset on is
recorded under one of some indices. -/
def KeptByRecording (subject : Array Char) (low : Nat) (indices : List Nat)
    (Kept : Captures → Prop) : Prop :=
  ∀ index ∈ indices, ∀ captures first last, low ≤ first → first ≤ last → last ≤ subject.size →
    Kept captures → Kept (captures.record index (subject.extract first last).toList)

/-- A step keeps a condition on captured texts wherever it begins from some offset on. -/
def KeepsFrom (subject : Array Char) (low : Nat) (Kept : Captures → Prop)
    (step : State → Attempt) : Prop :=
  ∀ state : State, low ≤ state.offset → state.offset ≤ subject.size → Kept state.captures →
    Kept (step state).state.captures

/-- Putting back either keeps the captured texts or returns to those of the beginning. -/
theorem keeps_restoring {start : State} {attempt : Attempt} (before : Kept start.captures)
    (after : Kept attempt.state.captures) :
    Kept (restoring rollback start attempt).state.captures := by
  unfold restoring
  split
  · exact after
  · cases rollback with
    | offset => exact after
    | everything => exact before

/-- Rounds keep what each of them keeps. -/
theorem keeps_repeated {step : State → Attempt} (accounting : Accounting subject step)
    (keeps : KeepsFrom subject low Kept step) (rounds : Nat) :
    ∀ state : State, low ≤ state.offset → state.offset ≤ subject.size → Kept state.captures →
      Kept (repeated step rounds state).2.captures := by
  intro state after inside kept
  obtain ⟨last, made, -, ended⟩ := repeated_rounds step rounds state
  have reached : low ≤ last.offset ∧ last.offset ≤ subject.size ∧ Kept last.captures := by
    refine Rounds.keeps (fun state =>
      low ≤ state.offset ∧ state.offset ≤ subject.size ∧ Kept state.captures) made ?_
      ⟨after, inside, kept⟩
    intro before outcome next held stepped
    have ⟨later, within, held⟩ := held
    have accounts := accounting within stepped
    have stopped := accounts.stop_eq
    have same : (step before).state = next := congrArg Attempt.state stepped
    exact ⟨by omega, accounts.stop_le, same ▸ keeps before later within held⟩
  rcases ended with same | ⟨mismatch, failed⟩
  · rw [same]
    exact reached.2.2
  · have same : (step last).state = (repeated step rounds state).2 := congrArg Attempt.state failed
    exact same ▸ keeps last reached.1 reached.2.1 reached.2.2

/-- Matching one rune keeps every condition on captured texts. -/
theorem keeps_of_rune (node : Node) (single : node.isQuantifiable = true) :
    KeepsFrom subject low Kept (node.attemptWith rollback subject) := by
  intro start _ _ kept
  rw [attemptWith_of_isQuantifiable single]
  refine keeps_restoring kept ?_
  cases tried : rune subject node.accepts start with
  | mk result next =>
    cases result with
    | ok outcome =>
      obtain ⟨_, -, -, -, rfl⟩ := rune_eq_ok.1 tried
      exact kept
    | error mismatch =>
      rw [(rune_eq_error tried).1]
      exact kept

mutual

/-- An attempt keeps a condition on captured texts that the recordings of its groups keep. -/
theorem keeps_of_attemptWith :
    (node : Node) → KeptByRecording subject low node.indices Kept →
      KeepsFrom subject low Kept (node.attemptWith rollback subject)
  | .literal own, _ => keeps_of_rune (.literal own) rfl
  | .ofClass kind, _ => keeps_of_rune (.ofClass kind) rfl
  | .set members negated, _ => keeps_of_rune (.set members negated) rfl
  | .startAnchor node, recorded => by
    intro start after inside kept
    rw [indices_startAnchor] at recorded
    rw [attemptWith]
    refine keeps_restoring kept ?_
    split
    · exact keeps_of_attemptWith node recorded start after inside kept
    · exact kept
  | .endAnchor node, recorded => by
    intro start after inside kept
    rw [indices_endAnchor] at recorded
    have matched := keeps_of_attemptWith node recorded start after inside kept
    rw [attemptWith]
    refine keeps_restoring kept ?_
    split
    · rename_i outcome state tried
      rw [tried] at matched
      split <;> exact matched
    · exact matched
  | .repetition node min max, recorded => by
    intro start after inside kept
    rw [indices_repetition] at recorded
    have matched := keeps_repeated (accounts_of_attemptWith node)
      (keeps_of_attemptWith node recorded) (rounds (subject.size - start.offset) max) start after
      inside kept
    rw [attemptWith, Attempt.repetition]
    refine keeps_restoring kept ?_
    cases repeats : repeated (node.attemptWith rollback subject)
        (rounds (subject.size - start.offset) max) start with
    | mk lengths last =>
      rw [repeats] at matched
      by_cases few : lengths.length < min
      · simp only [if_pos few]
        exact matched
      · simp only [if_neg few]
        exact matched
  | .group index branches, recorded => by
    intro start after inside kept
    rw [indices_group] at recorded
    rw [attemptWith]
    refine keeps_restoring kept ?_
    exact keeps_of_attemptBranches branches (recorded index List.mem_cons_self)
      (fun other member => recorded other (List.mem_cons_of_mem _ member)) start after inside kept
  | .backreference index, _ => by
    intro start after inside kept
    rw [attemptWith]
    refine keeps_restoring kept ?_
    split
    · exact kept
    · unfold text
      split <;> exact kept
  | .sequence nodes, recorded => by
    intro start after inside kept
    rw [indices_sequence] at recorded
    rw [attemptWith]
    refine keeps_restoring kept ?_
    exact keeps_of_attemptSequence nodes recorded after (Nat.le_refl _) inside (by simp) kept

/-- So do the branches of a group, whose own recording comes last. -/
theorem keeps_of_attemptBranches {index : Nat} :
    (branches : List Node) →
      (∀ captures first last, low ≤ first → first ≤ last → last ≤ subject.size →
        Kept captures → Kept (captures.record index (subject.extract first last).toList)) →
      KeptByRecording subject low (branches.flatMap indices) Kept →
      KeepsFrom subject low Kept (attemptBranches rollback subject index branches)
  | [], _, _ => fun _ _ _ kept => kept
  | branch :: rest, own, recorded => by
    intro start after inside kept
    rw [List.flatMap_cons] at recorded
    have matched := keeps_of_attemptWith branch
      (fun other member => recorded other (List.mem_append_left _ member)) start after inside kept
    rw [attemptBranches]
    cases tried : branch.attemptWith rollback subject start with
    | mk result reached =>
      rw [tried] at matched
      cases result with
      | ok outcome =>
        have accounts := accounts_of_attemptWith branch inside tried
        have stopped := accounts.stop_eq
        exact own _ _ _ after (by omega) accounts.stop_le matched
      | error mismatch =>
        have back := offset_of_attemptWith_error tried
        exact keeps_of_attemptBranches rest own
          (fun other member => recorded other (List.mem_append_right _ member))
          ⟨reached.offset, start.captures⟩ (by simp only; omega) (by simp only; omega) kept

/-- So does a sequence, wherever it stands. -/
theorem keeps_of_attemptSequence {began : Nat} {preceding : Option Preceding} {start : State} :
    (nodes : List Node) → KeptByRecording subject low (nodes.flatMap indices) Kept →
      low ≤ began → began ≤ start.offset → start.offset ≤ subject.size →
      (∀ latest ∈ preceding, Remembers subject began start.offset latest) → Kept start.captures →
      Kept (attemptSequence rollback subject began preceding nodes start).state.captures
  | [], _ => fun _ _ _ _ kept => kept
  | node :: rest, recorded => by
    intro from_ after inside remembered kept
    rw [List.flatMap_cons] at recorded
    have keeps := keeps_of_attemptWith node
      (fun other member => recorded other (List.mem_append_left _ member))
    have matched : Kept (orAfterGiveback (node.attemptWith rollback subject) preceding
        start).state.captures := by
      refine keeps_orAfterGiveback (keeps start (by omega) inside kept) ?_
      intro latest isLatest offset shorter captures held
      have known := remembered latest isLatest
      have between := Preceding.shorterEnds_between known.accounts shorter
      have begins := known.began_le
      exact keeps ⟨offset, captures⟩ (by simp only; omega) (by simp only; omega) held
    rw [attemptSequence]
    cases tried : orAfterGiveback (node.attemptWith rollback subject) preceding start with
    | mk result next =>
      rw [tried] at matched
      cases result with
      | error mismatch => exact matched
      | ok outcome =>
        have known := remembers_of_orAfterGiveback (accounts_of_attemptWith node) after inside
          remembered tried
        have begins := known.began_le
        have stopped := known.accounts.stop_eq
        refine keeps_of_attemptSequence rest
          (fun other member => recorded other (List.mem_append_right _ member)) from_ (by omega)
          known.accounts.stop_le ?_ matched
        rintro _ ⟨⟩
        exact known

end

/-- An attempt leaves the texts alone that were captured under indices of no group of its tree. -/
theorem agreeOff_of_attemptWith {node : Node} {start : State} (inside : start.offset ≤ subject.size) :
    Captures.AgreeOff (· ∈ node.indices) (node.attemptWith rollback subject start).state.captures
      start.captures := by
  have recorded : KeptByRecording subject 0 node.indices
      fun captures => captures.AgreeOff (· ∈ node.indices) start.captures := by
    intro index member captures first last _ _ _ kept
    exact (Captures.agreeOff_record member captures _).trans kept
  have keeps : KeepsFrom subject 0 (fun captures => captures.AgreeOff (· ∈ node.indices)
      start.captures) (node.attemptWith rollback subject) := keeps_of_attemptWith node recorded
  exact keeps start (Nat.zero_le _) inside (.refl _ _)

/-- Neither does trying the tree again after rounds are given back. -/
theorem agreeOff_of_orAfterGiveback {node : Node} {preceding : Option Preceding} {start : State}
    (inside : start.offset ≤ subject.size)
    (shorter : ∀ latest ∈ preceding, ∀ stop ∈ latest.shorterEnds, stop ≤ subject.size) :
    Captures.AgreeOff (· ∈ node.indices)
      (orAfterGiveback (node.attemptWith rollback subject) preceding start).state.captures
      start.captures := by
  have here : Captures.AgreeOff (· ∈ node.indices)
      (node.attemptWith rollback subject start).state.captures start.captures :=
    agreeOff_of_attemptWith inside
  refine @keeps_orAfterGiveback (node.attemptWith rollback subject)
    (fun captures => captures.AgreeOff (· ∈ node.indices) start.captures) preceding start here ?_
  intro latest isLatest stop member captures agree
  have there : Captures.AgreeOff (· ∈ node.indices)
      (node.attemptWith rollback subject ⟨stop, captures⟩).state.captures captures :=
    agreeOff_of_attemptWith (shorter latest isLatest stop member)
  exact there.trans agree

/-- An attempt of a tree without groups captures nothing. -/
theorem captures_of_attemptWith {node : Node} {start : State} (none : node.indices = [])
    (inside : start.offset ≤ subject.size) :
    (node.attemptWith rollback subject start).state.captures = start.captures :=
  (agreeOff_of_attemptWith inside).eq fun index member => by
    rw [none] at member
    cases member

/-- A tree whose attempts are the same beside all captured texts and under every rule: they neither
read what is captured nor change it. -/
def Uniform (subject : Array Char) (node : Node) : Prop :=
  ∀ offset, ∃ result next, ∀ rollback captures,
    node.attemptWith rollback subject ⟨offset, captures⟩ = ⟨result, ⟨next, captures⟩⟩

/-- Putting back a state with the same captured texts moves it to the offset of the beginning. -/
theorem restoring_beside (result : Except Mismatch Outcome) (offset next : Nat) :
    ∃ last, ∀ rollback captures,
      restoring rollback ⟨offset, captures⟩ ⟨result, ⟨next, captures⟩⟩ =
        ⟨result, ⟨last, captures⟩⟩ := by
  cases result with
  | ok outcome => exact ⟨next, fun _ _ => rfl⟩
  | error mismatch => exact ⟨offset, fun rollback _ => by cases rollback <;> rfl⟩

/-- Matching one rune is the same beside all captured texts. -/
theorem uniform_of_rune (node : Node) (single : node.isQuantifiable = true) :
    Uniform subject node := by
  intro offset
  have tried : ∃ result next, ∀ captures,
      rune subject node.accepts ⟨offset, captures⟩ = ⟨result, ⟨next, captures⟩⟩ := by
    cases present : subject[offset]? with
    | none => exact ⟨.error .endOfInput, offset, fun _ => by simp only [rune, present, Attempt.failure]⟩
    | some found =>
      cases accepted : node.accepts found with
      | true =>
        exact ⟨.ok (.consuming 1), offset + 1, fun _ => by
          simp only [rune, present, accepted, if_true, success, State.at]⟩
      | false =>
        exact ⟨.error .noMatch, offset, fun _ => by
          simp only [rune, present, accepted, Bool.false_eq_true, if_false, Attempt.failure]⟩
  obtain ⟨result, next, matched⟩ := tried
  obtain ⟨last, restored⟩ := restoring_beside result offset next
  refine ⟨result, last, fun rollback captures => ?_⟩
  rw [attemptWith_of_isQuantifiable single, matched, restored]

/-- Rounds of a uniform tree are the same beside all captured texts. -/
theorem repeated_beside {node : Node} (uniform : Uniform subject node) (rounds offset : Nat) :
    ∃ lengths last, ∀ rollback captures,
      repeated (node.attemptWith rollback subject) rounds ⟨offset, captures⟩ =
        (lengths, ⟨last, captures⟩) := by
  induction rounds generalizing offset with
  | zero => exact ⟨[], offset, fun _ _ => rfl⟩
  | succ rounds ih =>
    obtain ⟨result, next, tried⟩ := uniform offset
    cases result with
    | error mismatch =>
      exact ⟨[], next, fun rollback captures => by simp only [repeated, tried]⟩
    | ok outcome =>
      by_cases empty : outcome.consumed = 0
      · exact ⟨[0], next, fun rollback captures => by simp only [repeated, tried, if_pos empty]⟩
      · obtain ⟨lengths, last, later⟩ := ih next
        exact ⟨outcome.consumed :: lengths, last, fun rollback captures => by
          simp only [repeated, tried, if_neg empty, later]⟩

/-- So are repetitions of a uniform tree. -/
theorem uniform_repetition {node : Node} (uniform : Uniform subject node) (min : Nat)
    (max : Option Nat) : Uniform subject (.repetition node min max) := by
  intro offset
  obtain ⟨lengths, ended, repeats⟩ :=
    repeated_beside uniform (rounds (subject.size - offset) max) offset
  have tried : ∃ result, ∀ rollback captures,
      Attempt.repetition subject (node.attemptWith rollback subject) min max ⟨offset, captures⟩ =
        ⟨result, ⟨ended, captures⟩⟩ := by
    by_cases few : lengths.length < min
    · exact ⟨.error .tooFewRepetitions, fun rollback captures => by
        simp only [Attempt.repetition, repeats, if_pos few, Attempt.failure]⟩
    · exact ⟨.ok ⟨totalLength lengths, lengths, lengths.length - min⟩, fun rollback captures => by
        simp only [Attempt.repetition, repeats, if_neg few, success]⟩
  obtain ⟨result, matched⟩ := tried
  obtain ⟨last, restored⟩ := restoring_beside result offset ended
  refine ⟨result, last, fun rollback captures => ?_⟩
  rw [attemptWith, matched, restored]

end Node
end PatternSearch
