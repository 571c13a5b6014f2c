import PatternSearch.Proofs.Capturing
import PatternSearch.Proofs.Compiled

/-!
# What a failed element leaves behind

A failed attempt puts the offset back, but under the rule of the engine not the captured texts. A
group puts them back by itself, and most other elements of a pattern capture nothing. The exception
is a group before an end anchor: the group may match and record its text, and then the anchor fails.
`state_of_failed_element` says that every other element of a compiled pattern is, when it fails, in
the state where it began.

`givesBack_of_giveback` says which elements leave rounds to give back, and `bound_of_attemptWith`
which groups are certainly bound after a success (`binds`).
-/
namespace PatternSearch.Node

open Attempt

variable {rollback : Rollback} {subject : Array Char} {start final : State} {outcome : Outcome}
  {mismatch : Mismatch}

/-- Putting back a state that did not move changes nothing. -/
@[simp] theorem restore_self (rollback : Rollback) (state : State) :
    rollback.restore state state = state := by
  cases rollback <;> rfl

/-- Under the stricter rule a failed attempt is in the state where it began. -/
theorem state_of_failed_everything {node : Node}
    (failed : node.attemptWith .everything subject start = ⟨.error mismatch, final⟩) :
    final = start := by
  rw [attemptWith.eq_def] at failed
  have ⟨_, _, restored⟩ := restoring_eq_error.1 failed
  exact restored

/-- Branches that all fail leave the state in which they were tried. -/
theorem state_of_failed_branches {index : Nat} {branches : List Node}
    (failed : attemptBranches rollback subject index branches start = ⟨.error mismatch, final⟩) :
    final = start := by
  induction branches with
  | nil =>
    rw [attemptBranches, failure_eq_error] at failed
    exact failed.2.symm
  | cons branch rest ih =>
    rw [attemptBranches] at failed
    cases tried : branch.attemptWith rollback subject start with
    | mk result reached =>
      rw [tried] at failed
      cases result with
      | ok outcome => cases failed
      | error mismatch =>
        have back : ({ reached with captures := start.captures } : State) = start := by
          rw [show start = ⟨start.offset, start.captures⟩ from rfl,
            ← offset_of_attemptWith_error tried]
        simp only [back] at failed
        exact ih failed

/-- A failed group is in the state where it began. -/
theorem state_of_failed_group {index : Nat} {branches : List Node}
    (failed : (group index branches).attemptWith rollback subject start =
      ⟨.error mismatch, final⟩) : final = start := by
  rw [attemptWith] at failed
  have ⟨reached, tried, restored⟩ := restoring_eq_error.1 failed
  rw [restored, state_of_failed_branches tried, restore_self]

/-- A start anchor restores what its node restores. -/
theorem state_of_failed_startAnchor {node : Node}
    (restores : ∀ {mismatch final}, node.attemptWith rollback subject start =
      ⟨.error mismatch, final⟩ → final = start)
    (failed : (startAnchor node).attemptWith rollback subject start = ⟨.error mismatch, final⟩) :
    final = start := by
  rw [attemptWith] at failed
  have ⟨reached, tried, restored⟩ := restoring_eq_error.1 failed
  rw [restored]
  by_cases first : start.offset = 0
  · rw [if_pos first] at tried
    rw [restores tried, restore_self]
  · rw [if_neg first, failure_eq_error] at tried
    rw [← tried.2, restore_self]

/-- A failed tree without groups is in the state where it began. -/
theorem state_of_failed_without_groups {node : Node} (none : node.indices = [])
    (inside : start.offset ≤ subject.size)
    (failed : node.attemptWith rollback subject start = ⟨.error mismatch, final⟩) :
    final = start := by
  have offset := offset_of_attemptWith_error failed
  have captures : (node.attemptWith rollback subject start).state.captures = start.captures :=
    captures_of_attemptWith none inside
  rw [failed] at captures
  exact congrArg₂ State.mk offset captures

/-- An element of a pattern without anchors is a group, or holds none. -/
theorem Unanchored.group_or_indices {node : Node} (element : Unanchored node) :
    (∃ index branches, node = .group index branches) ∨ node.indices = [] := by
  cases element with
  | rune single => exact .inr (indices_eq_nil_of_isQuantifiable single)
  | optional single =>
    exact .inr ((indices_repetition _ _ _).trans (indices_eq_nil_of_isQuantifiable single))
  | onceOrMore single =>
    exact .inr ((indices_repetition _ _ _).trans (indices_eq_nil_of_isQuantifiable single))
  | backreference index => exact .inr rfl
  | group index each => exact .inl ⟨index, _, rfl⟩

/-- An element holds groups only when it is a group with anchors around it. -/
theorem indices_eq_nil_of_element :
    (node : Node) → Element node → node.unanchored.groupIndex? = none → node.indices = []
  | .startAnchor node, element, noGroup => by
    rw [indices_startAnchor]
    rcases element.of_startAnchor with element | rfl
    · rcases element.group_or_indices with ⟨index, branches, rfl⟩ | none
      · cases noGroup
      · exact none
    · rfl
  | .endAnchor node, element, noGroup => by
    rw [indices_endAnchor]
    exact indices_eq_nil_of_element node element.of_endAnchor noGroup
  | .literal _, _, _ | .ofClass _, _, _ | .set _ _, _, _ | .backreference _, _, _ => rfl
  | .repetition node min max, .plain element, _ => by
    rcases element.group_or_indices with ⟨index, branches, same⟩ | none
    · cases same
    · exact none
  | .group index branches, _, noGroup => by cases noGroup
  | .sequence nodes, .plain element, _ => by
    rcases element.group_or_indices with ⟨index, branches, same⟩ | none
    · cases same
    · exact none

/-- A failed element of a pattern is in the state where it began, unless it is a group before an end
anchor. -/
theorem state_of_failed_element {node : Node} (element : Element node)
    (noGroupAtEnd : ∀ inner, node = .endAnchor inner → inner.unanchored.groupIndex? = none)
    (inside : start.offset ≤ subject.size)
    (failed : node.attemptWith rollback subject start = ⟨.error mismatch, final⟩) :
    final = start := by
  cases element with
  | plain element =>
    rcases element.group_or_indices with ⟨index, branches, rfl⟩ | none
    · exact state_of_failed_group failed
    · exact state_of_failed_without_groups none inside failed
  | startAnchor element =>
    rcases element.group_or_indices with ⟨index, branches, rfl⟩ | none
    · exact state_of_failed_startAnchor state_of_failed_group failed
    · rw [← indices_startAnchor] at none
      exact state_of_failed_without_groups none inside failed
  | bareStartAnchor => exact state_of_failed_without_groups rfl inside failed
  | @endAnchor inner element =>
    have none := indices_eq_nil_of_element inner element (noGroupAtEnd inner rfl)
    rw [← indices_endAnchor] at none
    exact state_of_failed_without_groups none inside failed

/-- Branches of which one matches leave no rounds to give back, and bind the group. -/
theorem attemptBranches_leaves {index : Nat} {branches : List Node}
    (found : attemptBranches rollback subject index branches start = ⟨.ok outcome, final⟩) :
    outcome.giveback = 0 ∧ (final.captures.get? index).isSome = true := by
  induction branches with
  | nil =>
    rw [attemptBranches, failure_eq_ok] at found
    exact found.elim
  | cons branch rest ih =>
    rcases attemptBranches_cons_eq_ok.1 found with
      ⟨inner, reached, -, consumed, same⟩ | ⟨_, _, -, later⟩
    · rw [consumed, same, Captures.get?_record, if_pos rfl]
      exact ⟨rfl, rfl⟩
    · exact ih later

/-- A rune leaves no rounds to give back. -/
theorem giveback_of_rune (node : Node) (single : node.isQuantifiable = true)
    (found : node.attemptWith rollback subject start = ⟨.ok outcome, final⟩) :
    ¬ 0 < outcome.giveback := by
  rw [attemptWith_of_isQuantifiable single, restoring_eq_ok] at found
  have ⟨_, _, _, consumed, _⟩ := rune_eq_ok.1 found
  rw [consumed]
  exact Nat.lt_irrefl 0

/-- Only a repetition, or a start anchor in front of one, leaves rounds to give back. -/
theorem givesBack_of_giveback :
    (node : Node) → node.attemptWith rollback subject start = ⟨.ok outcome, final⟩ →
      0 < outcome.giveback → node.givesBack = true
  | .startAnchor node, found, gives => givesBack_of_giveback node (startAnchor_eq_ok.1 found).2 gives
  | .repetition _ _ _, _, _ => rfl
  | .endAnchor node, found, gives => by
    have ⟨_, _, _, consumed⟩ := endAnchor_eq_ok.1 found
    rw [consumed] at gives
    cases gives
  | .group index branches, found, gives => by
    have kept := (attemptBranches_leaves (group_eq_ok.1 found)).1
    omega
  | .backreference index, found, gives => by
    have ⟨_, _, _, consumed, _⟩ := backreference_eq_ok.1 found
    rw [consumed] at gives
    cases gives
  | .sequence nodes, found, gives => by
    have kept := giveback_of_attemptSequence (sequence_eq_ok.1 found)
    omega
  | .literal own, found, gives => absurd gives (giveback_of_rune (.literal own) rfl found)
  | .ofClass kind, found, gives => absurd gives (giveback_of_rune (.ofClass kind) rfl found)
  | .set members negated, found, gives =>
    absurd gives (giveback_of_rune (.set members negated) rfl found)

/-! ## Groups that are bound -/

mutual

/-- The groups that are certainly bound after the tree has matched: those that are not inside one of
several branches. -/
def binds : Node → List Nat
  | .startAnchor node => node.binds
  | .endAnchor node => node.binds
  | .group index branches => index :: onlyBinds branches
  | .sequence nodes => rowBinds nodes
  | _ => []

/-- The groups bound by the only branch of a group. -/
def onlyBinds : List Node → List Nat
  | [branch] => branch.binds
  | _ => []

/-- The groups bound by nodes one after another. -/
def rowBinds : List Node → List Nat
  | [] => []
  | node :: rest => node.binds ++ rowBinds rest

end

/-- A text is captured under an index. -/
def Bound (index : Nat) (captures : Captures) : Prop := (captures.get? index).isSome = true

/-- Recording a text unbinds no group. -/
theorem Bound.record {index : Nat} {captures : Captures} (bound : Bound index captures)
    (other : Nat) (text : Text) : Bound index (captures.record other text) := by
  rw [Bound, Captures.get?_record]
  by_cases same : index = other
  · rw [if_pos same]
    rfl
  · rw [if_neg same]
    exact bound

/-- A bound group stays bound, whatever is recorded. -/
theorem keptByRecording_bound (subject : Array Char) (index : Nat) (indices : List Nat) :
    KeptByRecording subject 0 indices (Bound index) :=
  fun other _ _ _ _ _ _ _ bound => bound.record other _

mutual

/-- After a tree has matched, the groups that it certainly binds are bound. -/
theorem bound_of_attemptWith :
    (node : Node) → ∀ {start final : State} {outcome : Outcome}, start.offset ≤ subject.size →
      node.attemptWith rollback subject start = ⟨.ok outcome, final⟩ →
      ∀ index ∈ node.binds, Bound index final.captures
  | .literal _, _, _, _, _, _, _, member | .ofClass _, _, _, _, _, _, _, member
  | .set _ _, _, _, _, _, _, _, member | .repetition _ _ _, _, _, _, _, _, _, member
  | .backreference _, _, _, _, _, _, _, member => by cases member
  | .startAnchor node, _, _, _, inside, found, index, member =>
    bound_of_attemptWith node inside (startAnchor_eq_ok.1 found).2 index member
  | .endAnchor node, _, _, _, inside, found, index, member => by
    have ⟨inner, matched, _⟩ := endAnchor_eq_ok.1 found
    exact bound_of_attemptWith node inside matched index member
  | .group own branches, _, _, _, inside, found, index, member => by
    have matched := group_eq_ok.1 found
    rcases List.mem_cons.1 member with same | deep
    · rw [same]
      exact (attemptBranches_leaves matched).2
    · exact bound_of_attemptBranches branches inside matched index deep
  | .sequence nodes, _, _, _, inside, found, index, member =>
    bound_of_attemptSequence nodes (Nat.le_refl _) inside (by simp) (sequence_eq_ok.1 found) index
      member

/-- So are those of the only branch of a group. -/
theorem bound_of_attemptBranches {own : Nat} :
    (branches : List Node) → ∀ {start final : State} {outcome : Outcome},
      start.offset ≤ subject.size →
      attemptBranches rollback subject own branches start = ⟨.ok outcome, final⟩ →
      ∀ index ∈ onlyBinds branches, Bound index final.captures
  | [], _, _, _, _, _, _, member => by cases member
  | _ :: _ :: _, _, _, _, _, _, _, member => by cases member
  | [branch], _, _, _, inside, found, index, member => by
    rcases attemptBranches_cons_eq_ok.1 found with
      ⟨inner, reached, matched, _, moved⟩ | ⟨_, _, _, later⟩
    · have bound := bound_of_attemptWith branch inside matched index member
      rw [moved]
      exact bound.record own _
    · rw [attemptBranches, failure_eq_ok] at later
      exact later.elim

/-- So are those of a sequence: what an element binds, the elements after it leave bound. -/
theorem bound_of_attemptSequence {began : Nat} :
    (nodes : List Node) → ∀ {preceding : Option Preceding} {start final : State}
      {outcome : Outcome}, began ≤ start.offset → start.offset ≤ subject.size →
      (∀ latest ∈ preceding, Remembers subject began start.offset latest) →
      attemptSequence rollback subject began preceding nodes start = ⟨.ok outcome, final⟩ →
      ∀ index ∈ rowBinds nodes, Bound index final.captures
  | [], _, _, _, _, _, _, _, _, _, member => by cases member
  | node :: rest, preceding, start, final, _, after, inside, remembered, found, index, member => by
    have ⟨inner, next, matched, later⟩ := attemptSequence_cons_eq_ok.1 found
    have known := remembers_of_orAfterGiveback (accounts_of_attemptWith node) after inside
      remembered matched
    have onward : began ≤ next.offset := Nat.le_trans known.began_le (Nat.sub_le _ _)
    have remembers : ∀ latest ∈ some ⟨next.offset - inner.consumed, inner⟩,
        Remembers subject began next.offset latest := by
      intro latest isLatest
      cases isLatest
      exact known
    rcases List.mem_append.1 member with here | further
    · have ⟨tried, place, _, stepped⟩ := orAfterGiveback_eq_ok (fun _ => True)
        (fun _ _ _ _ _ _ => trivial) trivial matched
      have between := between_of_triedAt after inside remembered place
      have bound := bound_of_attemptWith node between.2 stepped index here
      have kept : Bound index (attemptSequence rollback subject began
          (some ⟨next.offset - inner.consumed, inner⟩) rest next).state.captures :=
        keeps_of_attemptSequence rest (keptByRecording_bound subject index _) (Nat.zero_le _)
          onward known.accounts.stop_le remembers bound
      rw [later] at kept
      exact kept
    · exact bound_of_attemptSequence rest onward known.accounts.stop_le remembers later index further

end

/-- A group is among what it binds, through all anchors around it. -/
theorem mem_binds_of_unanchored {index : Nat} {branches : List Node} :
    (node : Node) → node.unanchored = .group index branches → index ∈ node.binds
  | .startAnchor node, isGroup => mem_binds_of_unanchored node isGroup
  | .endAnchor node, isGroup => mem_binds_of_unanchored node isGroup
  | .group own branches, isGroup => by
    cases isGroup
    exact List.mem_cons_self

end PatternSearch.Node
