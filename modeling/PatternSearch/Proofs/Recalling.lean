import Mathlib.Data.Set.Insert
import PatternSearch.Proofs.Corresponding
import PatternSearch.Proofs.Restoring

/-!
# What is recalled and what is recorded

An attempt looks at captured texts only through the backreferences of its tree. Beside two tables that
agree where the tree refers to, it goes the same way, and leaves tables that agree there again, whatever
groups record on the way and whatever a branch that fails puts back (`attempt_of_agreeOn`).

Groups record into the table, and elements that fail may leave their recordings behind. Whether an
attempt succeeds or fails, what it leaves is the table from before with texts of the subject recorded
over it: no text is forgotten, only groups of the tree have other texts than before, and these stand in
the subject at the offset of the attempt or behind it (`recordedOver_of_attempt`). A group that fails
leaves no recording at all.
-/
namespace PatternSearch

/-! ## Captured texts that are recalled -/

namespace Captures

/-- Two tables answer the look-ups of some indices alike. -/
def AgreeOn (named : Set Nat) (left right : Captures) : Prop :=
  ∀ index ∈ named, left.get? index = right.get? index

/-- Tables that agree do so after the same text is recorded in both. -/
theorem AgreeOn.record {named : Set Nat} {left right : Captures} (agree : left.AgreeOn named right)
    (index : Nat) (text : Text) : (left.record index text).AgreeOn named (right.record index text) := by
  intro other member
  rw [get?_record, get?_record, agree other member]

/-- Nothing is said about tables where no index is named. -/
theorem agreeOn_empty (left right : Captures) : left.AgreeOn ∅ right := fun _ none => none.elim

end Captures

namespace Node

open Attempt

variable {rollback : Rollback} {subject : Array Char} {node : Node}

/-- The indices to which some backreference of the tree refers. -/
def references (node : Node) : Set Nat := {index | .backreference index ∈ node.parts}

/-- A tree goes the same way beside tables that agree where it refers to. -/
theorem follows_agreeOn {named : Set Nat} (names : node.references ⊆ named) :
    Follows #[] id (Captures.AgreeOn named) node where
  records := fun own _ _ _ _ text agree => agree.record own text
  answers := fun own member _ _ agree => agree own (names member)
  unanchored := fun _ _ => rfl

/-- Attempts beside tables that agree where the tree refers to go the same way. -/
theorem alike_of_agreeOn {named : Set Nat} {offset : Nat} {left right : Captures}
    (names : node.references ⊆ named) (inside : offset ≤ subject.size)
    (agree : left.AgreeOn named right) :
    (node.attemptWith rollback subject ⟨offset, left⟩).result =
      (node.attemptWith rollback subject ⟨offset, right⟩).result ∧
    (node.attemptWith rollback subject ⟨offset, left⟩).state.offset =
      (node.attemptWith rollback subject ⟨offset, right⟩).state.offset ∧
    (node.attemptWith rollback subject ⟨offset, left⟩).state.captures.AgreeOn named
      (node.attemptWith rollback subject ⟨offset, right⟩).state.captures := by
  have corresponding : Corresponding #[] subject (Captures.AgreeOn named)
      (node.attemptWith rollback subject)
      ((node.relabel id).attemptWith rollback (#[] ++ subject)) :=
    corresponding_of_attemptWith node (follows_agreeOn names)
  rw [relabel_id, Array.empty_append] at corresponding
  have ⟨result, moved, captures⟩ :=
    corresponding ⟨offset, left⟩ ⟨offset, right⟩ inside ⟨(Nat.zero_add offset).symm, agree⟩
  exact ⟨result, (moved.trans (Nat.zero_add _)).symm, captures⟩

/-- An attempt reads captured texts only where the tree refers to them. Beside tables that agree there and
perhaps elsewhere it has the same result and comes to the same offset, and the tables agree again
afterwards. So a tree without backreferences is attempted alike beside all tables. -/
theorem attempt_of_agreeOn (subject : Array Char) (node : Node) (offset : Nat)
    (inside : offset ≤ subject.size) :
    (∀ (named : Set Nat) (left right : Captures), node.references ⊆ named → left.AgreeOn named right →
      (node.attempt subject ⟨offset, left⟩).result = (node.attempt subject ⟨offset, right⟩).result ∧
      (node.attempt subject ⟨offset, left⟩).state.offset =
        (node.attempt subject ⟨offset, right⟩).state.offset ∧
      (node.attempt subject ⟨offset, left⟩).state.captures.AgreeOn named
        (node.attempt subject ⟨offset, right⟩).state.captures) ∧
    (node.BackreferenceFree → ∀ left right : Captures,
      (node.attempt subject ⟨offset, left⟩).result = (node.attempt subject ⟨offset, right⟩).result ∧
      (node.attempt subject ⟨offset, left⟩).state.offset =
        (node.attempt subject ⟨offset, right⟩).state.offset) := by
  refine ⟨?agreeing, ?free⟩
  case agreeing =>
    intro named left right names agree
    exact alike_of_agreeOn names inside agree
  case free =>
    intro free left right
    have none : node.references ⊆ ∅ := fun index member => free index member
    have nowhere : left.AgreeOn ∅ right := Captures.agreeOn_empty left right
    exact (alike_of_agreeOn none inside nowhere).imp_right And.left

/-- At the start of `xxy` the tree of `x+(x)\1\2` gives a rune back to its group and fails at the first
backreference. Two tables that differ at index 3 alone keep the text of the group, and agree on it. -/
theorem attempt_of_agreeOn_one_and_two :
    ∃ node : Node, node.references ⊆ {1, 2} ∧
      (node.attempt "xxy".toList.toArray ⟨0, Captures.empty.record 3 ['y']⟩).result =
        .error .noMatch ∧
      (node.attempt "xxy".toList.toArray ⟨0, Captures.empty.record 3 ['y']⟩).result =
        (node.attempt "xxy".toList.toArray ⟨0, Captures.empty⟩).result ∧
      (node.attempt "xxy".toList.toArray ⟨0, Captures.empty.record 3 ['y']⟩).state.captures.AgreeOn
        {1, 2} (node.attempt "xxy".toList.toArray ⟨0, Captures.empty⟩).state.captures := by
  let node : Node := .sequence [.repetition (.literal 'x') 1 none,
    .group 1 [.sequence [.literal 'x']], .backreference 1, .backreference 2]
  have names : node.references ⊆ {1, 2} := by
    intro index member
    simpa [references, node] using member
  have agree : (Captures.empty.record 3 ['y']).AgreeOn {1, 2} Captures.empty := by
    rintro index (rfl | rfl) <;> rfl
  have ⟨agreeing, _⟩ := attempt_of_agreeOn "xxy".toList.toArray node 0 (Nat.zero_le 3)
  have ⟨result, _, captures⟩ := agreeing {1, 2} _ _ names agree
  exact ⟨node, names, by rfl, result, captures⟩

/-! ## Captured texts that are recorded -/

/-- A table is one from before with texts recorded over it: under some indices, texts of the subject from
some offset on. -/
structure RecordedOver (subject : Array Char) (low : Nat) (indices : List Nat)
    (before after : Captures) : Prop where
  /-- Other indices have what they had. -/
  others : ∀ index, index ∉ indices → after.get? index = before.get? index
  /-- No text is forgotten. -/
  bound : ∀ index, Bound index before → Bound index after
  /-- A text is there from before, or stands in the subject. -/
  texts : ∀ index text, after.get? index = some text → before.get? index = some text ∨
    ∃ first last, low ≤ first ∧ first ≤ last ∧ last ≤ subject.size ∧
      text = (subject.extract first last).toList

/-- Nothing need be recorded. -/
theorem RecordedOver.refl (subject : Array Char) (low : Nat) (indices : List Nat)
    (captures : Captures) : RecordedOver subject low indices captures captures :=
  ⟨fun _ _ => rfl, fun _ bound => bound, fun _ _ same => .inl same⟩

/-- One more text may be recorded. -/
theorem keptByRecording_recordedOver (subject : Array Char) (low : Nat) (indices : List Nat)
    (before : Captures) :
    KeptByRecording subject low indices (RecordedOver subject low indices before) := by
  intro own member captures first last after ordered inside recorded
  refine ⟨fun index apart => ?_, fun index bound => (recorded.bound index bound).record own _,
    fun index text captured => ?_⟩
  · have different : index ≠ own := fun same => apart (same ▸ member)
    rw [Captures.get?_record, if_neg different]
    exact recorded.others index apart
  · rw [Captures.get?_record] at captured
    by_cases same : index = own
    · rw [if_pos same, Option.some.injEq] at captured
      exact .inr ⟨first, last, after, ordered, inside, captured.symm⟩
    · rw [if_neg same] at captured
      exact recorded.texts index text captured

/-- Whether it succeeds or fails, an attempt leaves the table from before with texts recorded over it, each
for a group of the tree and each from the subject behind the offset of the attempt. A group that fails
leaves the table as it was. -/
theorem recordedOver_of_attempt (subject : Array Char) (node : Node) (start : State)
    (inside : start.offset ≤ subject.size) :
    RecordedOver subject start.offset node.indices start.captures
      (node.attempt subject start).state.captures ∧
    (∀ index branches, node = .group index branches →
      ∀ mismatch, (node.attempt subject start).result = .error mismatch →
        (node.attempt subject start).state.captures = start.captures) := by
  refine ⟨?recorded, ?failed⟩
  case recorded =>
    have kept := keptByRecording_recordedOver subject start.offset node.indices start.captures
    exact keeps_of_attemptWith node kept start (Nat.le_refl _) inside (.refl _ _ _ _)
  case failed =>
    intro index branches isGroup mismatch failed
    have same : node.attempt subject start =
        ⟨.error mismatch, (node.attempt subject start).state⟩ := by rw [← failed]
    subst isGroup
    exact congrArg State.captures (state_of_failed_group same)

/-- At the start of `xxy` the tree of `x+(x)\1` fails behind a group that has recorded a text. The table
from before has an old text for the group, and another one that is none of its business. A group around
the tree forgets what the group inside it recorded. -/
theorem recordedOver_of_failed_sequence :
    ∃ node : Node, (node.attempt "xxy".toList.toArray
        ⟨0, (Captures.empty.record 1 ['z']).record 3 ['y']⟩).state.captures.get? 1 = some ['x'] ∧
      RecordedOver "xxy".toList.toArray 0 [1] ((Captures.empty.record 1 ['z']).record 3 ['y'])
        (node.attempt "xxy".toList.toArray
          ⟨0, (Captures.empty.record 1 ['z']).record 3 ['y']⟩).state.captures ∧
      ((Node.group 2 [node]).attempt "xxy".toList.toArray
          ⟨0, (Captures.empty.record 1 ['z']).record 3 ['y']⟩).state.captures =
        (Captures.empty.record 1 ['z']).record 3 ['y'] := by
  let node : Node := .sequence [.repetition (.literal 'x') 1 none,
    .group 1 [.sequence [.literal 'x']], .backreference 1]
  let start : State := ⟨0, (Captures.empty.record 1 ['z']).record 3 ['y']⟩
  have ⟨recorded, _⟩ := recordedOver_of_attempt "xxy".toList.toArray node start (Nat.zero_le 3)
  have ⟨_, failed⟩ := recordedOver_of_attempt "xxy".toList.toArray (.group 2 [node]) start
    (Nat.zero_le 3)
  exact ⟨node, by rfl, recorded, failed 2 [node] rfl .noBranchMatched (by rfl)⟩

end Node
end PatternSearch
