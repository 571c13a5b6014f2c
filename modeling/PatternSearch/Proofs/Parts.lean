import Mathlib.Data.List.Basic
import PatternSearch.Attempt.Node
import PatternSearch.Node.Equality

/-!
# Parts of a pattern tree

`Node.parts` lists a tree and everything inside it in preorder. What a tree contains is said through
its parts: a tree has no backreference when no part is one, and `Node.indices` are the indices of
the parts that are groups.

`Node.accepts` is the condition of a node that matches one rune, and `Node.givesBack` says after
which nodes of a sequence an element that fails is tried again.
-/
namespace PatternSearch.Node

mutual

/-- The preorder of a tree does not depend on the depth at which its root is written. -/
theorem map_snd_outline (depth : Nat) :
    (node : Node) → (node.outline depth).map (·.2) = (node.outline 0).map (·.2)
  | .literal _ | .ofClass _ | .set _ _ | .backreference _ => by simp [outline]
  | .startAnchor node => by
    simp only [outline, List.map_cons, map_snd_outline (depth + 1) node,
      map_snd_outline (0 + 1) node]
  | .endAnchor node => by
    simp only [outline, List.map_cons, map_snd_outline (depth + 1) node,
      map_snd_outline (0 + 1) node]
  | .repetition node _ _ => by
    simp only [outline, List.map_cons, map_snd_outline (depth + 1) node,
      map_snd_outline (0 + 1) node]
  | .group _ branches => by
    simp only [outline, List.map_cons, map_snd_outlines (depth + 1) branches,
      map_snd_outlines (0 + 1) branches]
  | .sequence nodes => by
    simp only [outline, List.map_cons, map_snd_outlines (depth + 1) nodes,
      map_snd_outlines (0 + 1) nodes]

/-- The preorder of a list of trees does not depend on the depth of their roots. -/
theorem map_snd_outlines (depth : Nat) :
    (nodes : List Node) → (outlines depth nodes).map (·.2) = (outlines 0 nodes).map (·.2)
  | [] => rfl
  | node :: rest => by
    simp only [outlines, List.map_append, map_snd_outline depth node, map_snd_outlines depth rest]

end

/-- The tree and everything inside it, in preorder. -/
def parts (node : Node) : List Node := (node.outline 0).map (·.2)

/-- The preorder of a list of trees is that of the trees one after another. -/
theorem map_snd_outlines_eq (depth : Nat) (nodes : List Node) :
    (outlines depth nodes).map (·.2) = nodes.flatMap parts := by
  induction nodes with
  | nil => rfl
  | cons node rest ih =>
    rw [outlines, List.map_append, map_snd_outline, ih, List.flatMap_cons, parts]

/-- A literal is its only part. -/
@[simp] theorem parts_literal (rune : Char) : (literal rune).parts = [.literal rune] := rfl

/-- A class is its only part. -/
@[simp] theorem parts_ofClass (kind : Rune.Class) : (ofClass kind).parts = [.ofClass kind] := rfl

/-- A set is its only part. -/
@[simp] theorem parts_set (members : List SetMember) (negated : Bool) :
    (set members negated).parts = [.set members negated] := rfl

/-- A backreference is its only part. -/
@[simp] theorem parts_backreference (index : Nat) :
    (backreference index).parts = [.backreference index] := rfl

/-- The parts of a start anchor are itself and those of its node. -/
@[simp] theorem parts_startAnchor (node : Node) :
    (startAnchor node).parts = .startAnchor node :: node.parts := by
  simp only [parts, outline, List.map_cons, map_snd_outline (0 + 1)]

/-- The parts of an end anchor are itself and those of its node. -/
@[simp] theorem parts_endAnchor (node : Node) :
    (endAnchor node).parts = .endAnchor node :: node.parts := by
  simp only [parts, outline, List.map_cons, map_snd_outline (0 + 1)]

/-- The parts of a repetition are itself and those of its node. -/
@[simp] theorem parts_repetition (node : Node) (min : Nat) (max : Option Nat) :
    (repetition node min max).parts = .repetition node min max :: node.parts := by
  simp only [parts, outline, List.map_cons, map_snd_outline (0 + 1)]

/-- The parts of a group are itself and those of its branches. -/
@[simp] theorem parts_group (index : Nat) (branches : List Node) :
    (group index branches).parts = .group index branches :: branches.flatMap parts := by
  rw [parts, outline, List.map_cons, map_snd_outlines_eq]

/-- The parts of a sequence are itself and those of its nodes. -/
@[simp] theorem parts_sequence (nodes : List Node) :
    (sequence nodes).parts = .sequence nodes :: nodes.flatMap parts := by
  rw [parts, outline, List.map_cons, map_snd_outlines_eq]

/-- A tree is a part of itself. -/
theorem mem_parts_self (node : Node) : node ∈ node.parts := by
  cases node <;> simp

/-- What is inside a node is inside a start anchor around it. -/
theorem parts_subset_startAnchor (node : Node) : node.parts ⊆ (startAnchor node).parts := by
  rw [parts_startAnchor]
  exact List.subset_cons_self _ _

/-- What is inside a node is inside an end anchor around it. -/
theorem parts_subset_endAnchor (node : Node) : node.parts ⊆ (endAnchor node).parts := by
  rw [parts_endAnchor]
  exact List.subset_cons_self _ _

/-- What is inside a node is inside a repetition of it. -/
theorem parts_subset_repetition (node : Node) (min : Nat) (max : Option Nat) :
    node.parts ⊆ (repetition node min max).parts := by
  rw [parts_repetition]
  exact List.subset_cons_self _ _

/-- What is inside a branch is inside its group. -/
theorem parts_subset_group (index : Nat) {branch : Node} {branches : List Node}
    (member : branch ∈ branches) : branch.parts ⊆ (group index branches).parts := by
  intro part inside
  rw [parts_group]
  exact List.mem_cons_of_mem _ (List.mem_flatMap.2 ⟨branch, member, inside⟩)

/-- What is inside an element is inside its sequence. -/
theorem parts_subset_sequence {node : Node} {nodes : List Node} (member : node ∈ nodes) :
    node.parts ⊆ (sequence nodes).parts := by
  intro part inside
  rw [parts_sequence]
  exact List.mem_cons_of_mem _ (List.mem_flatMap.2 ⟨node, member, inside⟩)

mutual

/-- What is inside a part of a tree is inside the tree. -/
theorem parts_trans :
    (node : Node) → ∀ inner ∈ node.parts, ∀ part ∈ inner.parts, part ∈ node.parts
  | .literal _, inner, member, part, inside | .ofClass _, inner, member, part, inside
  | .set _ _, inner, member, part, inside | .backreference _, inner, member, part, inside => by
    cases List.mem_singleton.1 member
    exact inside
  | .startAnchor node, inner, member, part, inside => by
    rw [parts_startAnchor] at member
    rcases List.mem_cons.1 member with rfl | deep
    · exact inside
    · rw [parts_startAnchor]
      exact List.mem_cons_of_mem _ (parts_trans node inner deep part inside)
  | .endAnchor node, inner, member, part, inside => by
    rw [parts_endAnchor] at member
    rcases List.mem_cons.1 member with rfl | deep
    · exact inside
    · rw [parts_endAnchor]
      exact List.mem_cons_of_mem _ (parts_trans node inner deep part inside)
  | .repetition node min max, inner, member, part, inside => by
    rw [parts_repetition] at member
    rcases List.mem_cons.1 member with rfl | deep
    · exact inside
    · rw [parts_repetition]
      exact List.mem_cons_of_mem _ (parts_trans node inner deep part inside)
  | .group index branches, inner, member, part, inside => by
    rw [parts_group] at member
    rcases List.mem_cons.1 member with rfl | deep
    · exact inside
    · rw [parts_group]
      exact List.mem_cons_of_mem _ (flatMap_parts_trans branches inner deep part inside)
  | .sequence nodes, inner, member, part, inside => by
    rw [parts_sequence] at member
    rcases List.mem_cons.1 member with rfl | deep
    · exact inside
    · rw [parts_sequence]
      exact List.mem_cons_of_mem _ (flatMap_parts_trans nodes inner deep part inside)

/-- So it is for trees one after another. -/
theorem flatMap_parts_trans :
    (nodes : List Node) → ∀ inner ∈ nodes.flatMap parts, ∀ part ∈ inner.parts,
      part ∈ nodes.flatMap parts
  | [], inner, member, _, _ => by cases member
  | node :: rest, inner, member, part, inside => by
    rw [List.flatMap_cons] at member ⊢
    rcases List.mem_append.1 member with here | later
    · exact List.mem_append_left _ (parts_trans node inner here part inside)
    · exact List.mem_append_right _ (flatMap_parts_trans rest inner later part inside)

end

/-- No part of the tree is a backreference. -/
def BackreferenceFree (node : Node) : Prop := ∀ index, .backreference index ∉ node.parts

/-- What is inside a tree without backreferences has none either. -/
theorem BackreferenceFree.of_parts {outer inner : Node} (free : outer.BackreferenceFree)
    (inside : inner.parts ⊆ outer.parts) : inner.BackreferenceFree :=
  fun index member => free index (inside member)

/-- The index of a group. -/
def groupIndex? : Node → Option Nat
  | .group index _ => some index
  | _ => none

/-- The indices of the groups in a tree, in preorder. -/
def indices (node : Node) : List Nat := node.parts.filterMap groupIndex?

/-- A start anchor is no group. -/
@[simp] theorem indices_startAnchor (node : Node) : (startAnchor node).indices = node.indices := by
  rw [indices, parts_startAnchor, List.filterMap_cons_none (by rfl), indices]

/-- An end anchor is no group. -/
@[simp] theorem indices_endAnchor (node : Node) : (endAnchor node).indices = node.indices := by
  rw [indices, parts_endAnchor, List.filterMap_cons_none (by rfl), indices]

/-- A repetition is no group. -/
@[simp] theorem indices_repetition (node : Node) (min : Nat) (max : Option Nat) :
    (repetition node min max).indices = node.indices := by
  rw [indices, parts_repetition, List.filterMap_cons_none (by rfl), indices]

/-- A backreference is no group. -/
@[simp] theorem indices_backreference (index : Nat) : (backreference index).indices = [] := rfl

/-- The groups in a list of trees are those of the trees one after another. -/
theorem filterMap_groupIndex?_flatMap (nodes : List Node) :
    (nodes.flatMap parts).filterMap groupIndex? = nodes.flatMap indices := by
  induction nodes with
  | nil => rfl
  | cons node rest ih => rw [List.flatMap_cons, List.filterMap_append, ih, List.flatMap_cons, indices]

/-- A group opens before those in its branches. -/
@[simp] theorem indices_group (index : Nat) (branches : List Node) :
    (group index branches).indices = index :: branches.flatMap indices := by
  rw [indices, parts_group, List.filterMap_cons_some (by rfl), filterMap_groupIndex?_flatMap]

/-- The groups of a sequence are those of its nodes, in order. -/
@[simp] theorem indices_sequence (nodes : List Node) :
    (sequence nodes).indices = nodes.flatMap indices := by
  rw [indices, parts_sequence, List.filterMap_cons_none (by rfl), filterMap_groupIndex?_flatMap]

/-- Whether a node that matches one rune accepts the rune. -/
def accepts : Node → Char → Bool
  | .literal own, rune => rune == own
  | .ofClass kind, rune => kind.contains rune
  | .set members negated, rune => members.any (·.contains rune) != negated
  | _, _ => false

/-- A node that matches one rune contains no group. -/
theorem indices_eq_nil_of_isQuantifiable {node : Node} (single : node.isQuantifiable = true) :
    node.indices = [] := by
  cases node <;> first | rfl | simp [isQuantifiable] at single

/-- Whether a success of the node may leave rounds to give back: that of a repetition does, also
behind start anchors. -/
def givesBack : Node → Bool
  | .repetition _ _ _ => true
  | .startAnchor node => node.givesBack
  | _ => false

/-- The node without the anchors around it. -/
def unanchored : Node → Node
  | .startAnchor node => node.unanchored
  | .endAnchor node => node.unanchored
  | node => node

end PatternSearch.Node
