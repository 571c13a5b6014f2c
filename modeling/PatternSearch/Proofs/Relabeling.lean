import PatternSearch.Proofs.Grammar

/-!
# Trees with other group indices

`Node.relabel` gives the groups of a tree other indices and leaves everything else in place, also what
the backreferences name. The parts and the indices of a tree are relabeled with it. Spellings do not
show the index of a group, so a tree and its relabeling are written alike (`spelledBy_relabel`) and may
stand in the same places (`Row.relabel`).
-/
namespace PatternSearch.Node

variable (index : Nat → Nat)

mutual

/-- The tree with other indices for its groups. What its backreferences name stays as it is. -/
def relabel : Node → Node
  | .startAnchor node => .startAnchor node.relabel
  | .endAnchor node => .endAnchor node.relabel
  | .repetition node min max => .repetition node.relabel min max
  | .group own branches => .group (index own) (relabelAll branches)
  | .sequence nodes => .sequence (relabelAll nodes)
  | leaf => leaf

/-- Each tree of a list with other indices for its groups. -/
def relabelAll : List Node → List Node
  | [] => []
  | node :: rest => node.relabel :: relabelAll rest

end

/-- The trees of a list are relabeled one by one. -/
theorem relabelAll_eq_map (nodes : List Node) : relabelAll index nodes = nodes.map (relabel index) := by
  induction nodes with
  | nil => rfl
  | cons node rest ih => rw [relabelAll, ih, List.map_cons]

/-- A backreference keeps its index. -/
@[simp] theorem relabel_backreference (own : Nat) :
    (backreference own).relabel index = .backreference own := rfl

/-- A group is relabeled with its branches. -/
@[simp] theorem relabel_group (own : Nat) (branches : List Node) :
    (group own branches).relabel index = .group (index own) (branches.map (relabel index)) := by
  rw [relabel, relabelAll_eq_map]

/-- A sequence is relabeled node by node. -/
@[simp] theorem relabel_sequence (nodes : List Node) :
    (sequence nodes).relabel index = .sequence (nodes.map (relabel index)) := by
  rw [relabel, relabelAll_eq_map]

mutual

/-- A tree whose groups are given the indices that they have stays as it is. -/
theorem relabel_id : (node : Node) → node.relabel id = node
  | .literal _ | .ofClass _ | .set _ _ | .backreference _ => rfl
  | .startAnchor node => by rw [relabel, relabel_id node]
  | .endAnchor node => by rw [relabel, relabel_id node]
  | .repetition node min max => by rw [relabel, relabel_id node]
  | .group own branches => by rw [relabel, relabelAll_id branches, id]
  | .sequence nodes => by rw [relabel, relabelAll_id nodes]

/-- So do the trees of a list. -/
theorem relabelAll_id : (nodes : List Node) → relabelAll id nodes = nodes
  | [] => rfl
  | node :: rest => by rw [relabelAll, relabel_id node, relabelAll_id rest]

end

/-- A node that matches one rune has no groups to relabel. -/
theorem relabel_of_isQuantifiable {node : Node} (single : node.isQuantifiable = true) :
    node.relabel index = node := by
  cases node <;> first | rfl | simp [isQuantifiable] at single

/-! ## Parts -/

mutual

/-- The parts of a relabeled tree are the parts of the tree, relabeled. -/
theorem parts_relabel : (node : Node) → (node.relabel index).parts = node.parts.map (relabel index)
  | .literal _ | .ofClass _ | .set _ _ | .backreference _ => rfl
  | .startAnchor node => by
    rw [relabel, parts_startAnchor, parts_startAnchor, parts_relabel node, List.map_cons, relabel]
  | .endAnchor node => by
    rw [relabel, parts_endAnchor, parts_endAnchor, parts_relabel node, List.map_cons, relabel]
  | .repetition node min max => by
    rw [relabel, parts_repetition, parts_repetition, parts_relabel node, List.map_cons, relabel]
  | .group own branches => by
    rw [relabel_group, parts_group, parts_group, flatMap_parts_relabel branches, List.map_cons,
      relabel_group]
  | .sequence nodes => by
    rw [relabel_sequence, parts_sequence, parts_sequence, flatMap_parts_relabel nodes, List.map_cons,
      relabel_sequence]

/-- So it is for trees one after another. -/
theorem flatMap_parts_relabel :
    (nodes : List Node) →
      (nodes.map (relabel index)).flatMap parts = (nodes.flatMap parts).map (relabel index)
  | [] => rfl
  | node :: rest => by
    rw [List.map_cons, List.flatMap_cons, parts_relabel node, flatMap_parts_relabel rest,
      List.flatMap_cons, List.map_append]

end

/-- The index of a relabeled group is the index that it is given. -/
theorem groupIndex?_relabel (node : Node) :
    (node.relabel index).groupIndex? = node.groupIndex?.map index := by
  cases node <;> rfl

/-- The groups of relabeled trees have the indices that they are given. -/
theorem flatMap_indices_relabel (nodes : List Node) :
    (nodes.map (relabel index)).flatMap indices = (nodes.flatMap indices).map index := by
  rw [← filterMap_groupIndex?_flatMap, ← filterMap_groupIndex?_flatMap, flatMap_parts_relabel,
    List.filterMap_map, List.map_filterMap]
  exact List.filterMap_congr fun node _ => groupIndex?_relabel index node

/-! ## Spellings -/

mutual

/-- A text writes a tree exactly when it writes the relabeled tree. -/
theorem spelledBy_relabel :
    (node : Node) → ∀ text, (node.relabel index).SpelledBy text ↔ node.SpelledBy text
  | .literal _, _ | .ofClass _, _ | .set _ _, _ | .backreference _, _ => Iff.rfl
  | .startAnchor node, text => by
    simp only [relabel, SpelledBy, spelledBy_relabel node]
  | .endAnchor node, text => by
    simp only [relabel, SpelledBy, spelledBy_relabel node]
  | .repetition node min max, text => by
    simp only [relabel, SpelledBy, spelledBy_relabel node]
  | .group own branches, text => by
    simp only [relabel_group, SpelledBy, branchesSpelledBy_relabel branches]
  | .sequence nodes, text => by
    simp only [relabel_sequence, SpelledBy, rowSpelledBy_relabel nodes]

/-- So it is for trees one after another. -/
theorem rowSpelledBy_relabel :
    (nodes : List Node) → ∀ text,
      RowSpelledBy (nodes.map (relabel index)) text ↔ RowSpelledBy nodes text
  | [], _ => Iff.rfl
  | node :: rest, text => by
    simp only [List.map_cons, RowSpelledBy, spelledBy_relabel node, rowSpelledBy_relabel rest]

/-- So it is for branches. -/
theorem branchesSpelledBy_relabel :
    (branches : List Node) → ∀ text,
      BranchesSpelledBy (branches.map (relabel index)) text ↔ BranchesSpelledBy branches text
  | [], _ => Iff.rfl
  | [branch], text => spelledBy_relabel branch text
  | branch :: next :: rest, text => by
    have later := branchesSpelledBy_relabel (next :: rest)
    rw [List.map_cons] at later
    simp only [List.map_cons, BranchesSpelledBy, spelledBy_relabel branch, later]

end

/-! ## Places -/

/-- Only a start anchor that anchors nothing is relabeled to one. -/
theorem eq_bareStartAnchor_of_relabel {node : Node}
    (bare : node.relabel index = .startAnchor (.sequence [])) : node = .startAnchor (.sequence []) := by
  cases node with
  | startAnchor inner =>
    cases inner with
    | sequence nodes =>
      cases nodes with
      | nil => rfl
      | cons node rest => simp [relabel, relabelAll] at bare
    | _ => simp [relabel] at bare
  | _ => simp [relabel] at bare

mutual

/-- A relabeled tree may stand between anchors when the tree may. -/
theorem Operand.relabel : {node : Node} → Operand node → Operand (node.relabel index)
  | _, .literal rune => .literal rune
  | _, .ofClass kind => .ofClass kind
  | _, .set negated nonempty written => .set negated nonempty written
  | _, .optional single operand => by
    rw [Node.relabel, relabel_of_isQuantifiable index single]
    exact .optional single operand
  | _, .onceOrMore single operand => by
    rw [Node.relabel, relabel_of_isQuantifiable index single]
    exact .onceOrMore single operand
  | _, .backreference positive digit => .backreference positive digit
  | _, .group own nonempty each => by
    rw [relabel_group]
    refine .group (index own) (fun none => nonempty (List.map_eq_nil_iff.1 none)) fun branch member => ?_
    have ⟨original, isBranch, same⟩ := List.mem_map.1 member
    rw [← same]
    exact (each original isBranch).relabel

/-- It may be an element when the tree may. -/
theorem Piece.relabel :
    {first : Bool} → {node : Node} → Piece first node → Piece first (node.relabel index)
  | _, _, .operand operand => .operand operand.relabel
  | _, _, .startAnchor operand => .startAnchor operand.relabel
  | _, _, .bareStartAnchor => .bareStartAnchor
  | _, _, .endAnchor piece => .endAnchor piece.relabel

/-- It may be a branch when the tree may. -/
theorem Row.relabel : {node : Node} → Row node → Row (node.relabel index)
  | _, .empty => .empty
  | _, .cons first last later => by
    rw [relabel_sequence]
    refine .cons first.relabel (fun bare => ?_) fun node member => ?_
    · rw [last (eq_bareStartAnchor_of_relabel index bare), List.map_nil]
    · have ⟨original, isElement, same⟩ := List.mem_map.1 member
      rw [← same]
      exact (later original isElement).relabel

end

end PatternSearch.Node
