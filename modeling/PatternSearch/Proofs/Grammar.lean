import PatternSearch.Node.Leaf
import PatternSearch.Proofs.Parts

/-!
# The grammar of patterns

Two things are said here about pattern trees without any word on how a text is read.

`Node.SpelledBy` says which texts write a tree. A tree may have several spellings, since a rune may be
escaped where it need not be. `Node.WrittenBy` is the same for a whole pattern, whose outermost
alternation stands without parentheses.

`Node.WellFormed` says which trees are written at all: what a quantifier may stand behind, where
anchors may stand, and how groups are numbered.
-/
namespace PatternSearch

/-- The runes that do not stand for themselves outside a set, unless they are escaped. -/
def operators : List Char := ['\\', '.', '[', '(', ')', '|', '?', '+', '^', '$']

/-- How a class is written. -/
def Rune.Class.spelling : Rune.Class → Text
  | .digit => ['\\', 'd']
  | .word => ['\\', 'w']
  | .any => ['.']

/-- A text writes a member inside a set. A rune that would end the set or begin an escape is written
with a backslash, and any rune may be, save those that would write a class. -/
def SetMember.SpelledBy : SetMember → Text → Prop
  | .literal rune, text =>
    rune ≠ ']' ∧ rune ≠ '\\' ∧ text = [rune] ∨ rune ≠ 'd' ∧ rune ≠ 'w' ∧ text = ['\\', rune]
  | .ofClass kind, text => text = kind.spelling

/-- A text writes members one after another. -/
def SetMember.AllSpelledBy : List SetMember → Text → Prop
  | [], text => text = []
  | member :: rest, text =>
    ∃ first later, member.SpelledBy first ∧ AllSpelledBy rest later ∧ text = first ++ later

namespace Node

/-! ## Spellings -/

/-- A text writes the inside of a set, from behind the bracket that opens it up to the one that closes
it. What is not negated must not begin as if it were. -/
def MembersSpelledBy (members : List SetMember) (negated : Bool) (text : Text) : Prop :=
  ∃ inside, SetMember.AllSpelledBy members inside ∧
    if negated then text = '^' :: inside else text = inside ∧ inside.head? ≠ some '^'

mutual

/-- A text writes a tree, with parentheses around every group. -/
def SpelledBy : Node → Text → Prop
  | .literal rune, text =>
    rune ∉ operators ∧ text = [rune] ∨ rune ∈ metacharacters ∧ text = ['\\', rune]
  | .ofClass kind, text => text = kind.spelling
  | .set members negated, text =>
    ∃ inside, MembersSpelledBy members negated inside ∧ text = '[' :: inside ++ [']']
  | .startAnchor node, text => ∃ inside, node.SpelledBy inside ∧ text = '^' :: inside
  | .endAnchor node, text => ∃ inside, node.SpelledBy inside ∧ text = inside ++ ['$']
  | .repetition node min max, text =>
    ∃ inside, node.SpelledBy inside ∧
      (min = 0 ∧ max = some 1 ∧ text = inside ++ ['?'] ∨ min = 1 ∧ max = none ∧ text = inside ++ ['+'])
  | .group _ branches, text =>
    ∃ inside, BranchesSpelledBy branches inside ∧ text = '(' :: inside ++ [')']
  | .backreference index, text => text = ['\\', index.digitChar]
  | .sequence nodes, text => RowSpelledBy nodes text

/-- A text writes trees one after another. -/
def RowSpelledBy : List Node → Text → Prop
  | [], text => text = []
  | node :: rest, text =>
    ∃ first later, node.SpelledBy first ∧ RowSpelledBy rest later ∧ text = first ++ later

/-- A text writes branches with bars between them. -/
def BranchesSpelledBy : List Node → Text → Prop
  | [], _ => False
  | [branch], text => branch.SpelledBy text
  | branch :: next :: rest, text =>
    ∃ first later, branch.SpelledBy first ∧ BranchesSpelledBy (next :: rest) later ∧
      text = first ++ '|' :: later

end

/-- A text writes the tree of a whole pattern: the branches of the group with index zero stand without
parentheses. -/
def WrittenBy : Node → Text → Prop
  | .group 0 branches, text => BranchesSpelledBy branches text
  | tree, text => tree.SpelledBy text

/-! ## Well-formed trees -/

mutual

/-- What stands between the anchors of a pattern. -/
inductive Operand : Node → Prop
  /-- A rune. -/
  | literal (rune : Char) : Operand (.literal rune)
  /-- A class. -/
  | ofClass (kind : Rune.Class) : Operand (.ofClass kind)
  /-- A set of at least one member, each a rune, a digit class or a word class. -/
  | set {members : List SetMember} (negated : Bool) (nonempty : members ≠ [])
      (written : .ofClass .any ∉ members) : Operand (.set members negated)
  /-- At most one rune. -/
  | optional {node : Node} (single : node.isQuantifiable = true) (operand : Operand node) :
      Operand (.repetition node 0 (some 1))
  /-- At least one rune. -/
  | onceOrMore {node : Node} (single : node.isQuantifiable = true) (operand : Operand node) :
      Operand (.repetition node 1 none)
  /-- The text of a group whose index is one digit. -/
  | backreference {index : Nat} (positive : 1 ≤ index) (digit : index ≤ 9) :
      Operand (.backreference index)
  /-- A group of at least one branch. -/
  | group (index : Nat) {branches : List Node} (nonempty : branches ≠ [])
      (each : ∀ branch ∈ branches, Row branch) : Operand (.group index branches)

/-- An element of a sequence. Only the first one may begin with a start anchor, perhaps one that
anchors nothing. -/
inductive Piece : (first : Bool) → Node → Prop
  /-- An element without anchors. -/
  | operand {first : Bool} {node : Node} (operand : Operand node) : Piece first node
  /-- A first element after a start anchor. -/
  | startAnchor {node : Node} (operand : Operand node) : Piece true (.startAnchor node)
  /-- A start anchor without an element. -/
  | bareStartAnchor : Piece true (.startAnchor (.sequence []))
  /-- An element before an end anchor. -/
  | endAnchor {first : Bool} {node : Node} (piece : Piece first node) :
      Piece first (.endAnchor node)

/-- A branch: a sequence of elements, in which nothing stands behind a start anchor that anchors
nothing. -/
inductive Row : Node → Prop
  /-- No elements. -/
  | empty : Row (.sequence [])
  /-- A first element and those behind it. -/
  | cons {head : Node} {rest : List Node} (first : Piece true head)
      (last : head = .startAnchor (.sequence []) → rest = [])
      (later : ∀ node ∈ rest, Piece false node) : Row (.sequence (head :: rest))

end

/-- The tree of a whole pattern with so many numbered groups: a branch, or the group with index zero
around several of them. The other groups are numbered from one on in the order in which they open. -/
inductive WellFormed : Node → (count : Nat) → Prop
  /-- A pattern of one branch. -/
  | branch {tree : Node} {count : Nat} (row : Row tree)
      (numbered : tree.indices = List.range' 1 count) : WellFormed tree count
  /-- A pattern of several branches. -/
  | alternation {branches : List Node} {count : Nat} (several : 2 ≤ branches.length)
      (each : ∀ branch ∈ branches, Row branch)
      (numbered : branches.flatMap indices = List.range' 1 count) :
      WellFormed (.group 0 branches) count

/-! ## Parts of well-formed trees -/

/-- A tree that may stand somewhere in a pattern: as an element, or as a branch. -/
def Placed (node : Node) : Prop := (∃ first, Piece first node) ∨ Row node

mutual

/-- Whatever stands inside an element without anchors may stand in a pattern. -/
theorem placed_of_operand :
    {node : Node} → Operand node → ∀ part ∈ node.parts, Placed part
  | _, .literal rune, part, member => by
    rw [List.mem_singleton.1 member]
    exact .inl ⟨false, .operand (.literal rune)⟩
  | _, .ofClass kind, part, member => by
    rw [List.mem_singleton.1 member]
    exact .inl ⟨false, .operand (.ofClass kind)⟩
  | _, .set negated nonempty written, part, member => by
    rw [List.mem_singleton.1 member]
    exact .inl ⟨false, .operand (.set negated nonempty written)⟩
  | _, .backreference positive digit, part, member => by
    rw [List.mem_singleton.1 member]
    exact .inl ⟨false, .operand (.backreference positive digit)⟩
  | _, .optional single operand, part, member => by
    rw [parts_repetition] at member
    rcases List.mem_cons.1 member with rfl | inside
    · exact .inl ⟨false, .operand (.optional single operand)⟩
    · exact placed_of_operand operand part inside
  | _, .onceOrMore single operand, part, member => by
    rw [parts_repetition] at member
    rcases List.mem_cons.1 member with rfl | inside
    · exact .inl ⟨false, .operand (.onceOrMore single operand)⟩
    · exact placed_of_operand operand part inside
  | _, .group index nonempty each, part, member => by
    rw [parts_group] at member
    rcases List.mem_cons.1 member with rfl | inside
    · exact .inl ⟨false, .operand (.group index nonempty each)⟩
    · obtain ⟨branch, isBranch, deep⟩ := List.mem_flatMap.1 inside
      exact placed_of_row (each branch isBranch) part deep

/-- So may whatever stands inside an element with its anchors. -/
theorem placed_of_piece :
    {first : Bool} → {node : Node} → Piece first node → ∀ part ∈ node.parts, Placed part
  | _, _, .operand operand, part, member => placed_of_operand operand part member
  | _, _, .startAnchor operand, part, member => by
    rw [parts_startAnchor] at member
    rcases List.mem_cons.1 member with rfl | inside
    · exact .inl ⟨true, .startAnchor operand⟩
    · exact placed_of_operand operand part inside
  | _, _, .bareStartAnchor, part, member => by
    rw [parts_startAnchor] at member
    rcases List.mem_cons.1 member with rfl | inside
    · exact .inl ⟨true, .bareStartAnchor⟩
    · rw [List.mem_singleton.1 inside]
      exact .inr .empty
  | first, _, .endAnchor piece, part, member => by
    rw [parts_endAnchor] at member
    rcases List.mem_cons.1 member with rfl | inside
    · exact .inl ⟨first, .endAnchor piece⟩
    · exact placed_of_piece piece part inside

/-- So may whatever stands inside a branch. -/
theorem placed_of_row : {node : Node} → Row node → ∀ part ∈ node.parts, Placed part
  | _, .empty, part, member => by
    rw [List.mem_singleton.1 member]
    exact .inr .empty
  | _, .cons first last later, part, member => by
    rw [parts_sequence, List.flatMap_cons] at member
    rcases List.mem_cons.1 member with rfl | inside
    · exact .inr (.cons first last later)
    · rcases List.mem_append.1 inside with inHead | inRest
      · exact placed_of_piece first part inHead
      · obtain ⟨node, isElement, deep⟩ := List.mem_flatMap.1 inRest
        exact placed_of_piece (later node isElement) part deep

end

/-- Whatever stands inside a well-formed tree may stand in a pattern. -/
theorem WellFormed.placed {tree : Node} {count : Nat} (wellFormed : WellFormed tree count) :
    ∀ part ∈ tree.parts, Placed part := by
  cases wellFormed with
  | branch row numbered => exact placed_of_row row
  | alternation several each numbered =>
    have nonempty := List.ne_nil_of_length_pos (Nat.lt_of_lt_of_le Nat.zero_lt_two several)
    exact placed_of_operand (.group 0 nonempty each)

/-- Only elements are repeated that match one rune, at most once or at least once. -/
theorem Placed.of_repetition {node : Node} {min : Nat} {max : Option Nat}
    (placed : Placed (.repetition node min max)) :
    node.isQuantifiable = true ∧ (min = 0 ∧ max = some 1 ∨ min = 1 ∧ max = none) := by
  rcases placed with ⟨first, piece⟩ | row
  · cases piece with
    | operand operand => cases operand with
      | optional single _ => exact ⟨single, .inl ⟨rfl, rfl⟩⟩
      | onceOrMore single _ => exact ⟨single, .inr ⟨rfl, rfl⟩⟩
  · cases row

/-- Groups have branches. -/
theorem Placed.of_group {index : Nat} {branches : List Node}
    (placed : Placed (.group index branches)) :
    branches ≠ [] ∧ ∀ branch ∈ branches, Row branch := by
  rcases placed with ⟨first, piece⟩ | row
  · cases piece with
    | operand operand => cases operand with
      | group _ nonempty each => exact ⟨nonempty, each⟩
  · cases row

/-- Backreferences are written with one digit. -/
theorem Placed.of_backreference {index : Nat} (placed : Placed (.backreference index)) :
    1 ≤ index ∧ index ≤ 9 := by
  rcases placed with ⟨first, piece⟩ | row
  · cases piece with
    | operand operand => cases operand with
      | backreference positive digit => exact ⟨positive, digit⟩
  · cases row

/-- The groups of a well-formed tree are numbered up to their count. -/
theorem WellFormed.index_le {tree : Node} {count index : Nat} (wellFormed : WellFormed tree count)
    (member : index ∈ tree.indices) : index ≤ count := by
  have numbered : index = 0 ∨ index ∈ List.range' 1 count := by
    cases wellFormed with
    | branch row numbered =>
      rw [numbered] at member
      exact .inr member
    | alternation several each numbered =>
      rw [indices_group, numbered] at member
      exact List.mem_cons.1 member
  rcases numbered with zero | member
  · omega
  · rw [List.mem_range'_1] at member
    omega

/-- A well-formed tree has a group with index zero only around all of it. -/
theorem WellFormed.alternation_of_zero_mem {tree : Node} {count : Nat}
    (wellFormed : WellFormed tree count) (member : 0 ∈ tree.indices) :
    ∃ branches, 2 ≤ branches.length ∧ tree = .group 0 branches := by
  cases wellFormed with
  | branch row numbered =>
    rw [numbered, List.mem_range'_1] at member
    omega
  | @alternation branches count several each numbered => exact ⟨branches, several, rfl⟩

/-- A branch is a sequence. -/
theorem Row.exists_nodes {node : Node} (row : Row node) : ∃ nodes, node = .sequence nodes := by
  cases row with
  | empty => exact ⟨[], rfl⟩
  | cons => exact ⟨_, rfl⟩

end Node
end PatternSearch
