import PatternSearch.Rune.Class

/-!
# Pattern trees

A compiled pattern is a tree of nodes. `Node.isQuantifiable` says which nodes a quantifier may
follow, `Node.description` names a node in an error message, and `Node.outline` lists a tree in
preorder with the depth of every node.

Reading a pattern builds only some of the trees of this type: a repetition is of a node that matches
one rune, and the branches of a group are sequences. The matching engine gives every tree a meaning.
-/
namespace PatternSearch

/-- One member of a set: a rune, or a class of runes. -/
inductive SetMember where
  /-- The rune itself. -/
  | literal (rune : Char)
  /-- Every rune of the class. -/
  | ofClass (kind : Rune.Class)
  deriving DecidableEq, Repr

/-- Whether a set member holds a rune. -/
def SetMember.contains : SetMember → Char → Bool
  | .literal own, rune => own == rune
  | .ofClass kind, rune => kind.contains rune

/-- A pattern tree. -/
inductive Node where
  /-- Exactly this rune. -/
  | literal (rune : Char)
  /-- Any rune of the class. -/
  | ofClass (kind : Rune.Class)
  /-- Any rune that some member holds or, when negated, that no member holds. -/
  | set (members : List SetMember) (negated : Bool)
  /-- `^`: the node, beginning where the subject begins. -/
  | startAnchor (node : Node)
  /-- `$`: the node, ending where the subject ends. -/
  | endAnchor (node : Node)
  /-- The node over and over, as often as it matches, at least `min` and at most `max` times. -/
  | repetition (node : Node) (min : Nat) (max : Option Nat)
  /-- The first branch that matches; the group with this index captures its text. -/
  | group (index : Nat) (branches : List Node)
  /-- The text that the group with this index captured last. -/
  | backreference (index : Nat)
  /-- The nodes one after another. -/
  | sequence (nodes : List Node)

namespace Node

/-- The node or nothing, written `?`. -/
def optional (node : Node) : Node := .repetition node 0 (some 1)

/-- The node once or more, written `+`. -/
def onceOrMore (node : Node) : Node := .repetition node 1 none

/-- Whether a quantifier may follow the node: it may where the node matches one rune. -/
def isQuantifiable : Node → Bool
  | .literal _ | .ofClass _ | .set _ _ => true
  | _ => false

/-- A short name of the kind of node. -/
def description : Node → String
  | .literal _ => "a literal"
  | .ofClass _ => "a character class"
  | .set _ _ => "a character set"
  | .startAnchor _ => "a start anchor"
  | .endAnchor _ => "an end anchor"
  | .repetition _ _ _ => "a quantified element"
  | .group _ _ => "a group"
  | .backreference _ => "a backreference"
  | .sequence _ => "a sequence"

mutual

/-- The tree in preorder, each node with its depth below a root at `depth`. -/
def outline (depth : Nat) : Node → List (Nat × Node)
  | .startAnchor node => (depth, .startAnchor node) :: node.outline (depth + 1)
  | .endAnchor node => (depth, .endAnchor node) :: node.outline (depth + 1)
  | .repetition node min max =>
    (depth, .repetition node min max) :: node.outline (depth + 1)
  | .group index branches => (depth, .group index branches) :: outlines (depth + 1) branches
  | .sequence nodes => (depth, .sequence nodes) :: outlines (depth + 1) nodes
  | leaf => [(depth, leaf)]

/-- The trees of a list in preorder, one after another, each with its root at `depth`. -/
def outlines (depth : Nat) : List Node → List (Nat × Node)
  | [] => []
  | node :: rest => node.outline depth ++ outlines depth rest

end

end Node
end PatternSearch
