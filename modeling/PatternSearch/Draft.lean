import PatternSearch.Node.Leaf

/-!
# Patterns being read

A draft is a pattern whose text has been read up to some token: the alternation that is being
written, the groups that are open around it, and what the latest token left unfinished.
`Draft.read` takes one more token into the draft, `Draft.finish` turns a draft at the end of the
text into the tree of the pattern and the number of its groups.

Every token is looked at once and decides by itself, with the draft, what it means. An error is
therefore found at the first token that no continuation of the text could mend, and only open groups
and sets are found at the end.

Indices are given to groups as they open, so an outer group has a smaller index than the groups
inside it. A start anchor is read before the element that it anchors, an end anchor after it. A
quantifier is read after its element, which is therefore left unfinished until the next token.
-/
namespace PatternSearch

/-- An alternation being read: its branches, and the elements of the latest branch. -/
structure Alternation where
  /-- The branches that a `|` has ended, latest first. -/
  branches : List Node
  /-- The finished elements of the branch being read, latest first. -/
  elements : List Node

namespace Alternation

/-- An alternation in front of its first element. -/
def empty : Alternation := ⟨[], []⟩

/-- The alternation with one more finished element. -/
def push (alternation : Alternation) (node : Node) : Alternation :=
  { alternation with elements := node :: alternation.elements }

/-- The branches of the alternation, the one being read included, in order. -/
def allBranches (alternation : Alternation) : List Node :=
  (.sequence alternation.elements.reverse :: alternation.branches).reverse

/-- The alternation in front of the first element of a further branch. -/
def nextBranch (alternation : Alternation) : Alternation :=
  ⟨.sequence alternation.elements.reverse :: alternation.branches, []⟩

end Alternation

/-- A group that is open. -/
structure OpenGroup where
  /-- The offset of its opening parenthesis. -/
  offset : Nat
  /-- Its index. -/
  index : Nat
  /-- Whether a start anchor stands in front of it. -/
  anchored : Bool
  /-- The alternation that it is an element of. -/
  outside : Alternation

/-- What the latest token left unfinished. -/
inductive Draft.Focus where
  /-- Nothing: an element may begin. -/
  | element
  /-- A start anchor that has not met its element. -/
  | anchor
  /-- A node, perhaps after a start anchor, that a quantifier may follow. -/
  | atom (anchored : Bool) (node : Node)
  /-- A set, opened at an offset, of which nothing is read. -/
  | openedSet (anchored : Bool) (opened : Nat)
  /-- A set with members, latest first. -/
  | set (anchored : Bool) (opened : Nat) (negated : Bool) (members : List SetMember)

/-- A pattern whose text has been read in part. -/
structure Draft where
  /-- The number of groups opened so far. -/
  groupCount : Nat
  /-- The groups that are open, innermost first. -/
  enclosing : List OpenGroup
  /-- The innermost alternation. -/
  alternation : Alternation
  /-- What the latest token left unfinished. -/
  focus : Draft.Focus

namespace Draft

/-- A draft of which nothing is read. -/
def empty : Draft := ⟨0, [], .empty, .element⟩

/-- A node after a start anchor, if one stands in front of it. -/
def anchor (anchored : Bool) (node : Node) : Node :=
  if anchored then .startAnchor node else node

/-- The draft with a finished element. -/
def push (draft : Draft) (node : Node) : Draft :=
  { draft with alternation := draft.alternation.push node, focus := .element }

/-- The draft with its unfinished element finished as it stands. A start anchor without an element
anchors the empty sequence. -/
def settle (draft : Draft) : Draft :=
  match draft.focus with
  | .anchor => draft.push (.startAnchor (.sequence []))
  | .atom anchored node => draft.push (anchor anchored node)
  | _ => draft

/-- Whether a start anchor in front of the token has no element to anchor. -/
def endsAnchor : Token → Bool
  | .plain ')' | .plain '|' | .plain '$' => true
  | _ => false

/-- Close the innermost group at a closing parenthesis. -/
def closeGroup (draft : Draft) (offset : Nat) : Except PatternError Draft :=
  match draft.enclosing with
  | [] => .error ⟨offset, .unmatchedParenthesis⟩
  | group :: enclosing =>
    .ok { draft with
      enclosing
      alternation := group.outside
      focus := .atom group.anchored (.group group.index draft.alternation.allBranches) }

/-- Anchor the latest element at an end anchor. -/
def anchorEnd (draft : Draft) (offset : Nat) : Except PatternError Draft :=
  match draft.alternation.elements with
  | [] => .error ⟨offset, .danglingEndAnchor⟩
  | latest :: earlier =>
    .ok { draft with
      alternation := { draft.alternation with elements := .endAnchor latest :: earlier } }

/-- Begin an element, perhaps after a start anchor, with a token. -/
def readAtom (draft : Draft) (anchored : Bool) (offset : Nat) (token : Token) :
    Except PatternError Draft :=
  match token with
  | .plain '(' =>
    .ok ⟨draft.groupCount + 1,
      ⟨offset, draft.groupCount + 1, anchored, draft.alternation⟩ :: draft.enclosing,
      .empty, .element⟩
  | .plain '[' => .ok { draft with focus := .openedSet anchored offset }
  | token =>
    match Node.ofToken token with
    | .ok node => .ok { draft with focus := .atom anchored node }
    | .error reason => .error ⟨offset, reason⟩

/-- Take a token between elements. A start anchor must come before every element of its branch. -/
def readElement (draft : Draft) (offset : Nat) (token : Token) : Except PatternError Draft :=
  match token with
  | .plain ')' => draft.closeGroup offset
  | .plain '|' => .ok { draft with alternation := draft.alternation.nextBranch }
  | .plain '$' => draft.anchorEnd offset
  | .plain '^' =>
    if draft.alternation.elements.isEmpty then .ok { draft with focus := .anchor }
    else .error ⟨offset, .misplacedStartAnchor⟩
  | token => draft.readAtom false offset token

/-- Take a token after an element that has no quantifier yet. -/
def readQuantifier (draft : Draft) (anchored : Bool) (node : Node) (offset : Nat) (token : Token) :
    Except PatternError Draft :=
  match Quantifier.ofToken? token with
  | some quantifier =>
    if node.isQuantifiable then .ok (draft.push (anchor anchored (quantifier.apply node)))
    else .error ⟨offset, .unquantifiable quantifier node.description⟩
  | none => draft.settle.readElement offset token

/-- Take a token inside a set. -/
def readMember (draft : Draft) (anchored : Bool) (opened : Nat) (negated : Bool)
    (members : List SetMember) (token : Token) : Except PatternError Draft :=
  match token with
  | .plain ']' =>
    if members.isEmpty then .error ⟨opened, .emptySet⟩
    else .ok { draft with focus := .atom anchored (.set members.reverse negated) }
  | token =>
    match SetMember.ofToken? token with
    | some member => .ok { draft with focus := .set anchored opened negated (member :: members) }
    | none => .error ⟨opened, .unterminatedSet⟩

/-- Take the next token of the text, which stands at an offset, into the draft. A `^` at the very
beginning of a set negates it. -/
def read (draft : Draft) : Nat × Token → Except PatternError Draft
  | (offset, token) =>
    match draft.focus with
    | .element => draft.readElement offset token
    | .anchor =>
      if endsAnchor token then draft.settle.readElement offset token
      else draft.readAtom true offset token
    | .atom anchored node => draft.readQuantifier anchored node offset token
    | .openedSet anchored opened =>
      if token = .plain '^' then .ok { draft with focus := .set anchored opened true [] }
      else draft.readMember anchored opened false [] token
    | .set anchored opened negated members =>
      draft.readMember anchored opened negated members token

/-- Take tokens into the draft one after another. -/
def readAll (draft : Draft) (tokens : List (Nat × Token)) : Except PatternError Draft :=
  tokens.foldlM read draft

/-- The tree of an alternation that is a whole pattern: its only branch, or a group with index zero
around several branches. -/
def root (alternation : Alternation) : Node :=
  match alternation.allBranches with
  | [branch] => branch
  | branches => .group 0 branches

/-- The tree of a draft at the end of its text, and the number of its groups. The innermost opening
without a closing is the one reported. -/
def finish (draft : Draft) : Except PatternError (Node × Nat) :=
  match draft.focus with
  | .openedSet _ opened | .set _ opened _ _ => .error ⟨opened, .unterminatedSet⟩
  | _ =>
    match draft.enclosing with
    | group :: _ => .error ⟨group.offset, .unterminatedGroup⟩
    | [] => .ok (root draft.settle.alternation, draft.groupCount)

end Draft
end PatternSearch
