import PatternSearch.Attempt
import PatternSearch.Node

/-!
# Attempts of pattern trees

The matching engine: `Node.attempt` tries a tree at the offset of a state. Repetitions are greedy
and the first branch of a group that matches is final. The engine does not search all ways to match:
when an element of a sequence fails right after a repetition, only that repetition gives rounds
back, one at a time.

A failed attempt puts the offset back. A group whose branches all fail also puts the captured texts
back, while a sequence that fails keeps what its elements captured. `Node.attemptWith` takes the
rule of what a failed attempt puts back as a parameter, so that the two rules can be compared.
-/
namespace PatternSearch.Node

mutual

/-- Try a tree at the offset of a state. -/
def attemptWith (rollback : Rollback) (subject : Array Char) (node : Node) (start : State) :
    Attempt :=
  Attempt.restoring rollback start <|
    match node with
    | .literal own => Attempt.rune subject (· == own) start
    | .ofClass kind => Attempt.rune subject kind.contains start
    | .set members negated =>
      Attempt.rune subject (fun rune => members.any (·.contains rune) != negated) start
    | .startAnchor node =>
      if start.offset = 0 then node.attemptWith rollback subject start
      else .failure .notAtStart start
    | .endAnchor node =>
      match node.attemptWith rollback subject start with
      | ⟨.ok outcome, state⟩ =>
        if subject.size ≤ state.offset then .success (.consuming outcome.consumed) state
        else .failure .notAtEnd state
      | failed => failed
    | .repetition node min max =>
      Attempt.repetition subject (node.attemptWith rollback subject) min max start
    | .group index branches => attemptBranches rollback subject index branches start
    | .backreference index =>
      match start.captures.get? index with
      | none => .failure (.unboundCapture index) start
      | some captured => Attempt.text subject captured start
    | .sequence nodes => attemptSequence rollback subject start.offset none nodes start

/-- Try branches in order until one matches, and record its text under the index of the group. The
captured texts are put back before each further branch. -/
def attemptBranches (rollback : Rollback) (subject : Array Char) (index : Nat)
    (branches : List Node) (start : State) : Attempt :=
  match branches with
  | [] => .failure .noBranchMatched start
  | branch :: rest =>
    match branch.attemptWith rollback subject start with
    | ⟨.ok outcome, state⟩ =>
      .success (.consuming outcome.consumed)
        { state with
          captures := state.captures.record index
            (subject.extract start.offset state.offset).toList }
    | ⟨.error _, failed⟩ =>
      attemptBranches rollback subject index rest { failed with captures := start.captures }

/-- Match nodes one after another in a sequence that began at the offset `began`, after the success
of the node before them, if there is one. -/
def attemptSequence (rollback : Rollback) (subject : Array Char) (began : Nat)
    (preceding : Option Attempt.Preceding) (nodes : List Node) (state : State) : Attempt :=
  match nodes with
  | [] => .success (.consuming (state.offset - began)) state
  | node :: rest =>
    match Attempt.orAfterGiveback (node.attemptWith rollback subject) preceding state with
    | ⟨.ok outcome, next⟩ =>
      attemptSequence rollback subject began (some ⟨next.offset - outcome.consumed, outcome⟩)
        rest next
    | failed => failed

end

/-- Try a tree at the offset of a state. When the attempt fails it puts the offset back. -/
def attempt (subject : Array Char) (node : Node) (start : State) : Attempt :=
  node.attemptWith .offset subject start

end PatternSearch.Node
