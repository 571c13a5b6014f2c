import PatternSearch.Attempt.Node
import PatternSearch.Draft
import PatternSearch.Node.Equality

/-!
# Patterns and matches

`Pattern.compile` reads a pattern text, `Pattern.find` finds the leftmost match of a pattern in a
subject. Every start offset from the first one up to the end of the subject is tried in turn, each
with nothing captured, and the first one at which the tree of the pattern matches is taken.
-/
namespace PatternSearch

/-- A compiled pattern. -/
structure Pattern where
  /-- The text that it was compiled from. -/
  source : Text
  /-- Its tree. -/
  root : Node
  /-- The number of its numbered groups. -/
  groupCount : Nat
  deriving DecidableEq

/-- A match of a pattern in a subject. -/
structure Match where
  /-- The offset at which it begins. -/
  start : Nat
  /-- The offset at which it ends. -/
  stop : Nat
  /-- The text between the two. -/
  text : Text
  /-- What the groups captured on the way. -/
  captures : Captures
  deriving DecidableEq

/-- The text that a group captured. -/
def Match.group? (found : Match) (index : Nat) : Option Text := found.captures.get? index

namespace Pattern

/-- Read a pattern text: its tree and the number of its groups. -/
def parse (source : Text) : Except PatternError (Node × Nat) := do
  let draft ← Draft.empty.readAll (Token.scan source)
  draft.finish

/-- Compile a pattern text. -/
def compile (source : Text) : Except PatternError Pattern := do
  let (root, groupCount) ← parse source
  return ⟨source, root, groupCount⟩

/-- The match of a tree that begins at an offset of a subject, with nothing captured before. -/
def matchAt? (rollback : Rollback) (root : Node) (subject : Array Char) (start : Nat) :
    Option Match :=
  match root.attemptWith rollback subject ⟨start, .empty⟩ with
  | ⟨.ok outcome, state⟩ =>
    let stop := start + outcome.consumed
    some ⟨start, stop, (subject.extract start stop).toList, state.captures⟩
  | ⟨.error _, _⟩ => none

/-- The leftmost match, under a rule of what failed attempts put back. -/
def findWith (rollback : Rollback) (pattern : Pattern) (subject : Text) : Option Match :=
  let subject := subject.toArray
  (List.range (subject.size + 1)).findSome? (matchAt? rollback pattern.root subject)

/-- The leftmost match of a pattern in a subject. -/
def find (pattern : Pattern) (subject : Text) : Option Match := pattern.findWith .offset subject

/-- Whether a pattern matches anywhere in a subject. -/
def occursIn (pattern : Pattern) (subject : Text) : Bool := (pattern.find subject).isSome

end Pattern
end PatternSearch
