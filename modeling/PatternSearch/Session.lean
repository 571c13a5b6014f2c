import PatternSearch.Attempt.Node

/-!
# Sessions

A session attempts pattern trees one at a time over one subject. The offset and the captured texts
are kept from attempt to attempt, also what a failed attempt leaves behind. The latest success may
be asked to give repetitions back to a further tree.

Giving back and moving about stay inside the subject: a retry or a reset that would leave it has no
result.
-/
namespace PatternSearch

/-- Whether a preceding success has the rounds that it may give back, and giving them back stays
inside a subject. -/
def Attempt.Preceding.fits (subject : Array Char) (preceding : Attempt.Preceding) : Bool :=
  preceding.outcome.giveback ≤ preceding.outcome.repetitions.length &&
    preceding.shorterEnds.all (· ≤ subject.size)

/-- A subject, the place reached in it, and the latest success. -/
structure Session where
  /-- The runes of the subject. -/
  subject : Array Char
  /-- The offset and the captured texts. -/
  state : State
  /-- Where the latest success began, and its outcome. -/
  latest : Option Attempt.Preceding

namespace Session

/-- A session in front of a subject, with nothing captured. -/
def ofSubject (subject : Text) : Session := ⟨subject.toArray, ⟨0, .empty⟩, none⟩

/-- Whether the session stands at the end of its subject. -/
def atEnd (session : Session) : Bool := session.subject.size ≤ session.state.offset

/-- Take a step: its result, and the session after it. -/
def take (session : Session) (step : State → Attempt) : Except Mismatch Outcome × Session :=
  match step session.state with
  | ⟨.ok outcome, state⟩ =>
    (.ok outcome,
      { session with state, latest := some ⟨state.offset - outcome.consumed, outcome⟩ })
  | ⟨.error mismatch, state⟩ => (.error mismatch, { session with state })

/-- Attempt a tree where the session stands. -/
def attempt (session : Session) (node : Node) : Except Mismatch Outcome × Session :=
  session.take (node.attempt session.subject)

/-- Let a success give repetitions back to a tree. -/
def retry? (session : Session) (preceding : Attempt.Preceding) (node : Node) :
    Option (Except Mismatch Outcome × Session) :=
  if preceding.fits session.subject then
    some (session.take (Attempt.afterGiveback (node.attempt session.subject) preceding))
  else none

/-- Move to an offset of the subject. -/
def reset? (session : Session) (offset : Nat) : Option Session :=
  if offset ≤ session.subject.size then some { session with state := session.state.at offset }
  else none

/-- Record a text as captured under an index. -/
def record (session : Session) (index : Nat) (text : Text) : Session :=
  { session with
    state := { session.state with captures := session.state.captures.record index text } }

/-- Forget all captured texts. -/
def clear (session : Session) : Session :=
  { session with state := { session.state with captures := .empty } }

end Session
end PatternSearch
