import PatternSearch.Captures
import PatternSearch.Mismatch

/-!
# Attempts

An attempt tries to match something at an offset of a subject, beside a table of captured texts. It
succeeds with an outcome or fails with a mismatch, and in both cases leaves a state behind: where it
stands now, and what is captured now.

This module holds the attempts that need no pattern tree: a rune that fulfils a condition, a text, a
step over and over, and a step tried again after giving repetitions back. Here a step is an attempt
as a function of the state that it begins in.
-/
namespace PatternSearch

/-- What a successful attempt consumed. -/
structure Outcome where
  /-- The number of runes consumed. -/
  consumed : Nat
  /-- The number of runes consumed by each repetition; only repetitions have any. -/
  repetitions : List Nat
  /-- How many of the last repetitions may be given back. -/
  giveback : Nat
  deriving DecidableEq, Repr

/-- The outcome of consuming runes without repetitions. -/
def Outcome.consuming (consumed : Nat) : Outcome := ⟨consumed, [], 0⟩

/-- Where an attempt stands, and what is captured there. -/
structure State where
  /-- The number of runes of the subject before the place. -/
  offset : Nat
  /-- The texts captured so far. -/
  captures : Captures
  deriving DecidableEq

/-- The state with another offset. -/
def State.at (state : State) (offset : Nat) : State := { state with offset }

/-- The result of an attempt, and the state that it left behind. -/
structure Attempt where
  /-- The outcome, or the mismatch that stopped the attempt. -/
  result : Except Mismatch Outcome
  /-- The state after the attempt. -/
  state : State

/-- What a failed attempt puts back to what it was before. -/
inductive Rollback where
  /-- The offset. What was captured on the way stays captured. -/
  | offset
  /-- The offset and the captured texts. -/
  | everything
  deriving DecidableEq, Repr

/-- The state to which an attempt that began in `start` and failed in `failed` returns. -/
def Rollback.restore (rollback : Rollback) (start failed : State) : State :=
  match rollback with
  | .offset => failed.at start.offset
  | .everything => start

namespace Attempt

/-- A successful attempt. -/
def success (outcome : Outcome) (state : State) : Attempt := ⟨.ok outcome, state⟩

/-- A failed attempt. -/
def failure (mismatch : Mismatch) (state : State) : Attempt := ⟨.error mismatch, state⟩

/-- The attempt with the state put back if it failed. -/
def restoring (rollback : Rollback) (start : State) (attempt : Attempt) : Attempt :=
  match attempt.result with
  | .ok _ => attempt
  | .error _ => { attempt with state := rollback.restore start attempt.state }

/-- Match one rune that fulfils a condition. -/
def rune (subject : Array Char) (wanted : Char → Bool) (state : State) : Attempt :=
  match subject[state.offset]? with
  | none => failure .endOfInput state
  | some rune =>
    if wanted rune then success (.consuming 1) (state.at (state.offset + 1))
    else failure .noMatch state

/-- Match a text rune by rune. The first rune that is missing or different is the mismatch. -/
def text (subject : Array Char) (wanted : Text) (state : State) : Attempt :=
  match compare subject wanted state.offset with
  | .ok stop => success (.consuming wanted.length) (state.at stop)
  | .error mismatch => failure mismatch state
where
  /-- The offset past a text that stands at an offset of the subject. -/
  compare (subject : Array Char) : Text → Nat → Except Mismatch Nat
    | [], offset => .ok offset
    | rune :: rest, offset =>
      match subject[offset]? with
      | none => .error .endOfInput
      | some found =>
        if found = rune then compare subject rest (offset + 1) else .error .noMatch

/-- Take a step again and again, at most `rounds` times, until it fails or consumes nothing: what
each successful step consumed, and the state in the end. -/
def repeated (step : State → Attempt) : (rounds : Nat) → State → List Nat × State
  | 0, state => ([], state)
  | rounds + 1, state =>
    match step state with
    | ⟨.error _, failed⟩ => ([], failed)
    | ⟨.ok outcome, next⟩ =>
      if outcome.consumed = 0 then ([0], next)
      else
        let (later, final) := repeated step rounds next
        (outcome.consumed :: later, final)

/-- The number of rounds that a repetition may take. A round that consumes nothing is the last one,
so one round more than there are runes left is enough where there is no maximum. -/
def rounds (left : Nat) : (max : Option Nat) → Nat
  | none => left + 1
  | some max => min max (left + 1)

/-- The number of runes that rounds of given lengths consume together. -/
def totalLength : List Nat → Nat
  | [] => 0
  | length :: later => length + totalLength later

/-- Take a step at least `min` and at most `max` times, as often as it succeeds. -/
def repetition (subject : Array Char) (step : State → Attempt) (min : Nat) (max : Option Nat)
    (state : State) : Attempt :=
  let (lengths, final) := repeated step (rounds (subject.size - state.offset) max) state
  if lengths.length < min then failure .tooFewRepetitions final
  else success ⟨totalLength lengths, lengths, lengths.length - min⟩ final

/-- The latest success in a sequence: where it began, and its outcome. -/
structure Preceding where
  /-- The offset at which it began. -/
  start : Nat
  /-- Its outcome. -/
  outcome : Outcome
  deriving DecidableEq, Repr

/-- The offsets at which rounds of given lengths begin when the first one begins at `start`. -/
def roundStarts (start : Nat) : List Nat → List Nat
  | [] => []
  | length :: later => start :: roundStarts (start + length) later

namespace Preceding

/-- The number of rounds that the repetition may not give back. -/
def leastRounds (preceding : Preceding) : Nat :=
  preceding.outcome.repetitions.length - preceding.outcome.giveback

/-- The offsets at which the repetition ends when it gives back its last round, its last two rounds,
and so on down to the rounds that it has to keep: those at which these rounds began. -/
def shorterEnds (preceding : Preceding) : List Nat :=
  ((roundStarts preceding.start preceding.outcome.repetitions).drop preceding.leastRounds).reverse

end Preceding

/-- Take a step at each of some offsets until it succeeds. When it never does, return to the offset
`ended`. -/
def atFirst (step : State → Attempt) (ended : Nat) : List Nat → State → Attempt
  | [], state => failure .givebackExhausted (state.at ended)
  | offset :: rest, state =>
    match step (state.at offset) with
    | ⟨.ok outcome, next⟩ => success outcome next
    | ⟨.error _, failed⟩ => atFirst step ended rest failed

/-- Take a step again after a repetition, which ended where the state stands, gives rounds back: one
round at first, and one more each time the step fails. -/
def afterGiveback (step : State → Attempt) (preceding : Preceding) (state : State) : Attempt :=
  atFirst step state.offset preceding.shorterEnds state

/-- Take a step, and when it fails right after a repetition that can give rounds back, take it again
after giving back. -/
def orAfterGiveback (step : State → Attempt) (preceding : Option Preceding) (state : State) :
    Attempt :=
  match step state with
  | ⟨.ok outcome, next⟩ => success outcome next
  | ⟨.error mismatch, failed⟩ =>
    match preceding with
    | none => failure mismatch failed
    | some preceding =>
      if 0 < preceding.outcome.giveback then afterGiveback step preceding failed
      else failure mismatch failed

end Attempt
end PatternSearch
