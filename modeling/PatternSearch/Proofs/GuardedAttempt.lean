import PatternSearch.Attempt.Node
import PatternSearch.Proofs.Guarding

/-!
# Guarded attempts

The matching engine as a machine runs it: a cursor moves over the subject, and every offset, length and
count is a word. An attempt has no result where a cursor would leave the subject, a slice would not lie
in it, a word would be too large or too small, or a repetition would take more rounds than there is room
for.
-/
namespace PatternSearch

open Guarded

/-- Where a guarded attempt stands: a cursor over the subject, and what is captured. -/
structure Standing where
  /-- The cursor. -/
  cursor : Cursor
  /-- The texts captured so far. -/
  captures : Captures

namespace Standing

/-- The state without the subject. -/
def state (standing : Standing) : State := ⟨standing.cursor.offset, standing.captures⟩

/-- Move to an offset, unless it is past the end. -/
def reset? (standing : Standing) (offset : Nat) : Option Standing :=
  (standing.cursor.reset? offset).map fun cursor => { standing with cursor }

end Standing

/-- A guarded attempt: its result and where it stands then, unless the machine stops. -/
abbrev GuardedAttempt := Option (Except Mismatch Outcome × Standing)

/-- The guarded attempt, put back to the offset of `start` if it failed. -/
def GuardedAttempt.returning (start : Standing) (ran : GuardedAttempt) : GuardedAttempt := do
  match ← ran with
  | (.ok outcome, reached) => return (.ok outcome, reached)
  | (.error mismatch, failed) =>
    let back ← failed.reset? start.cursor.offset
    return (.error mismatch, back)

/-- A guarded attempt as a function of where it begins. -/
abbrev GuardedStep := Standing → GuardedAttempt

namespace GuardedStep

/-- Match one rune that fulfils a condition. -/
def rune (limit : Nat) (wanted : Char → Bool) : GuardedStep := fun start =>
  match start.cursor.peek? with
  | none => some (.error .endOfInput, start)
  | some found =>
    if wanted found then do
      match ← advance limit start.cursor with
      | none => return (.error .endOfInput, start)
      | some (_, cursor) => return (.ok (.consuming 1), { start with cursor })
    else some (.error .noMatch, start)

/-- Match a text rune by rune, behind so many that are matched. -/
def text (limit : Nat) : (consumed : Nat) → Text → GuardedStep
  | consumed, [], start => some (.ok (.consuming consumed), start)
  | consumed, wanted :: rest, start => do
    match ← advance limit start.cursor with
    | none => return (.error .endOfInput, start)
    | some (found, cursor) =>
      if found = wanted then
        let consumed ← plus? limit consumed 1
        text limit consumed rest { start with cursor }
      else return (.error .noMatch, { start with cursor })

/-- Take a step again and again until it fails, consumes nothing or has been taken often enough. What the
earlier rounds consumed is given latest first. -/
def repeated (step : GuardedStep) (max : Option Nat) :
    (rounds : Nat) → (earlier : List Nat) → Standing → Option (List Nat × Standing)
  | 0, _, _ => none
  | rounds + 1, earlier, start =>
    if max.all (earlier.length < ·) then do
      match ← step start with
      | (.error _, failed) => return (earlier.reverse, failed)
      | (.ok outcome, next) =>
        if outcome.consumed = 0 then return ((outcome.consumed :: earlier).reverse, next)
        else repeated step max rounds (outcome.consumed :: earlier) next
    else return (earlier.reverse, start)

/-- Take a step at least `min` and at most `max` times, as often as it succeeds. -/
def repetition (limit : Nat) (step : GuardedStep) (min : Nat) (max : Option Nat) : GuardedStep :=
  fun start => do
    let (lengths, reached) ← repeated step max (start.cursor.runes.size + 2) [] start
    if lengths.length < min then
      return (.error .tooFewRepetitions, reached)
    else
      let consumed ← sum? limit lengths
      let giveback ← minus? lengths.length min
      return (.ok ⟨consumed, lengths, giveback⟩, reached)

/-- Take a step behind each of some numbers of rounds of a repetition until it succeeds. When it never
does, return to the offset `ended`. -/
def behindRounds (limit : Nat) (step : GuardedStep) (preceding : Attempt.Preceding) (ended : Nat) :
    (kept : List Nat) → GuardedStep
  | [], start => do
    let back ← start.reset? ended
    return (.error .givebackExhausted, back)
  | kept :: fewer, start => do
    let lengths ← front? preceding.outcome.repetitions kept
    let consumed ← sum? limit lengths
    let offset ← plus? limit preceding.start consumed
    let behind ← start.reset? offset
    match ← step behind with
    | (.ok outcome, reached) => return (.ok outcome, reached)
    | (.error _, failed) => behindRounds limit step preceding ended fewer failed

/-- Take a step again after a repetition gives rounds back, one more each time the step fails. -/
def afterGiveback (limit : Nat) (step : GuardedStep) (preceding : Attempt.Preceding) : GuardedStep :=
  fun start => do
    let total := preceding.outcome.repetitions.length
    let least ← minus? total preceding.outcome.giveback
    behindRounds limit step preceding start.cursor.offset (List.range' least (total - least)).reverse
      start

/-- Take a step, and when it fails right after a repetition that can give rounds back, take it again
after giving back. -/
def orAfterGiveback (limit : Nat) (step : GuardedStep) (preceding : Option Attempt.Preceding) :
    GuardedStep := fun start => do
  match ← step start with
  | (.ok outcome, reached) => return (.ok outcome, reached)
  | (.error mismatch, failed) =>
    match preceding with
    | none => return (.error mismatch, failed)
    | some preceding =>
      if 0 < preceding.outcome.giveback then afterGiveback limit step preceding failed
      else return (.error mismatch, failed)

end GuardedStep

namespace Node

mutual

/-- Try a tree where a cursor stands. -/
def guarded (limit : Nat) (node : Node) (start : Standing) : GuardedAttempt :=
  GuardedAttempt.returning start <|
    match node with
    | .literal own => GuardedStep.rune limit (· == own) start
    | .ofClass kind => GuardedStep.rune limit kind.contains start
    | .set members negated =>
      GuardedStep.rune limit (fun rune => members.any (·.contains rune) != negated) start
    | .startAnchor node =>
      if start.cursor.offset = 0 then node.guarded limit start
      else some (.error .notAtStart, start)
    | .endAnchor node => do
      match ← node.guarded limit start with
      | (.ok outcome, reached) =>
        if reached.cursor.atEnd then return (.ok (.consuming outcome.consumed), reached)
        else return (.error .notAtEnd, reached)
      | (.error mismatch, failed) => return (.error mismatch, failed)
    | .repetition node min max => GuardedStep.repetition limit (node.guarded limit) min max start
    | .group index branches => guardedBranches limit index start.cursor.offset branches start
    | .backreference index =>
      match start.captures.get? index with
      | none => some (.error (.unboundCapture index), start)
      | some captured => GuardedStep.text limit 0 captured start
    | .sequence nodes => guardedSequence limit start.cursor.offset none nodes start

/-- Try the branches of a group that began at an offset in order until one matches, and record its
text. -/
def guardedBranches (limit index began : Nat) (branches : List Node) (start : Standing) :
    GuardedAttempt :=
  match branches with
  | [] => some (.error .noBranchMatched, start)
  | branch :: rest => do
    match ← branch.guarded limit start with
    | (.ok outcome, reached) =>
      let text ← reached.cursor.slice? began reached.cursor.offset
      return (.ok (.consuming outcome.consumed),
        { reached with captures := reached.captures.record index text })
    | (.error _, failed) =>
      guardedBranches limit index began rest { failed with captures := start.captures }

/-- Match nodes one after another in a sequence that began at an offset, after the success of the node
before them, if there is one. -/
def guardedSequence (limit began : Nat) (preceding : Option Attempt.Preceding) (nodes : List Node)
    (start : Standing) : GuardedAttempt :=
  match nodes with
  | [] => do
    let consumed ← minus? start.cursor.offset began
    return (.ok (.consuming consumed), start)
  | node :: rest => do
    match ← GuardedStep.orAfterGiveback limit (node.guarded limit) preceding start with
    | (.ok outcome, next) =>
      let from_ ← minus? next.cursor.offset outcome.consumed
      guardedSequence limit began (some ⟨from_, outcome⟩) rest next
    | (.error mismatch, failed) => return (.error mismatch, failed)

end

end Node

end PatternSearch
