/-!
# Why a node does not match

A failed attempt says what was in the way. The reasons steer the matching engine and are shown only
when nodes are attempted one at a time.
-/
namespace PatternSearch

/-- Why a node did not match where it was attempted. -/
inductive Mismatch where
  /-- A rune was wanted where the subject ends. -/
  | endOfInput
  /-- The rune is not one that was wanted. -/
  | noMatch
  /-- A start anchor stands past the start of the subject. -/
  | notAtStart
  /-- An end anchor stands before the end of the subject. -/
  | notAtEnd
  /-- A repetition ended below its minimum. -/
  | tooFewRepetitions
  /-- No branch of a group matched. -/
  | noBranchMatched
  /-- A backreference names a group that has captured nothing. -/
  | unboundCapture (index : Nat)
  /-- No number of repetitions given back made room for the element after them. -/
  | givebackExhausted
  deriving DecidableEq, Repr

/-- The reason in words. -/
def Mismatch.message : Mismatch → String
  | .endOfInput => "end of input"
  | .noMatch => "rune does not match"
  | .notAtStart => "not at start of subject"
  | .notAtEnd => "not at end of subject"
  | .tooFewRepetitions => "fewer repetitions than required"
  | .noBranchMatched => "no alternative matched"
  | .unboundCapture index => "group " ++ toString index ++ " has not captured anything"
  | .givebackExhausted => "no giveback offset lets the next element match"

end PatternSearch
