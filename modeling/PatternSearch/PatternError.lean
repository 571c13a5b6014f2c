/-!
# Errors in pattern texts

A text that is no pattern is refused with the offset of the culprit and a reason.
-/
namespace PatternSearch

/-- An operator that repeats the element before it. -/
inductive Quantifier where
  /-- `?`: once or not at all. -/
  | question
  /-- `+`: once or more. -/
  | plus
  deriving DecidableEq, Repr

/-- The rune that writes a quantifier. -/
def Quantifier.rune : Quantifier → Char
  | .question => '?'
  | .plus => '+'

namespace PatternError

/-- What is wrong with a pattern text. -/
inductive Reason where
  /-- A group is open at the end. -/
  | unterminatedGroup
  /-- A closing parenthesis closes no group. -/
  | unmatchedParenthesis
  /-- A set is open at the end. -/
  | unterminatedSet
  /-- A set is closed before its first member. -/
  | emptySet
  /-- A quantifier follows nothing that could be repeated. -/
  | danglingQuantifier (quantifier : Quantifier)
  /-- A quantifier follows an element that may not be repeated. -/
  | unquantifiable (quantifier : Quantifier) (operand : String)
  /-- An end anchor follows no element. -/
  | danglingEndAnchor
  /-- A start anchor follows an element. -/
  | misplacedStartAnchor
  /-- A backslash escapes a rune that has no escaped meaning. -/
  | invalidEscape (rune : Char)
  /-- A backreference names group zero. -/
  | zeroBackreference
  /-- The text ends where an element should begin. -/
  | unexpectedEnd
  /-- A backslash ends the text. -/
  | danglingEscape
  deriving DecidableEq, Repr

/-- The reason in words. -/
def Reason.message : Reason → String
  | .unterminatedGroup => "unterminated group, expected ')'"
  | .unmatchedParenthesis => "unmatched ')'"
  | .unterminatedSet => "unterminated character set, expected ']'"
  | .emptySet => "character set has no members"
  | .danglingQuantifier quantifier =>
    "quantifier '" ++ String.singleton quantifier.rune ++ "' has nothing to repeat"
  | .unquantifiable quantifier operand =>
    "quantifier '" ++ String.singleton quantifier.rune ++ "' cannot be applied to " ++ operand
  | .danglingEndAnchor => "'$' has no preceding element"
  | .misplacedStartAnchor => "'^' is only allowed at the start of a sequence"
  | .invalidEscape rune => "unsupported escape '\\" ++ String.singleton rune ++ "'"
  | .zeroBackreference => "backreference '\\0' does not name a group"
  | .unexpectedEnd => "unexpected end of pattern"
  | .danglingEscape => "trailing '\\' at end of pattern"

end PatternError

/-- Why a text is no pattern, and where. -/
structure PatternError where
  /-- The offset of the culprit in the text. -/
  offset : Nat
  /-- What is wrong there. -/
  reason : PatternError.Reason
  deriving DecidableEq, Repr

/-- The error in words. -/
def PatternError.message (error : PatternError) : String :=
  "invalid pattern at offset " ++ toString error.offset ++ ": " ++ error.reason.message

end PatternSearch
