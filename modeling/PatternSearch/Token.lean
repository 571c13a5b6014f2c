import PatternSearch.Text

/-!
# Tokens of a pattern

A token is one rune, or a backslash together with the rune that it escapes. A backslash at the very
end of a text escapes nothing and is a token of its own.

`Token.scan` divides a text into its tokens, each with the offset at which it begins. Scanning loses
nothing: the spellings of the tokens make up the text (`flatMap_spelling_scanFrom`).
-/
namespace PatternSearch

/-- A token of pattern text. -/
inductive Token where
  /-- A rune that stands for itself or is an operator. -/
  | plain (rune : Char)
  /-- A backslash and the rune after it. -/
  | escaped (rune : Char)
  /-- A backslash with nothing after it. -/
  | danglingEscape
  deriving DecidableEq, Repr

namespace Token

/-- The text of a token. -/
def spelling : Token → Text
  | .plain rune => [rune]
  | .escaped rune => ['\\', rune]
  | .danglingEscape => ['\\']

/-- The tokens of a text, each with its offset when the text begins at `offset`. -/
def scanFrom (offset : Nat) : Text → List (Nat × Token)
  | [] => []
  | ['\\'] => [(offset, .danglingEscape)]
  | '\\' :: rune :: rest => (offset, .escaped rune) :: scanFrom (offset + 2) rest
  | rune :: rest => (offset, .plain rune) :: scanFrom (offset + 1) rest

/-- The tokens of a text, each with its offset. -/
def scan (text : Text) : List (Nat × Token) := scanFrom 0 text

/-- Scanning loses nothing: the spellings of the tokens make up the text. -/
theorem flatMap_spelling_scanFrom (offset : Nat) (text : Text) :
    (scanFrom offset text).flatMap (·.2.spelling) = text := by
  fun_induction scanFrom offset text <;> simp_all [spelling]

end Token
end PatternSearch
