import PatternSearch.Node
import PatternSearch.PatternError
import PatternSearch.Token

/-!
# Tokens that are nodes

Outside a set, a token that opens nothing, closes nothing and anchors nothing is a node by itself or
an error: an escaped rune is a class, a backreference, or the rune itself if it is one with another
meaning unescaped. Inside a set, a token is a member, and every rune may be escaped.
-/
namespace PatternSearch

/-- The runes that stand for themselves when escaped. -/
def metacharacters : List Char :=
  ['\\', '.', '[', ']', '(', ')', '|', '?', '+', '*', '^', '$']

/-- The class that an escaped rune writes. -/
def Rune.Class.ofEscaped? : Char → Option Rune.Class
  | 'd' => some .digit
  | 'w' => some .word
  | _ => none

/-- The index that an escaped decimal digit refers to. -/
def backreferenceIndex? (rune : Char) : Option Nat :=
  if rune.isDigit then some (rune.toNat - '0'.toNat) else none

/-- The node that an escaped rune writes. -/
def Node.ofEscaped (rune : Char) : Except PatternError.Reason Node :=
  match Rune.Class.ofEscaped? rune, backreferenceIndex? rune with
  | some kind, _ => .ok (.ofClass kind)
  | none, some 0 => .error .zeroBackreference
  | none, some index => .ok (.backreference index)
  | none, none =>
    if rune ∈ metacharacters then .ok (.literal rune) else .error (.invalidEscape rune)

/-- The quantifier that a token writes. -/
def Quantifier.ofToken? : Token → Option Quantifier
  | .plain '?' => some .question
  | .plain '+' => some .plus
  | _ => none

/-- The repetition of a node that a quantifier asks for. -/
def Quantifier.apply : Quantifier → Node → Node
  | .question, node => node.optional
  | .plus, node => node.onceOrMore

/-- The node that a token writes outside a set. -/
def Node.ofToken : Token → Except PatternError.Reason Node
  | .plain '.' => .ok (.ofClass .any)
  | .plain '?' => .error (.danglingQuantifier .question)
  | .plain '+' => .error (.danglingQuantifier .plus)
  | .plain '^' => .error .misplacedStartAnchor
  | .plain '$' => .error .danglingEndAnchor
  | .plain rune => .ok (.literal rune)
  | .escaped rune => Node.ofEscaped rune
  | .danglingEscape => .error .danglingEscape

/-- The member that a token writes inside a set. -/
def SetMember.ofToken? : Token → Option SetMember
  | .plain rune => some (.literal rune)
  | .escaped rune =>
    match Rune.Class.ofEscaped? rune with
    | some kind => some (.ofClass kind)
    | none => some (.literal rune)
  | .danglingEscape => none

end PatternSearch
