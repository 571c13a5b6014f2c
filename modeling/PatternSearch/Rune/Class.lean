import PatternSearch.Rune.Letter
import PatternSearch.Rune.Numeric

/-!
# Rune classes

The built-in classes of a pattern: `\d` holds the numeric code points, `\w` the letters, the decimal
digits and the low line, and `.` every rune.
-/
namespace PatternSearch.Rune

/-- A built-in set of runes. -/
inductive Class where
  /-- The numeric code points, written `\d`. -/
  | digit
  /-- Letters, decimal digits and the low line, written `\w`. -/
  | word
  /-- Every rune, written `.`. -/
  | any
  deriving DecidableEq, Repr

/-- Whether a rune is numeric. -/
def isNumeric (rune : Char) : Bool := numericRanges.contains rune.toNat

/-- Whether a rune is a letter. -/
def isLetter (rune : Char) : Bool := letterRanges.contains rune.toNat

/-- Whether a rune is a decimal digit. -/
def isDecimalDigit (rune : Char) : Bool := decimalDigitRanges.contains rune.toNat

/-- Whether a class holds a rune. -/
def Class.contains : Class → Char → Bool
  | .digit, rune => isNumeric rune
  | .word, rune => isLetter rune || isDecimalDigit rune || rune == '_'
  | .any, _ => true

/-- The runes of a class, by the ranges of the tables. -/
def Class.Holds : Class → Char → Prop
  | .digit, rune => numericRanges.Holds rune.toNat
  | .word, rune =>
    letterRanges.Holds rune.toNat ∨ decimalDigitRanges.Holds rune.toNat ∨ rune = '_'
  | .any, _ => True

/-- A class contains a rune exactly when some range of its tables holds it, or it is the low line and
the class is that of words, or the class has every rune. -/
theorem Class.contains_iff {kind : Class} {rune : Char} :
    kind.contains rune = true ↔ kind.Holds rune := by
  cases kind with
  | digit => exact RangeTable.contains_iff
  | word =>
    simp only [contains, Holds, isLetter, isDecimalDigit, Bool.or_eq_true, beq_iff_eq,
      RangeTable.contains_iff, or_assoc]
  | any => exact iff_of_true rfl trivial

/-- The classes in the order in which a rune's memberships are listed. -/
def Class.all : List Class := [.digit, .word, .any]

/-- The classes that hold a rune. -/
def classes (rune : Char) : List Class := Class.all.filter (·.contains rune)

/-- A code point as a rune; the surrogate code points are none. -/
def ofCodePoint? (point : Nat) : Option Char :=
  if point.isValidChar then some (Char.ofNat point) else none

/-- A stretch of consecutive code points with the same classes. -/
structure Stretch where
  /-- The first code point. -/
  first : Nat
  /-- The last code point. -/
  last : Nat
  /-- The classes that hold every rune of the stretch. -/
  classes : List Class
  deriving DecidableEq, Repr

/-- The stretch with one more code point in front of a list of stretches, joined to the first of
them where the two touch and have the same classes. -/
def Stretch.extend (point : Nat) (held : List Class) : List Stretch → List Stretch
  | [] => [⟨point, point, held⟩]
  | next :: rest =>
    if next.first = point + 1 ∧ next.classes = held then { next with first := point } :: rest
    else ⟨point, point, held⟩ :: next :: rest

/-- The longest stretches of equal classes among `count` code points from `first` on. A surrogate
code point belongs to none and ends the stretch before it. -/
def stretches (first count : Nat) : List Stretch :=
  ((List.range' first count).filterMap fun point =>
    (ofCodePoint? point).map fun rune => (point, classes rune)).foldr
      (fun (point, held) found => Stretch.extend point held found) []

end PatternSearch.Rune
