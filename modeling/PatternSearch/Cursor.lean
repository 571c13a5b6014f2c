import PatternSearch.Token

/-!
# Cursors

A cursor stands at an offset of a text, between its first rune and its end. It reads the rune or the
token in front of it, steps back, and moves to any offset of its text. An operation that would leave
the text, or read past its end, has no result.
-/
namespace PatternSearch

/-- A text and an offset in it. -/
structure Cursor where
  /-- The runes of the text. -/
  runes : Array Char
  /-- The number of runes before the cursor. -/
  offset : Nat
  /-- The cursor stands inside its text or at its end. -/
  offset_le : offset ≤ runes.size

namespace Cursor

/-- A cursor in front of a text. -/
def ofText (text : Text) : Cursor := ⟨text.toArray, 0, Nat.zero_le _⟩

/-- Whether nothing is left to read. -/
def atEnd (cursor : Cursor) : Bool := cursor.runes.size ≤ cursor.offset

/-- The rune in front of the cursor. -/
def peek? (cursor : Cursor) : Option Char := cursor.runes[cursor.offset]?

/-- The rune in front of the cursor, and the cursor past it. -/
def advance? (cursor : Cursor) : Option (Char × Cursor) :=
  if inside : cursor.offset < cursor.runes.size then
    some (cursor.runes[cursor.offset], ⟨cursor.runes, cursor.offset + 1, inside⟩)
  else none

/-- The cursor one rune back, unless it stands at the start. -/
def unadvance? (cursor : Cursor) : Option Cursor :=
  if 0 < cursor.offset then
    some ⟨cursor.runes, cursor.offset - 1, Nat.le_trans (Nat.sub_le _ _) cursor.offset_le⟩
  else none

/-- The cursor at an offset, unless the offset is past the end. -/
def reset? (cursor : Cursor) (offset : Nat) : Option Cursor :=
  if inside : offset ≤ cursor.runes.size then some ⟨cursor.runes, offset, inside⟩ else none

/-- The runes from one offset up to another, unless the two are out of order or past the end. -/
def slice? (cursor : Cursor) (start stop : Nat) : Option Text :=
  if start ≤ stop ∧ stop ≤ cursor.runes.size then some (cursor.runes.extract start stop).toList
  else none

/-- The token in front of the cursor, and the cursor past it. -/
def readToken? (cursor : Cursor) : Option (Token × Cursor) :=
  match cursor.advance? with
  | none => none
  | some ('\\', next) =>
    match next.advance? with
    | none => some (.danglingEscape, next)
    | some (rune, next) => some (.escaped rune, next)
  | some (rune, next) => some (.plain rune, next)

/-- The token in front of the cursor. -/
def peekToken? (cursor : Cursor) : Option Token := cursor.readToken?.map (·.1)

end Cursor
end PatternSearch
