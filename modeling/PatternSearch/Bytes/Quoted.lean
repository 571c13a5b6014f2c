import PatternSearch.Bytes.Utf8
import PatternSearch.Rune.Visible

/-!
# Quoted bytes

A path name inside a message stands between quotation marks. Quotation marks and backslashes in it
are escaped by a backslash, runes that are not visible are written by name or by code point, and bytes
that are no UTF-8 are written by their values. So quoted bytes are one line, show every byte and show
where they end.
-/
namespace PatternSearch

/-- A rune inside quotation marks. -/
def Text.quoteRune (rune : Char) : Text :=
  match rune with
  | '"' => ['\\', '"']
  | '\\' => ['\\', '\\']
  | '\x00' => ['\\', '0']
  | '\t' => ['\\', 't']
  | '\r' => ['\\', 'r']
  | '\n' => ['\\', 'n']
  | rune =>
    if Rune.isVisible rune then [rune]
    else ['\\', 'u', '{'] ++ Nat.toDigits 16 rune.toNat ++ ['}']

namespace Bytes

/-- A byte inside quotation marks that begins no rune: its value in two capital digits. -/
def quoteByte (byte : UInt8) : Text :=
  ['\\', 'x', (Nat.digitChar (byte.toNat / 16)).toUpper, (Nat.digitChar (byte.toNat % 16)).toUpper]

/-- Bytes inside quotation marks. No rune begins with one of the later bytes of a rune, so what is
left of a rune that is cut short is written byte by byte as well. -/
def quoteAll : Bytes → Text
  | [] => []
  | byte :: rest =>
    match Utf8.firstRune? (byte :: rest) with
    | some rune => Text.quoteRune rune ++ quoteAll (rest.drop ((Utf8.encodeRune rune).length - 1))
    | none => quoteByte byte ++ quoteAll rest
termination_by bytes => bytes.length

/-- Bytes between quotation marks. -/
def quoted (bytes : Bytes) : Text := ['"'] ++ quoteAll bytes ++ ['"']

end Bytes
end PatternSearch
