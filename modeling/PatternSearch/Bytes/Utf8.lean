import PatternSearch.Bytes.Lines
import PatternSearch.Text

/-!
# UTF-8

`encode` writes a text as bytes. `decode` reads any bytes as a text: where they are no UTF-8, each
maximal ill-formed part becomes one replacement character. A part is a byte that begins no sequence,
or the bytes of a sequence that has begun well and is cut short by the next byte or by the end. The
byte that cuts it short begins anew.

A sequence that has begun is kept as the value of its bits so far and the ranges that its further
bytes have to lie in. The ranges leave out overlong forms, surrogates and values past the last code
point, so every sequence that ends is a rune.
-/
namespace PatternSearch.Utf8

/-- The rune that stands for bytes that are no UTF-8. -/
def replacement : Char := '\uFFFD'

/-- The bytes of a rune. -/
def encodeRune (rune : Char) : Bytes :=
  let point := rune.toNat
  if point < 0x80 then [UInt8.ofNat point]
  else if point < 0x800 then
    [UInt8.ofNat (0xC0 + point / 64), UInt8.ofNat (0x80 + point % 64)]
  else if point < 0x10000 then
    [UInt8.ofNat (0xE0 + point / 4096), UInt8.ofNat (0x80 + point / 64 % 64),
      UInt8.ofNat (0x80 + point % 64)]
  else
    [UInt8.ofNat (0xF0 + point / 262144), UInt8.ofNat (0x80 + point / 4096 % 64),
      UInt8.ofNat (0x80 + point / 64 % 64), UInt8.ofNat (0x80 + point % 64)]

/-- The bytes of a text. -/
def encode (text : Text) : Bytes := text.flatMap encodeRune

/-- A range of byte values, both ends included. -/
structure ByteRange where
  /-- The least value. -/
  least : Nat
  /-- The greatest value. -/
  greatest : Nat
  deriving DecidableEq, Repr

/-- Whether a range holds a byte. -/
def ByteRange.contains (range : ByteRange) (byte : UInt8) : Bool :=
  range.least ≤ byte.toNat && byte.toNat ≤ range.greatest

/-- The bytes that continue a sequence. -/
def continuation : ByteRange := ⟨0x80, 0xBF⟩

/-- What the first byte of a sequence says: the bits of its own that count, and the ranges of the
bytes after it. -/
def lead? (byte : UInt8) : Option (Nat × List ByteRange) :=
  let value := byte.toNat
  if value < 0x80 then some (value, [])
  else if value < 0xC2 then none
  else if value < 0xE0 then some (value - 0xC0, [continuation])
  else if value = 0xE0 then some (0x0, [⟨0xA0, 0xBF⟩, continuation])
  else if value = 0xED then some (0xD, [⟨0x80, 0x9F⟩, continuation])
  else if value < 0xF0 then some (value - 0xE0, [continuation, continuation])
  else if value = 0xF0 then some (0x0, [⟨0x90, 0xBF⟩, continuation, continuation])
  else if value < 0xF4 then some (value - 0xF0, [continuation, continuation, continuation])
  else if value = 0xF4 then some (0x4, [⟨0x80, 0x8F⟩, continuation, continuation])
  else none

/-- A sequence that has begun. -/
structure Pending where
  /-- The value of its bits so far. -/
  value : Nat
  /-- The range of its next byte. -/
  next : ByteRange
  /-- The ranges of the bytes after that. -/
  later : List ByteRange
  deriving DecidableEq, Repr

/-- A text whose bytes have been read in part. -/
structure Decoder where
  /-- The runes read so far, latest first. -/
  runes : Text
  /-- The sequence that has begun, if one has. -/
  pending : Option Pending
  deriving DecidableEq, Repr

namespace Decoder

/-- A decoder that has read nothing. -/
def empty : Decoder := ⟨[], none⟩

/-- Take the bits read so far further: the rune is complete when no bytes are missing. -/
def continueWith (runes : Text) (value : Nat) : List ByteRange → Decoder
  | [] => ⟨Char.ofNat value :: runes, none⟩
  | next :: later => ⟨runes, some ⟨value, next, later⟩⟩

/-- Begin a sequence with a byte. -/
def start (runes : Text) (byte : UInt8) : Decoder :=
  match lead? byte with
  | none => ⟨replacement :: runes, none⟩
  | some (value, wanted) => continueWith runes value wanted

/-- Read one more byte. -/
def feed (decoder : Decoder) (byte : UInt8) : Decoder :=
  match decoder.pending with
  | none => start decoder.runes byte
  | some pending =>
    if pending.next.contains byte then
      continueWith decoder.runes (pending.value * 64 + (byte.toNat - 0x80)) pending.later
    else start (replacement :: decoder.runes) byte

/-- The text at the end of the bytes. -/
def finish (decoder : Decoder) : Text :=
  match decoder.pending with
  | none => decoder.runes.reverse
  | some _ => (replacement :: decoder.runes).reverse

end Decoder

/-- The text that bytes write, with replacement characters where they are no UTF-8. -/
def decode (bytes : Bytes) : Text := (bytes.foldl Decoder.feed .empty).finish

/-- The rune with whose bytes a buffer begins, if it begins with those of a rune. -/
def firstRune? (bytes : Bytes) : Option Char :=
  [1, 2, 3, 4].findSome? fun count =>
    match decode (bytes.take count) with
    | [rune] => if encodeRune rune = bytes.take count then some rune else none
    | _ => none

end PatternSearch.Utf8
