import Mathlib.Data.List.Basic
import PatternSearch.Bytes.Utf8

/-!
# Texts as bytes and back

Reading the bytes of a text gives the text back (`decode_encode`), rune by rune: the first byte of a rune
announces the ranges in which its further bytes lie, and the value of the bits is its code point
(`feed_encodeRune`).

The newline byte writes the newline rune and takes part in nothing else. The bytes of a text have one only
for a newline in the text (`newline_mem_encode_iff`), and bytes without one are read as a text without a
newline, also where they are no UTF-8 (`newline_notMem_decode`).
-/
namespace PatternSearch.Utf8

/-- The code point of a rune is no surrogate and not past the last one. -/
theorem toNat_valid (rune : Char) :
    rune.toNat < 0xD800 ∨ 0xDFFF < rune.toNat ∧ rune.toNat < 0x110000 := rune.valid

/-- A number below 256 is the value of its byte. -/
theorem toNat_ofNat_of_lt {value : Nat} (small : value < 256) :
    (UInt8.ofNat value).toNat = value := by
  rw [UInt8.toNat_ofNat']
  exact Nat.mod_eq_of_lt small

namespace Decoder

variable {runes : Text} {value part : Nat} {next : ByteRange} {later : List ByteRange}

/-- A further byte in its range takes a sequence further by six bits. -/
theorem feed_further (least : next.least ≤ 0x80 + part) (greatest : 0x80 + part ≤ next.greatest)
    (bits : part < 64) :
    feed ⟨runes, some ⟨value, next, later⟩⟩ (UInt8.ofNat (0x80 + part)) =
      continueWith runes (value * 64 + part) later := by
  have byte : (UInt8.ofNat (0x80 + part)).toNat = 0x80 + part := toNat_ofNat_of_lt (by omega)
  have inside : next.contains (UInt8.ofNat (0x80 + part)) = true := by
    unfold ByteRange.contains
    rw [byte, Bool.and_eq_true, decide_eq_true_eq, decide_eq_true_eq]
    exact ⟨least, greatest⟩
  unfold feed
  simp only [inside, if_true, byte, Nat.add_sub_cancel_left]

/-- Any six bits continue a sequence where nothing narrower is announced. -/
theorem feed_continuation (bits : part < 64) :
    feed ⟨runes, some ⟨value, continuation, later⟩⟩ (UInt8.ofNat (0x80 + part)) =
      continueWith runes (value * 64 + part) later := by
  apply feed_further
  · exact Nat.le_add_right _ _
  · show 0x80 + part ≤ 0xBF
    omega
  · exact bits

/-- A first byte announces its sequence. -/
theorem feed_first {byte : UInt8} {wanted : List ByteRange} (leads : lead? byte = some (value, wanted)) :
    feed ⟨runes, none⟩ byte = continueWith runes value wanted := by
  unfold feed start
  simp only [leads]

/-- A rune whose bytes are all read is complete. -/
theorem continueWith_toNat (rune : Char) : continueWith runes rune.toNat [] = ⟨rune :: runes, none⟩ := by
  rw [continueWith, Char.ofNat_toNat]

end Decoder

open Decoder

/-! ## First bytes -/

/-- The only byte of a rune announces none. -/
theorem lead?_of_one {part : Nat} (most : part < 0x80) : lead? (UInt8.ofNat part) = some (part, []) := by
  have byte : (UInt8.ofNat part).toNat = part := toNat_ofNat_of_lt (by omega)
  unfold lead?
  simp only [byte]
  rw [if_pos most]

/-- The first byte of two announces one more. -/
theorem lead?_of_two {part : Nat} (least : 2 ≤ part) (most : part < 32) :
    lead? (UInt8.ofNat (0xC0 + part)) = some (part, [continuation]) := by
  have byte : (UInt8.ofNat (0xC0 + part)).toNat = 0xC0 + part := toNat_ofNat_of_lt (by omega)
  unfold lead?
  simp only [byte]
  rw [if_neg (by omega), if_neg (by omega), if_pos (by omega), Nat.add_sub_cancel_left]

/-- The range that the first byte of three announces for the second one: it leaves out overlong forms and
surrogates. -/
def secondOfThree (part : Nat) : ByteRange :=
  if part = 0 then ⟨0xA0, 0xBF⟩ else if part = 13 then ⟨0x80, 0x9F⟩ else continuation

/-- The first byte of three announces two more. -/
theorem lead?_of_three {part : Nat} (most : part < 16) :
    lead? (UInt8.ofNat (0xE0 + part)) = some (part, [secondOfThree part, continuation]) := by
  have byte : (UInt8.ofNat (0xE0 + part)).toNat = 0xE0 + part := toNat_ofNat_of_lt (by omega)
  unfold lead? secondOfThree
  simp only [byte]
  rw [if_neg (by omega), if_neg (by omega), if_neg (by omega)]
  by_cases first : part = 0
  · rw [if_pos (by omega), if_pos first, first]
  · rw [if_neg (by omega), if_neg first]
    by_cases surrogate : part = 13
    · rw [if_pos (by omega), if_pos surrogate, surrogate]
    · rw [if_neg (by omega), if_pos (by omega), if_neg surrogate, Nat.add_sub_cancel_left]

/-- The range that the first byte of four announces for the second one: it leaves out overlong forms and
values past the last code point. -/
def secondOfFour (part : Nat) : ByteRange :=
  if part = 0 then ⟨0x90, 0xBF⟩ else if part = 4 then ⟨0x80, 0x8F⟩ else continuation

/-- The first byte of four announces three more. -/
theorem lead?_of_four {part : Nat} (most : part ≤ 4) :
    lead? (UInt8.ofNat (0xF0 + part)) =
      some (part, [secondOfFour part, continuation, continuation]) := by
  have byte : (UInt8.ofNat (0xF0 + part)).toNat = 0xF0 + part := toNat_ofNat_of_lt (by omega)
  unfold lead? secondOfFour
  simp only [byte]
  rw [if_neg (by omega), if_neg (by omega), if_neg (by omega), if_neg (by omega), if_neg (by omega),
    if_neg (by omega)]
  by_cases first : part = 0
  · rw [if_pos (by omega), if_pos first, first]
  · rw [if_neg (by omega), if_neg first]
    by_cases last : part = 4
    · rw [if_neg (by omega), if_pos (by omega), if_pos last, last]
    · rw [if_pos (by omega), if_neg last, Nat.add_sub_cancel_left]

/-! ## Reading what is written -/

section

variable (runes : Text) {point : Nat}

/-- The two bytes of a code point are read as the code point. -/
theorem foldl_feed_two (least : 0x80 ≤ point) (most : point < 0x800) :
    [UInt8.ofNat (0xC0 + point / 64), UInt8.ofNat (0x80 + point % 64)].foldl feed ⟨runes, none⟩ =
      continueWith runes point [] := by
  have first : feed ⟨runes, none⟩ (UInt8.ofNat (0xC0 + point / 64)) =
      ⟨runes, some ⟨point / 64, continuation, []⟩⟩ :=
    feed_first (lead?_of_two (by omega) (by omega))
  have value : point / 64 * 64 + point % 64 = point := by omega
  rw [List.foldl_cons, first, List.foldl_cons, feed_continuation (by omega), List.foldl_nil, value]

/-- The second byte of three is announced by the first one. -/
theorem secondOfThree_bounds (least : 0x800 ≤ point) (valid : point < 0xD800 ∨ 0xDFFF < point) :
    (secondOfThree (point / 4096)).least ≤ 0x80 + point / 64 % 64 ∧
      0x80 + point / 64 % 64 ≤ (secondOfThree (point / 4096)).greatest := by
  unfold secondOfThree
  split
  · simp only
    omega
  · split
    · simp only
      omega
    · simp only [continuation]
      omega

/-- So are its three bytes, unless it is a surrogate. -/
theorem foldl_feed_three (least : 0x800 ≤ point) (most : point < 0x10000)
    (valid : point < 0xD800 ∨ 0xDFFF < point) :
    [UInt8.ofNat (0xE0 + point / 4096), UInt8.ofNat (0x80 + point / 64 % 64),
      UInt8.ofNat (0x80 + point % 64)].foldl feed ⟨runes, none⟩ = continueWith runes point [] := by
  have first : feed ⟨runes, none⟩ (UInt8.ofNat (0xE0 + point / 4096)) =
      ⟨runes, some ⟨point / 4096, secondOfThree (point / 4096), [continuation]⟩⟩ :=
    feed_first (lead?_of_three (by omega))
  have within := secondOfThree_bounds least valid
  have second : feed ⟨runes, some ⟨point / 4096, secondOfThree (point / 4096), [continuation]⟩⟩
      (UInt8.ofNat (0x80 + point / 64 % 64)) =
        ⟨runes, some ⟨point / 4096 * 64 + point / 64 % 64, continuation, []⟩⟩ :=
    feed_further within.1 within.2 (by omega)
  have value : (point / 4096 * 64 + point / 64 % 64) * 64 + point % 64 = point := by omega
  rw [List.foldl_cons, first, List.foldl_cons, second, List.foldl_cons, feed_continuation (by omega),
    List.foldl_nil, value]

/-- The second byte of four is announced by the first one. -/
theorem secondOfFour_bounds (least : 0x10000 ≤ point) (most : point < 0x110000) :
    (secondOfFour (point / 262144)).least ≤ 0x80 + point / 4096 % 64 ∧
      0x80 + point / 4096 % 64 ≤ (secondOfFour (point / 262144)).greatest := by
  unfold secondOfFour
  split
  · simp only
    omega
  · split
    · simp only
      omega
    · simp only [continuation]
      omega

/-- So are its four bytes. -/
theorem foldl_feed_four (least : 0x10000 ≤ point) (most : point < 0x110000) :
    [UInt8.ofNat (0xF0 + point / 262144), UInt8.ofNat (0x80 + point / 4096 % 64),
      UInt8.ofNat (0x80 + point / 64 % 64), UInt8.ofNat (0x80 + point % 64)].foldl feed
        ⟨runes, none⟩ = continueWith runes point [] := by
  have first : feed ⟨runes, none⟩ (UInt8.ofNat (0xF0 + point / 262144)) =
      ⟨runes, some ⟨point / 262144, secondOfFour (point / 262144), [continuation, continuation]⟩⟩ :=
    feed_first (lead?_of_four (by omega))
  have within := secondOfFour_bounds least most
  have second : feed ⟨runes, some ⟨point / 262144, secondOfFour (point / 262144),
      [continuation, continuation]⟩⟩ (UInt8.ofNat (0x80 + point / 4096 % 64)) =
        ⟨runes, some ⟨point / 262144 * 64 + point / 4096 % 64, continuation, [continuation]⟩⟩ :=
    feed_further within.1 within.2 (by omega)
  have third : feed ⟨runes, some ⟨point / 262144 * 64 + point / 4096 % 64, continuation,
      [continuation]⟩⟩ (UInt8.ofNat (0x80 + point / 64 % 64)) =
        ⟨runes, some ⟨(point / 262144 * 64 + point / 4096 % 64) * 64 + point / 64 % 64,
          continuation, []⟩⟩ :=
    feed_continuation (by omega)
  have value : ((point / 262144 * 64 + point / 4096 % 64) * 64 + point / 64 % 64) * 64 + point % 64 =
      point := by omega
  rw [List.foldl_cons, first, List.foldl_cons, second, List.foldl_cons, third, List.foldl_cons,
    feed_continuation (by omega), List.foldl_nil, value]

end

/-- The bytes of a rune are read as the rune. -/
theorem feed_encodeRune (runes : Text) (rune : Char) :
    (encodeRune rune).foldl feed ⟨runes, none⟩ = ⟨rune :: runes, none⟩ := by
  have valid := toNat_valid rune
  rw [← continueWith_toNat]
  unfold encodeRune
  by_cases one : rune.toNat < 0x80
  · simp only [if_pos one]
    exact feed_first (lead?_of_one one)
  · by_cases two : rune.toNat < 0x800
    · simp only [if_neg one, if_pos two]
      exact foldl_feed_two runes (by omega) two
    · by_cases three : rune.toNat < 0x10000
      · simp only [if_neg one, if_neg two, if_pos three]
        exact foldl_feed_three runes (by omega) three (by omega)
      · simp only [if_neg one, if_neg two, if_neg three]
        exact foldl_feed_four runes (by omega) (by omega)

/-- The bytes of a text are read as its runes, one after another. -/
theorem feed_encode (runes text : Text) :
    (encode text).foldl feed ⟨runes, none⟩ = ⟨text.reverse ++ runes, none⟩ := by
  induction text generalizing runes with
  | nil => rfl
  | cons rune rest ih =>
    have bytes : encode (rune :: rest) = encodeRune rune ++ encode rest := List.flatMap_cons
    rw [bytes, List.foldl_append, feed_encodeRune, ih, List.reverse_cons, List.append_assoc]
    rfl

/-- The bytes of a text are read as the text. -/
theorem decode_encode (text : Text) : decode (encode text) = text := by
  have read := feed_encode [] text
  rw [List.append_nil] at read
  unfold decode Decoder.empty
  rw [read]
  exact List.reverse_reverse text

/-! ## The first rune -/

/-- Runes that are read stay. -/
theorem Decoder.suffix_feed (decoder : Decoder) (byte : UInt8) :
    decoder.runes <:+ (decoder.feed byte).runes := by
  have continued : ∀ (runes : Text) value wanted, runes <:+ (continueWith runes value wanted).runes := by
    intro runes value wanted
    cases wanted with
    | nil => exact List.suffix_cons _ _
    | cons next later => exact List.suffix_refl _
  have begun : ∀ runes : Text, runes <:+ (start runes byte).runes := by
    intro runes
    unfold start
    split
    · exact List.suffix_cons _ _
    · exact continued _ _ _
  unfold feed
  split
  · exact begun _
  · split
    · exact continued _ _ _
    · exact (List.suffix_cons _ _).trans (begun _)

/-- So they do when any bytes are read behind them. -/
theorem Decoder.suffix_foldl_feed (decoder : Decoder) (bytes : Bytes) :
    decoder.runes <:+ (bytes.foldl feed decoder).runes := by
  induction bytes generalizing decoder with
  | nil => exact List.suffix_refl _
  | cons byte rest ih => exact (decoder.suffix_feed byte).trans (ih _)

/-- Bytes begin with those of one rune at most. -/
theorem encodeRune_append_inj {rune other : Char} {behind behind' : Bytes}
    (same : encodeRune rune ++ behind = encodeRune other ++ behind') : rune = other := by
  have read : ∀ (first : Char) (later : Bytes),
      [first] <:+ ((encodeRune first ++ later).foldl feed ⟨[], none⟩).runes := by
    intro first later
    rw [List.foldl_append, feed_encodeRune]
    exact Decoder.suffix_foldl_feed ⟨[first], none⟩ later
  have left := read rune behind
  rw [same] at left
  have ends := List.suffix_of_suffix_length_le left (read other behind') (Nat.le_refl 1)
  exact List.singleton_inj.1 (ends.eq_of_length rfl)

/-- A rune has one to four bytes. -/
theorem length_encodeRune_mem (rune : Char) : (encodeRune rune).length ∈ [1, 2, 3, 4] := by
  unfold encodeRune
  by_cases one : rune.toNat < 0x80
  · simp [one]
  · by_cases two : rune.toNat < 0x800
    · simp [one, two]
    · by_cases three : rune.toNat < 0x10000 <;> simp [one, two, three]

/-- The bytes of one rune are read as this rune alone. -/
theorem decode_encodeRune (rune : Char) : decode (encodeRune rune) = [rune] := by
  unfold decode Decoder.empty
  rw [feed_encodeRune]
  rfl

/-- Bytes begin with the bytes of the first rune. -/
theorem exists_of_firstRune? {bytes : Bytes} {rune : Char} (found : firstRune? bytes = some rune) :
    ∃ behind, bytes = encodeRune rune ++ behind := by
  obtain ⟨count, _, isRune⟩ := List.exists_of_findSome?_eq_some found
  split at isRune
  · rename_i first _
    split at isRune
    · rename_i written
      cases isRune
      exact ⟨bytes.drop count, by rw [written, List.take_append_drop]⟩
    · cases isRune
  · cases isRune

/-- The first rune of bytes that begin with those of a rune is this rune. -/
theorem firstRune?_encodeRune_append (rune : Char) (behind : Bytes) :
    firstRune? (encodeRune rune ++ behind) = some rune := by
  have isSome : (firstRune? (encodeRune rune ++ behind)).isSome = true := by
    unfold firstRune?
    rw [List.findSome?_isSome_iff]
    refine ⟨_, length_encodeRune_mem rune, ?_⟩
    simp only [List.take_left, decode_encodeRune, if_true, Option.isSome_some]
  obtain ⟨first, found⟩ := Option.isSome_iff_exists.1 isSome
  obtain ⟨behind', same⟩ := exists_of_firstRune? found
  rw [found, encodeRune_append_inj same]

/-! ## Newlines -/

/-- The newline byte is among the bytes of a rune only if the rune is the newline. -/
theorem newline_mem_encodeRune {rune : Char} (member : Bytes.newline ∈ encodeRune rune) :
    rune = '\n' := by
  have valid := toNat_valid rune
  have other : ∀ value, 0x80 ≤ value → value < 256 → Bytes.newline ≠ UInt8.ofNat value := by
    intro value least most same
    have numbers := congrArg UInt8.toNat same
    rw [toNat_ofNat_of_lt most] at numbers
    have : Bytes.newline.toNat = 10 := rfl
    omega
  unfold encodeRune at member
  by_cases one : rune.toNat < 0x80
  · simp only [if_pos one, List.mem_singleton] at member
    have numbers := congrArg UInt8.toNat member
    rw [toNat_ofNat_of_lt (by omega)] at numbers
    exact Char.toNat_inj.1 numbers.symm
  · exfalso
    by_cases two : rune.toNat < 0x800
    · simp only [if_neg one, if_pos two, List.mem_cons, List.not_mem_nil, or_false] at member
      rcases member with same | same <;> exact other _ (by omega) (by omega) same
    · by_cases three : rune.toNat < 0x10000
      · simp only [if_neg one, if_neg two, if_pos three, List.mem_cons, List.not_mem_nil,
          or_false] at member
        rcases member with same | same | same <;> exact other _ (by omega) (by omega) same
      · simp only [if_neg one, if_neg two, if_neg three, List.mem_cons, List.not_mem_nil,
          or_false] at member
        rcases member with same | same | same | same <;> exact other _ (by omega) (by omega) same

/-- The bytes of a text have a newline exactly when the text has one. -/
theorem newline_mem_encode_iff {text : Text} : Bytes.newline ∈ encode text ↔ '\n' ∈ text := by
  constructor
  · intro member
    have ⟨rune, inside, byte⟩ := List.mem_flatMap.1 member
    rw [newline_mem_encodeRune byte] at inside
    exact inside
  · intro member
    exact List.mem_flatMap.2 ⟨'\n', member, List.mem_singleton_self _⟩

/-- Bits that no newline begins with, however the further bytes that are wanted continue them. -/
def AvoidsNewline (value : Nat) : (wanted : List ByteRange) → Prop
  | [] => value ≠ 10
  | next :: _ => 10 < value * 64 + (next.least - 0x80)

/-- A first byte that is no newline does not begin one. -/
theorem avoidsNewline_of_lead? {byte : UInt8} (other : byte ≠ Bytes.newline) {value : Nat}
    {wanted : List ByteRange} (leads : lead? byte = some (value, wanted)) :
    AvoidsNewline value wanted := by
  have notTen : byte.toNat ≠ 10 := fun same => other (UInt8.toNat_inj.1 same)
  simp only [lead?] at leads
  repeat' split at leads
  all_goals
    simp only [Option.some.injEq, Prod.mk.injEq, reduceCtorEq] at leads
  all_goals
    obtain ⟨rfl, rfl⟩ := leads
    simp only [AvoidsNewline]
  all_goals omega

/-- Bits past the value of a newline are not continued to one. -/
theorem avoidsNewline_of_lt {value : Nat} (past : 10 < value) (wanted : List ByteRange) :
    AvoidsNewline value wanted := by
  cases wanted with
  | nil => exact Nat.ne_of_gt past
  | cons next later =>
    unfold AvoidsNewline
    omega

/-- A decoder that has read no newline and is not about to. -/
structure Decoder.Lineless (decoder : Decoder) : Prop where
  /-- No newline is read. -/
  runes : '\n' ∉ decoder.runes
  /-- The sequence that has begun is not continued to a newline. -/
  pending : ∀ pending ∈ decoder.pending, AvoidsNewline pending.value (pending.next :: pending.later)

/-- Only the number of the newline is the code point of a newline. -/
theorem ofNat_ne_newline {value : Nat} (other : value ≠ 10) : Char.ofNat value ≠ '\n' := by
  intro same
  by_cases valid : value.isValidChar
  · have isRune : Char.ofNat value = Char.ofNatAux value valid := dif_pos valid
    rw [isRune] at same
    exact other (congrArg Char.toNat same)
  · have isNone : Char.ofNat value = ⟨0, .inl (by decide)⟩ := dif_neg valid
    rw [isNone] at same
    cases same

namespace Decoder

variable {runes : Text} {byte : UInt8}

/-- A decoder that goes on without a newline ahead has none behind. -/
theorem lineless_continueWith (lineless : '\n' ∉ runes) {value : Nat} {wanted : List ByteRange}
    (avoids : AvoidsNewline value wanted) : (continueWith runes value wanted).Lineless := by
  cases wanted with
  | nil =>
    constructor
    · intro member
      rcases List.mem_cons.1 member with same | inside
      · exact ofNat_ne_newline avoids same.symm
      · exact lineless inside
    · intro pending isPending
      cases isPending
  | cons next later =>
    constructor
    · exact lineless
    · intro pending isPending
      cases isPending
      exact avoids

/-- Beginning a sequence with a byte that is no newline leads to no newline. -/
theorem lineless_start (lineless : '\n' ∉ runes) (other : byte ≠ Bytes.newline) :
    (start runes byte).Lineless := by
  unfold start
  cases leads : lead? byte with
  | none =>
    constructor
    · intro member
      rcases List.mem_cons.1 member with same | inside
      · cases same
      · exact lineless inside
    · intro pending isPending
      cases isPending
  | some announced =>
    exact lineless_continueWith lineless (avoidsNewline_of_lead? other leads)

/-- Neither does a byte that continues or cuts short a sequence. -/
theorem lineless_feed {decoder : Decoder} (lineless : decoder.Lineless) (other : byte ≠ Bytes.newline) :
    (decoder.feed byte).Lineless := by
  obtain ⟨runes, begun⟩ := decoder
  unfold feed
  cases begun with
  | none => exact lineless_start lineless.runes other
  | some pending =>
    have avoids : 10 < pending.value * 64 + (pending.next.least - 0x80) :=
      lineless.pending pending rfl
    simp only
    split
    · rename_i inside
      unfold ByteRange.contains at inside
      rw [Bool.and_eq_true, decide_eq_true_eq, decide_eq_true_eq] at inside
      apply lineless_continueWith lineless.runes
      apply avoidsNewline_of_lt
      omega
    · apply lineless_start _ other
      intro member
      rcases List.mem_cons.1 member with same | deep
      · cases same
      · exact lineless.runes deep

/-- Neither do any bytes without a newline, one after another. -/
theorem lineless_foldl_feed {decoder : Decoder} (lineless : decoder.Lineless) {bytes : Bytes}
    (without : Bytes.newline ∉ bytes) : (bytes.foldl feed decoder).Lineless := by
  induction bytes generalizing decoder with
  | nil => exact lineless
  | cons byte rest ih =>
    rw [List.mem_cons, not_or] at without
    apply ih
    · exact lineless_feed lineless fun same => without.1 same.symm
    · exact without.2

/-- A decoder that has read no newline ends without one. -/
theorem newline_notMem_finish {decoder : Decoder} (lineless : decoder.Lineless) :
    '\n' ∉ decoder.finish := by
  unfold finish
  cases decoder.pending with
  | none =>
    rw [List.mem_reverse]
    exact lineless.runes
  | some pending =>
    rw [List.mem_reverse]
    intro member
    rcases List.mem_cons.1 member with same | inside
    · cases same
    · exact lineless.runes inside

end Decoder

/-- Bytes without a newline are read as a text without one. -/
theorem newline_notMem_decode {bytes : Bytes} (without : Bytes.newline ∉ bytes) :
    '\n' ∉ decode bytes := by
  have empty : Decoder.Lineless .empty := ⟨List.not_mem_nil, fun _ isPending => nomatch isPending⟩
  exact newline_notMem_finish (lineless_foldl_feed empty without)

end PatternSearch.Utf8
