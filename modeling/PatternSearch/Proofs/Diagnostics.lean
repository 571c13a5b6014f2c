import PatternSearch.Proofs.Dividing
import PatternSearch.Proofs.Transcoding
import PatternSearch.Run

/-!
# Diagnostics are single lines

A path may hold any bytes, but a message shows them quoted: a text rune by rune (`quoted_ofText`), and
bytes that are no text byte by byte. Quoted bytes have no newline (`newline_notMem_quoted`). So the message
of a path error is a single line, unless the system describes the cause in several lines, and reporting it
writes exactly one line (`isLine_programLine`).
-/
namespace PatternSearch

/-! ## Quoted texts -/

/-- No digit is a newline. -/
theorem digitChar_ne_newline (digit : Nat) : Nat.digitChar digit ≠ '\n' := by
  grind [Nat.digitChar]

/-- A number is written without newlines. -/
theorem newline_notMem_toDigits {base : Nat} (several : 1 < base) (number : Nat) :
    '\n' ∉ Nat.toDigits base number := by
  induction number using Nat.strongRecOn with
  | ind number ih =>
    rw [Nat.toDigits_eq_if several]
    split
    · rw [List.mem_singleton]
      exact fun same => digitChar_ne_newline number same.symm
    · have smaller : number / base < number := Nat.div_lt_self (by omega) several
      rw [List.mem_append, List.mem_singleton]
      rintro (inFront | last)
      · exact ih _ smaller inFront
      · exact digitChar_ne_newline _ last.symm

/-- A rune inside quotation marks is written without newlines. -/
theorem newline_notMem_quoteRune (rune : Char) : '\n' ∉ Text.quoteRune rune := by
  unfold Text.quoteRune
  split
  case h_7 other =>
    split
    · rw [List.mem_singleton]
      exact fun same => other same.symm
    · rw [List.mem_append, List.mem_append]
      rintro ((inFront | digits) | last)
      · exact absurd inFront (by decide)
      · exact newline_notMem_toDigits (by decide) _ digits
      · exact absurd last (by decide)
  all_goals decide

/-- No capital digit is a newline. -/
theorem toUpper_digitChar_ne_newline {digit : Nat} (single : digit < 16) :
    (Nat.digitChar digit).toUpper ≠ '\n' := by
  revert digit
  decide

/-- A byte inside quotation marks is written without newlines. -/
theorem newline_notMem_quoteByte (byte : UInt8) : '\n' ∉ Bytes.quoteByte byte := by
  have size : byte.toNat < 256 := byte.toNat_lt
  unfold Bytes.quoteByte
  simp only [List.mem_cons, List.not_mem_nil, or_false, not_or]
  exact ⟨by decide, by decide, (toUpper_digitChar_ne_newline (by omega)).symm,
    (toUpper_digitChar_ne_newline (by omega)).symm⟩

/-- Bytes inside quotation marks are written without newlines. -/
theorem newline_notMem_quoteAll (bytes : Bytes) : '\n' ∉ Bytes.quoteAll bytes := by
  fun_induction Bytes.quoteAll bytes with
  | case1 => exact List.not_mem_nil
  | case2 byte rest rune _ ih =>
    rw [List.mem_append, not_or]
    exact ⟨newline_notMem_quoteRune rune, ih⟩
  | case3 byte rest _ ih =>
    rw [List.mem_append, not_or]
    exact ⟨newline_notMem_quoteByte byte, ih⟩

/-- Quoted bytes are one line. -/
theorem newline_notMem_quoted (bytes : Bytes) : '\n' ∉ bytes.quoted := by
  unfold Bytes.quoted
  rw [List.mem_append, List.mem_append]
  rintro ((opening | inside) | closing)
  · exact absurd opening (by decide)
  · exact newline_notMem_quoteAll bytes inside
  · exact absurd closing (by decide)

/-- The bytes of a text are quoted rune by rune. -/
theorem quoteAll_encode (text : Text) :
    Bytes.quoteAll (Utf8.encode text) = text.flatMap Text.quoteRune := by
  induction text with
  | nil => exact Bytes.quoteAll.eq_1
  | cons rune rest ih =>
    have bytes : Utf8.encode (rune :: rest) = Utf8.encodeRune rune ++ Utf8.encode rest :=
      List.flatMap_cons
    have front := Utf8.firstRune?_encodeRune_append rune (Utf8.encode rest)
    rw [bytes, List.flatMap_cons, ← ih]
    cases written : Utf8.encodeRune rune with
    | nil =>
      have size := Utf8.length_encodeRune_mem rune
      rw [written] at size
      exact absurd size (by decide)
    | cons first later =>
      rw [written, List.cons_append] at front
      rw [List.cons_append, Bytes.quoteAll.eq_2]
      simp only [front, written]
      rw [List.length_cons, Nat.add_sub_cancel, List.drop_left]

/-- A path that a text names is shown between quotation marks, rune by rune. -/
theorem quoted_ofText (text : Text) :
    Bytes.quoted (PathName.ofText text) = ['"'] ++ text.flatMap Text.quoteRune ++ ['"'] := by
  unfold Bytes.quoted PathName.ofText
  rw [quoteAll_encode]

/-! ## Messages -/

/-- The system describes the cause in one line. The causes with a description of their own are all
described so. -/
def FileCause.SingleLine : FileCause → Prop
  | .other _ description => '\n' ∉ description.toList
  | _ => True

/-- The cause of a path error is described in one line, if it has one. -/
def PathError.SingleLine : PathError → Prop
  | .opening _ cause | .listing _ cause => cause.SingleLine
  | .directory _ => True

/-- A description with a number is in one line if the description is. -/
theorem newline_notMem_numbered (code : Nat) {description : String}
    (single : '\n' ∉ description.toList) :
    '\n' ∉ (FileCause.message.numbered code description).toList := by
  have digits : '\n' ∉ (toString code).toList := by
    change '\n' ∉ (String.ofList (Nat.toDigits 10 code)).toList
    rw [String.toList_ofList]
    exact newline_notMem_toDigits (by decide) code
  unfold FileCause.message.numbered
  simp only [String.toList_append, List.mem_append, not_or]
  exact ⟨⟨⟨single, by decide⟩, digits⟩, by decide⟩

/-- A cause that is described in one line is one line in words. -/
theorem newline_notMem_message_cause {cause : FileCause} (single : cause.SingleLine) :
    '\n' ∉ cause.message.toList := by
  cases cause with
  | nulInName => decide
  | other code description => exact newline_notMem_numbered code single
  | _ => exact newline_notMem_numbered _ (by decide)

/-- A path error whose cause is described in one line is one line in words. -/
theorem newline_notMem_message {error : PathError} (single : error.SingleLine) :
    '\n' ∉ error.message.toList := by
  unfold PathError.message
  cases error with
  | opening path cause | listing path cause =>
    simp only [String.toList_append, String.toList_ofList, List.mem_append, not_or]
    exact ⟨⟨⟨by decide, newline_notMem_quoted path⟩, by decide⟩, newline_notMem_message_cause single⟩
  | directory path =>
    simp only [String.toList_append, String.toList_ofList, List.mem_append, not_or]
    exact ⟨newline_notMem_quoted path, by decide⟩

/-- The bytes are one line with a newline behind it. -/
def Bytes.IsLine (bytes : Bytes) : Prop := ∃ line, newline ∉ line ∧ bytes = line ++ [newline]

/-- A path error is reported in one line. -/
theorem isLine_programLine {error : PathError} (single : error.SingleLine) :
    Bytes.IsLine (programLine error.message) := by
  let line := programName.toList ++ ": ".toList ++ error.message.toList
  have without : '\n' ∉ line := by
    simp only [line, List.mem_append, not_or]
    exact ⟨⟨by decide, by decide⟩, newline_notMem_message single⟩
  refine ⟨Utf8.encode line, fun member => without (Utf8.newline_mem_encode_iff.1 member), ?_⟩
  unfold programLine messageBytes
  rw [String.toList_append, String.toList_append, String.toList_append]
  exact List.flatMap_append

end PatternSearch
