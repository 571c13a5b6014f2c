import Mathlib.Data.List.Basic
import Mathlib.Data.List.TakeWhile
import PatternSearch.Bytes.Lines

/-!
# Lines of a buffer

No line of a buffer has a newline (`newline_notMem_of_mem_lines`), and lines without newlines that are
written one after another, each with a newline behind it, are the lines of what is written
(`lines_ended`).

Every buffer is made of ended lines, perhaps with an unfinished one behind them (`ended_cases`). From this
shape everything else is read off: how many lines there are, how the buffer is put together from them again,
and that lines behind a newline do not depend on what stands before it (`lines_append`).

Lines are taken off one request at a time. The requests are answered with the lines in order, and with
nothing from then on (`answer_eq`).
-/
namespace PatternSearch.Bytes

variable {line bytes : Bytes}

/-- Nothing is left to take from an empty buffer. -/
theorem lines_nil : lines [] = [] := by
  rw [lines]
  split
  · rfl
  · rename_i found
    cases found

/-- The lines of a buffer are its first line and those of the rest. -/
theorem lines_of_nextLine? {rest : Bytes} (found : nextLine? bytes = some (line, rest)) :
    lines bytes = line :: lines rest := by
  rw [lines]
  split
  · rename_i none
    rw [none] at found
    cases found
  · rename_i isNext
    rw [isNext] at found
    cases found
    rfl

/-- The first line has no newline. -/
theorem newline_notMem_of_nextLine? {rest : Bytes} (found : nextLine? bytes = some (line, rest)) :
    newline ∉ line := by
  cases bytes with
  | nil => cases found
  | cons byte tail =>
    simp only [nextLine?, Option.some.injEq, Prod.mk.injEq] at found
    obtain ⟨rfl, -⟩ := found
    intro member
    have other := List.all_eq_true.1 List.all_takeWhile newline member
    exact bne_iff_ne.1 other rfl

/-- No line of a buffer has a newline. -/
theorem newline_notMem_of_mem_lines (member : line ∈ lines bytes) : newline ∉ line := by
  fun_induction lines bytes with
  | case1 bytes ended => cases member
  | case2 bytes first rest found ih =>
    rcases List.mem_cons.1 member with same | later
    · rw [same]
      exact newline_notMem_of_nextLine? found
    · exact ih later

/-- A newline ends the bytes before it as a line. -/
theorem nextLine?_ended (without : newline ∉ line) (rest : Bytes) :
    nextLine? (line ++ newline :: rest) = some (line, rest) := by
  have plain : ∀ byte ∈ line, (byte != newline) = true := by
    intro byte member
    exact bne_iff_ne.2 fun same => without (same ▸ member)
  have front : (line ++ newline :: rest).takeWhile (· != newline) = line := by
    rw [List.takeWhile_append_of_pos plain, List.takeWhile_cons_of_neg (by simp), List.append_nil]
  have behind : (line ++ newline :: rest).dropWhile (· != newline) = newline :: rest := by
    rw [List.dropWhile_append_of_pos plain, List.dropWhile_cons_of_neg (by simp)]
  cases shape : line ++ newline :: rest with
  | nil => simp at shape
  | cons byte tail =>
    rw [shape] at front behind
    simp only [nextLine?, front, behind, List.drop_one, List.tail_cons]

/-- Lines one after another, each with a newline behind it. -/
def ended (written : List Bytes) : Bytes := written.flatMap fun line => line ++ [newline]

/-- No lines have no bytes. -/
@[simp] theorem ended_nil : ended [] = [] := rfl

/-- The bytes of lines begin with the first line and its newline. -/
@[simp] theorem ended_cons (line : Bytes) (rest : List Bytes) :
    ended (line :: rest) = line ++ newline :: ended rest := by
  rw [ended, List.flatMap_cons, List.append_assoc, List.singleton_append, ended]

/-- The bytes of lines end with the last line and its newline. -/
theorem ended_concat (written : List Bytes) (last : Bytes) :
    ended (written ++ [last]) = ended written ++ (last ++ [newline]) := by
  rw [ended, List.flatMap_append, List.flatMap_singleton, ended]

/-- Ended lines end in a newline. -/
theorem getLast?_ended_concat (written : List Bytes) (last : Bytes) :
    (ended (written ++ [last])).getLast? = some newline := by
  rw [ended_concat, ← List.append_assoc, List.getLast?_concat]

variable {written : List Bytes} {last : Bytes}

/-- Lines without newlines, each with a newline behind it, come before the lines of the rest. -/
theorem lines_ended_append (without : ∀ line ∈ written, newline ∉ line) (rest : Bytes) :
    lines (ended written ++ rest) = written ++ lines rest := by
  induction written with
  | nil => rfl
  | cons line others ih =>
    have first := nextLine?_ended (without line List.mem_cons_self) (ended others ++ rest)
    rw [ended_cons, List.append_assoc, List.cons_append, lines_of_nextLine? first,
      ih fun other member => without other (List.mem_cons_of_mem _ member), List.cons_append]

/-- Lines without newlines, each with a newline behind it, are the lines of what they make up. -/
theorem lines_ended (without : ∀ line ∈ written, newline ∉ line) : lines (ended written) = written := by
  have before := lines_ended_append without []
  rwa [lines_nil, List.append_nil, List.append_nil] at before

/-- Bytes without a newline are one line, unless there are none. -/
theorem lines_unfinished (nonempty : last ≠ []) (without : newline ∉ last) : lines last = [last] := by
  have plain : ∀ byte ∈ last, (byte != newline) = true := by
    intro byte member
    exact bne_iff_ne.2 fun same => without (same ▸ member)
  have found : nextLine? last = some (last, []) := by
    cases last with
    | nil => exact absurd rfl nonempty
    | cons byte tail =>
      simp only [nextLine?, List.takeWhile_eq_self_iff.2 plain, List.dropWhile_eq_nil_iff.2 plain,
        List.drop_nil]
  rw [lines_of_nextLine? found, lines_nil]

/-- A buffer is ended lines with perhaps an unfinished one behind them. -/
theorem exists_ended_append (bytes : Bytes) :
    ∃ written rest, bytes = ended written ++ rest ∧ (∀ line ∈ written, newline ∉ line) ∧
      newline ∉ rest := by
  induction bytes with
  | nil => exact ⟨[], [], rfl, nofun, List.not_mem_nil⟩
  | cons byte tail ih =>
    obtain ⟨written, rest, same, without, unfinished⟩ := ih
    by_cases isNewline : byte = newline
    · refine ⟨[] :: written, rest, by rw [same, isNewline]; rfl, ?_, unfinished⟩
      exact List.forall_mem_cons.2 ⟨List.not_mem_nil, without⟩
    · have other := Ne.symm isNewline
      cases written with
      | nil =>
        refine ⟨[], byte :: rest, by rw [same]; rfl, nofun, ?_⟩
        exact List.not_mem_cons_of_ne_of_not_mem other unfinished
      | cons first others =>
        have ⟨inFirst, inOthers⟩ := List.forall_mem_cons.1 without
        refine ⟨(byte :: first) :: others, rest, by rw [same]; simp, ?_, unfinished⟩
        exact List.forall_mem_cons.2 ⟨List.not_mem_cons_of_ne_of_not_mem other inFirst, inOthers⟩

/-- The last byte of an unfinished line is no newline. -/
theorem getLast?_unfinished (nonempty : last ≠ []) (without : newline ∉ last) (bytes : Bytes) :
    (bytes ++ last).getLast? ≠ some newline := by
  intro isNewline
  rw [List.getLast?_append_of_ne_nil _ nonempty] at isNewline
  exact without (List.mem_of_getLast? isNewline)

/-- Either every line of a buffer is ended, and then the buffer is empty or ends in a newline, or the last
one is not, and then the buffer does not end in a newline. -/
theorem ended_cases (bytes : Bytes) :
    (∃ written, bytes = ended written ∧ (∀ line ∈ written, newline ∉ line) ∧
      (bytes = [] ∨ bytes.getLast? = some newline)) ∨
    ∃ written last, bytes = ended written ++ last ∧ (∀ line ∈ written, newline ∉ line) ∧
      newline ∉ last ∧ last ≠ [] ∧ bytes ≠ [] ∧ bytes.getLast? ≠ some newline := by
  obtain ⟨written, rest, same, without, unfinished⟩ := exists_ended_append bytes
  by_cases empty : rest = []
  · rw [empty, List.append_nil] at same
    refine .inl ⟨written, same, without, ?_⟩
    rcases List.eq_nil_or_concat' written with none | ⟨others, line, isConcat⟩
    · exact .inl (by rw [same, none]; rfl)
    · exact .inr (by rw [same, isConcat, getLast?_ended_concat])
  · refine .inr ⟨written, rest, same, without, unfinished, empty, ?_, ?_⟩
    · rw [same]
      exact List.append_ne_nil_of_right_ne_nil _ empty
    · rw [same]
      exact getLast?_unfinished empty unfinished _

/-- The lines behind a newline do not depend on what stands before it. -/
theorem lines_append {before : Bytes} (isEnded : before = [] ∨ before.getLast? = some newline)
    (behind : Bytes) : lines (before ++ behind) = lines before ++ lines behind := by
  rcases ended_cases before with ⟨written, same, without, _⟩ |
    ⟨_, _, _, _, _, _, nonempty, notEnded⟩
  · rw [same, lines_ended_append without, lines_ended without]
  · rcases isEnded with empty | isNewline
    · exact absurd empty nonempty
    · exact absurd isNewline notEnded

/-! ## Putting lines together -/

/-- Lines with newlines between them are ended lines and the last one. -/
theorem intercalate_concat (written : List Bytes) (last : Bytes) :
    [newline].intercalate (written ++ [last]) = ended written ++ last := by
  induction written with
  | nil => exact List.intercalate_singleton
  | cons line rest ih =>
    have nonempty : rest ++ [last] ≠ [] := List.concat_ne_nil last rest
    rw [List.cons_append, List.intercalate_cons_of_ne_nil nonempty, ih, ended_cons]
    simp

/-- A buffer is its lines with newlines between them, and one more newline if it ends in one. -/
theorem intercalate_lines (bytes : Bytes) :
    [newline].intercalate (lines bytes) ++ (if bytes.getLast? = some newline then [newline] else []) =
      bytes := by
  rcases ended_cases bytes with ⟨written, same, without, isEnded⟩ |
    ⟨written, last, same, without, unfinished, nonempty, _, notEnded⟩
  · rcases List.eq_nil_or_concat' written with none | ⟨others, line, isConcat⟩
    · rw [same, none, ended_nil, lines_nil]
      rfl
    · have ends : bytes.getLast? = some newline := by
        rw [same, isConcat, getLast?_ended_concat]
      rw [if_pos ends, same, lines_ended without, isConcat, intercalate_concat, ended_concat,
        List.append_assoc]
  · rw [if_neg notEnded, List.append_nil, same, lines_ended_append without,
      lines_unfinished nonempty unfinished, intercalate_concat]

/-- There are as many newlines as ended lines. -/
theorem count_ended (without : ∀ line ∈ written, newline ∉ line) :
    (ended written).count newline = written.length := by
  induction written with
  | nil => rfl
  | cons line rest ih =>
    have ⟨inLine, inRest⟩ := List.forall_mem_cons.1 without
    rw [ended_cons, List.count_append, List.count_eq_zero_of_not_mem inLine, List.count_cons_self,
      ih inRest, Nat.zero_add, List.length_cons]

/-- A buffer has as many lines as newlines, and one more if it goes on behind the last of them. -/
theorem length_lines (bytes : Bytes) :
    (lines bytes).length =
      bytes.count newline + if bytes ≠ [] ∧ bytes.getLast? ≠ some newline then 1 else 0 := by
  rcases ended_cases bytes with ⟨written, same, without, isEnded⟩ |
    ⟨written, last, same, without, unfinished, nonempty, notEmpty, notEnded⟩
  · rw [if_neg (fun goesOn => isEnded.elim goesOn.1 goesOn.2), same, lines_ended without,
      count_ended without]
    rfl
  · rw [if_pos ⟨notEmpty, notEnded⟩, same, lines_ended_append without,
      lines_unfinished nonempty unfinished, List.count_append, count_ended without,
      List.count_eq_zero_of_not_mem unfinished, List.length_append]
    rfl

/-- Without the newline behind the last line the lines stay, unless the last one is empty. -/
theorem lines_dropLast_ended (without : ∀ line ∈ written, newline ∉ line)
    (isLast : written.getLast? = some last) (nonempty : last ≠ []) :
    lines (ended written).dropLast = written := by
  obtain ⟨others, same⟩ := List.getLast?_eq_some_iff.1 isLast
  rw [same] at without
  have ⟨inOthers, inLast⟩ := List.forall_mem_append.1 without
  rw [same, ended_concat, ← List.append_assoc, List.dropLast_concat, lines_ended_append inOthers,
    lines_unfinished nonempty (inLast last (List.mem_singleton_self last))]

/-! ## Asking for lines -/

/-- Ask a buffer for its first line: the line, if there is one, and what is left of the buffer. -/
def next (bytes : Bytes) : Option Bytes × Bytes :=
  match nextLine? bytes with
  | some (line, rest) => (some line, rest)
  | none => (none, bytes)

/-- The answer to a request for a line that comes after a number of earlier ones. -/
def answer (bytes : Bytes) : Nat → Option Bytes
  | 0 => (next bytes).1
  | earlier + 1 => answer (next bytes).2 earlier

/-- Only an empty buffer has no first line. -/
theorem eq_nil_of_nextLine? (none : nextLine? bytes = none) : bytes = [] := by
  cases bytes with
  | nil => rfl
  | cons byte tail => cases none

/-- The requests are answered with the lines in order, and with nothing when there are no more. -/
theorem answer_eq (bytes : Bytes) (earlier : Nat) : bytes.answer earlier = (lines bytes)[earlier]? := by
  induction earlier generalizing bytes with
  | zero =>
    cases found : nextLine? bytes with
    | none =>
      rw [eq_nil_of_nextLine? found, lines_nil]
      rfl
    | some first => rw [answer, next, found, lines_of_nextLine? found, List.getElem?_cons_zero]
  | succ earlier ih =>
    rw [answer, ih]
    cases found : nextLine? bytes with
    | none =>
      rw [eq_nil_of_nextLine? found]
      show (lines [])[earlier]? = (lines [])[earlier + 1]?
      rw [lines_nil, List.getElem?_nil, List.getElem?_nil]
    | some first => rw [next, found, lines_of_nextLine? found, List.getElem?_cons_succ]

/-- Dividing a buffer loses, invents and reorders nothing. No line has a newline, and the lines with
newlines between them are the buffer, up to the newline at its end if it has one, which begins no further
line. There are as many lines as newlines, and one more if the buffer goes on behind the last newline. Asked
for one line after another the buffer gives these lines, and nothing from then on.

Lines without newlines that are written one after another are found again, and the newline behind the last
one may be missing if that line is not empty. -/
theorem lines_put_together (bytes : Bytes) (written : List Bytes) :
    (∀ line ∈ lines bytes, newline ∉ line) ∧
    ([newline].intercalate (lines bytes) ++ if bytes.getLast? = some newline then [newline] else []) =
      bytes ∧
    (lines bytes).length =
      bytes.count newline + (if bytes ≠ [] ∧ bytes.getLast? ≠ some newline then 1 else 0) ∧
    (∀ earlier, bytes.answer earlier = (lines bytes)[earlier]?) ∧
    ((∀ line ∈ written, newline ∉ line) →
      lines (written.flatMap fun line => line ++ [newline]) = written ∧
      ∀ last, written.getLast? = some last → last ≠ [] →
        lines (written.flatMap fun line => line ++ [newline]).dropLast = written) :=
  ⟨fun _ => newline_notMem_of_mem_lines, intercalate_lines bytes, length_lines bytes, answer_eq bytes,
    fun without => ⟨lines_ended without, fun _ => lines_dropLast_ended without⟩⟩

/-- The lines `a`, an empty line and `b` with a carriage return are found again when they are written, also
without the newline behind the last one. -/
theorem lines_put_together_with_empty_line :
    (∀ line ∈ [[0x61], [], [0x62, 0x0D]], newline ∉ line) ∧
      lines [0x61, 0x0A, 0x0A, 0x62, 0x0D, 0x0A] = [[0x61], [], [0x62, 0x0D]] ∧
      lines [0x61, 0x0A, 0x0A, 0x62, 0x0D] = [[0x61], [], [0x62, 0x0D]] := by
  have without : ∀ line ∈ [[0x61], [], [0x62, 0x0D]], newline ∉ line := by decide
  have ⟨_, _, _, _, again⟩ := lines_put_together [] [[0x61], [], [0x62, 0x0D]]
  have ⟨whole, shorter⟩ := again without
  exact ⟨without, whole, shorter [0x62, 0x0D] rfl (by decide)⟩

end PatternSearch.Bytes
