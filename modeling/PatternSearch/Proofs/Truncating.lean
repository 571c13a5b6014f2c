import PatternSearch.Proofs.Filtering

/-!
# Searching with little room

A sink with little room takes the pieces of a line one after another, so it may be full in the middle of
any of them. What it holds in the end does not depend on how the bytes are divided into pieces: all of them
if they fit (`Sink.writeAll_of_le`), and otherwise as many as there is room for (`Sink.writeAll_of_lt`).

A search writes the same pieces whatever the sink takes, so little room cuts its output off and changes
nothing else. The pieces for a buffer behind a newline are written behind those for the bytes before it
(`searchLines_of_capacity_and_parts`).
-/
namespace PatternSearch

namespace Sink

/-- The latest piece stands behind the others, whatever room there was and is. -/
theorem contents_cons (room earlier : Option Nat) (piece : Bytes) (written : List Bytes) :
    contents ⟨room, piece :: written⟩ = contents ⟨earlier, written⟩ ++ piece := by
  simp [contents]

variable {room : Nat} {pieces : List Bytes}

/-- A sink with room for all bytes of the pieces takes all of them. -/
theorem writeAll_of_le (written : List Bytes) (fits : pieces.flatten.length ≤ room) :
    writeAll ⟨some room, written⟩ pieces =
      .ok ⟨some (room - pieces.flatten.length), pieces.reverse ++ written⟩ := by
  induction pieces generalizing room written with
  | nil => rfl
  | cons piece rest ih =>
    rw [List.flatten_cons, List.length_append] at fits
    have first : write ⟨some room, written⟩ piece =
        .ok ⟨some (room - piece.length), piece :: written⟩ := if_pos (by omega)
    have others : rest.flatten.length ≤ room - piece.length := by omega
    rw [writeAll, List.foldlM_cons, first]
    change writeAll _ rest = _
    rw [ih _ others, List.flatten_cons, List.length_append, Nat.sub_sub, List.reverse_cons,
      List.append_assoc, List.singleton_append]

/-- A sink without room for all bytes of the pieces takes as many as there is room for, and fails. -/
theorem writeAll_of_lt (written : List Bytes) (full : room < pieces.flatten.length) :
    ∃ final, writeAll ⟨some room, written⟩ pieces = .error final ∧
      final.contents = contents ⟨some room, written⟩ ++ pieces.flatten.take room := by
  induction pieces generalizing room written with
  | nil => exact absurd full (Nat.not_lt_zero room)
  | cons piece rest ih =>
    rw [List.flatten_cons, List.length_append] at full
    rw [writeAll, List.foldlM_cons, List.flatten_cons]
    by_cases fits : piece.length ≤ room
    · have first : write ⟨some room, written⟩ piece =
          .ok ⟨some (room - piece.length), piece :: written⟩ := if_pos fits
      have others : room - piece.length < rest.flatten.length := by omega
      obtain ⟨final, failed, holds⟩ := ih (piece :: written) others
      rw [first]
      refine ⟨final, failed, ?_⟩
      rw [holds, contents_cons _ (some room), List.take_append, List.take_of_length_le fits,
        List.append_assoc]
    -- The room ends inside this piece.
    · have first : write ⟨some room, written⟩ piece =
          .error ⟨some 0, piece.take room :: written⟩ := if_neg fits
      rw [first]
      refine ⟨_, rfl, ?_⟩
      rw [List.take_append_of_le_length (by omega)]
      exact contents_cons _ _ _ _

end Sink

namespace Pattern

/-- The pattern occurs in the lines of two buffers one behind the other in which it occurs in either. -/
theorem matchingLines_append (pattern : Pattern) {before : Bytes}
    (isEnded : before = [] ∨ before.getLast? = some Bytes.newline) (behind : Bytes) :
    pattern.matchingLines (before ++ behind) =
      pattern.matchingLines before ++ pattern.matchingLines behind := by
  rw [matchingLines, Bytes.lines_append isEnded, List.map_append, List.filter_append]
  rfl

end Pattern

variable {pattern : Pattern} {label : Option Text} {buffer : Bytes} {capacity : Nat}

/-- A sink that takes everything holds the pieces of the lines that the pattern occurs in. -/
theorem exists_searchLines_unlimited (pattern : Pattern) (label : Option Text) (buffer : Bytes) :
    ∃ full, searchLines pattern buffer label .unlimited = .ok full ∧
      full.matchedLines = (pattern.matchingLines buffer).length ∧
      full.sink.contents = ((pattern.matchingLines buffer).flatMap (printedPieces label)).flatten :=
  ⟨_, searchLines_unlimited pattern buffer label [], rfl, contents_printedTo _ []⟩

/-- A search with room for all that it prints returns and prints what it does with any room. -/
theorem searchLines_of_le
    (fits : ((pattern.matchingLines buffer).flatMap (printedPieces label)).flatten.length ≤ capacity) :
    ∃ limited, searchLines pattern buffer label (.ofCapacity (some capacity)) = .ok limited ∧
      limited.matchedLines = (pattern.matchingLines buffer).length ∧
      limited.sink.contents = ((pattern.matchingLines buffer).flatMap (printedPieces label)).flatten := by
  rw [searchLines_eq, Sink.ofCapacity, Sink.writeAll_of_le [] fits]
  exact ⟨_, rfl, rfl, Sink.contents_append _ [] _⟩

/-- A search without room for all that it prints fails and has printed as much as there is room for. -/
theorem searchLines_of_lt
    (full : capacity < ((pattern.matchingLines buffer).flatMap (printedPieces label)).flatten.length) :
    ∃ final, searchLines pattern buffer label (.ofCapacity (some capacity)) = .error final ∧
      final.contents =
        ((pattern.matchingLines buffer).flatMap (printedPieces label)).flatten.take capacity := by
  obtain ⟨final, failed, holds⟩ := Sink.writeAll_of_lt [] full
  rw [searchLines_eq, Sink.ofCapacity, failed]
  exact ⟨final, rfl, holds⟩

/-- Little room cuts off what a search prints and changes nothing else. With room for all of it the search
returns the same number and prints the same bytes, and otherwise it fails and has printed the first bytes of
them, as many as there is room for. Of two buffers one behind the other, the first one empty or with a
newline at its end, it prints what it prints of either, and the numbers add up. -/
theorem searchLines_of_capacity_and_parts (pattern : Pattern) (label : Option Text) :
    (∀ buffer capacity, ∃ full, searchLines pattern buffer label .unlimited = .ok full ∧
      (full.sink.contents.length ≤ capacity →
        ∃ limited, searchLines pattern buffer label (.ofCapacity (some capacity)) = .ok limited ∧
          limited.matchedLines = full.matchedLines ∧ limited.sink.contents = full.sink.contents) ∧
      (capacity < full.sink.contents.length →
        ∃ final, searchLines pattern buffer label (.ofCapacity (some capacity)) = .error final ∧
          final.contents = full.sink.contents.take capacity)) ∧
    ∀ before behind, (before = [] ∨ before.getLast? = some Bytes.newline) →
      ∃ first second both, searchLines pattern before label .unlimited = .ok first ∧
        searchLines pattern behind label .unlimited = .ok second ∧
        searchLines pattern (before ++ behind) label .unlimited = .ok both ∧
        both.matchedLines = first.matchedLines + second.matchedLines ∧
        both.sink.contents = first.sink.contents ++ second.sink.contents := by
  constructor
  · intro buffer capacity
    obtain ⟨full, searched, count, printed⟩ := exists_searchLines_unlimited pattern label buffer
    refine ⟨full, searched, ?_⟩
    rw [printed, count]
    exact ⟨searchLines_of_le, searchLines_of_lt⟩
  · intro before behind isEnded
    obtain ⟨first, searchedFirst, count, printed⟩ := exists_searchLines_unlimited pattern label before
    obtain ⟨second, searchedSecond, count', printed'⟩ := exists_searchLines_unlimited pattern label behind
    obtain ⟨both, searched, total, all⟩ := exists_searchLines_unlimited pattern label (before ++ behind)
    refine ⟨first, second, both, searchedFirst, searchedSecond, searched, ?_, ?_⟩
    · rw [total, pattern.matchingLines_append isEnded, List.length_append, count, count']
    · rw [all, pattern.matchingLines_append isEnded, List.flatMap_append, List.flatten_append, printed,
        printed']

/-- Of `ab`, `c` and an unfinished `b` the lines with a `b` are printed behind the label `f`. There is room
for them in nine bytes; six bytes end behind the second label. The unfinished line is searched as if it stood
alone. -/
theorem searchLines_of_capacity_behind_label :
    let pattern : Pattern := ⟨['b'], .sequence [.literal 'b'], 0⟩
    let label := some ['f']
    let before : Bytes := [0x61, 0x62, 0x0A, 0x63, 0x0A]
    let behind : Bytes := [0x62]
    (∃ full limited final, searchLines pattern (before ++ behind) label .unlimited = .ok full ∧
      full.sink.contents = [0x66, 0x3A, 0x61, 0x62, 0x0A, 0x66, 0x3A, 0x62, 0x0A] ∧
      searchLines pattern (before ++ behind) label (.ofCapacity (some 9)) = .ok limited ∧
      limited.matchedLines = 2 ∧ limited.sink.contents = full.sink.contents ∧
      searchLines pattern (before ++ behind) label (.ofCapacity (some 6)) = .error final ∧
      final.contents = [0x66, 0x3A, 0x61, 0x62, 0x0A, 0x66]) ∧
    ∃ first second both, searchLines pattern before label .unlimited = .ok first ∧
      searchLines pattern behind label .unlimited = .ok second ∧
      searchLines pattern (before ++ behind) label .unlimited = .ok both ∧
      both.matchedLines = first.matchedLines + second.matchedLines ∧
      both.sink.contents = first.sink.contents ++ second.sink.contents := by
  intro pattern label before behind
  have ⟨limits, parts⟩ := searchLines_of_capacity_and_parts pattern label
  have isEnded : before = Bytes.ended [[0x61, 0x62], [0x63]] := rfl
  have lines : Bytes.lines (before ++ behind) = [[0x61, 0x62], [0x63], [0x62]] := by
    rw [isEnded, Bytes.lines_ended_append (by decide), Bytes.lines_unfinished (by decide) (by decide)]
    rfl
  have matching : pattern.matchingLines (before ++ behind) = [['a', 'b'], ['b']] := by
    rw [Pattern.matchingLines, lines]
    decide +kernel
  obtain ⟨full, searched, count, printed⟩ :=
    exists_searchLines_unlimited pattern label (before ++ behind)
  rw [matching] at count printed
  obtain ⟨same, searched', fits, _⟩ := limits (before ++ behind) 9
  obtain rfl := Except.ok.inj (searched'.symm.trans searched)
  obtain ⟨limited, returned, number, all⟩ := fits (by rw [printed]; decide)
  obtain ⟨other, searched'', _, cut⟩ := limits (before ++ behind) 6
  obtain rfl := Except.ok.inj (searched''.symm.trans searched)
  obtain ⟨final, failed, holds⟩ := cut (by rw [printed]; decide)
  refine ⟨⟨_, limited, final, searched, ?_, returned, ?_, all, failed, ?_⟩,
    parts before behind (.inr rfl)⟩
  · rw [printed]
    decide
  · rw [number, count]
    rfl
  · rw [holds, printed]
    decide

end PatternSearch
