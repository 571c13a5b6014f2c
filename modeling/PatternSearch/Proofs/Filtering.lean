import PatternSearch.Proofs.Dividing
import PatternSearch.Proofs.Transcoding
import PatternSearch.Search

/-!
# Searching what a search has printed

A search writes the lines that the pattern occurs in, in the form in which they were read, each behind its
label, and it fails where writing these pieces fails (`searchLines_eq`). A sink that takes everything holds
all of them in the end (`searchLines_unlimited`).

Without labels, what is printed is a buffer again. Its lines are the bytes of the lines that were printed,
since no printed line has a newline, and they are read as the same texts, since they are UTF-8 now. So a
second search prints all of them (`searchLines_of_printed`).
-/
namespace PatternSearch

namespace Sink

/-- A sink without a limit takes all pieces. -/
theorem writeAll_unlimited (written pieces : List Bytes) :
    writeAll ⟨none, written⟩ pieces = .ok ⟨none, pieces.reverse ++ written⟩ := by
  unfold writeAll
  induction pieces generalizing written with
  | nil => rfl
  | cons piece rest ih =>
    rw [List.foldlM_cons, write_unlimited]
    change rest.foldlM write ⟨none, piece :: written⟩ = _
    rw [ih, List.reverse_cons, List.append_assoc, List.singleton_append]

/-- Pieces in two parts are written part by part. -/
theorem writeAll_append (sink : Sink) (first second : List Bytes) :
    sink.writeAll (first ++ second) = sink.writeAll first >>= fun next => next.writeAll second :=
  List.foldlM_append

/-- Further pieces stand behind the contents. -/
theorem contents_append (room : Option Nat) (written pieces : List Bytes) :
    contents ⟨room, pieces.reverse ++ written⟩ = contents ⟨room, written⟩ ++ pieces.flatten := by
  unfold contents
  rw [List.reverse_append, List.reverse_reverse, List.flatten_append]

end Sink

/-- The texts of the lines of a buffer that a pattern occurs in. -/
def Pattern.matchingLines (pattern : Pattern) (buffer : Bytes) : List Text :=
  ((Bytes.lines buffer).map Utf8.decode).filter pattern.occursIn

/-- What a sink without a limit holds after the lines of a search behind what it held. -/
def printedTo (label : Option Text) (lines : List Text) (written : List Bytes) : Sink :=
  ⟨none, (lines.flatMap (printedPieces label)).reverse ++ written⟩

variable {pattern : Pattern} {label : Option Text}

/-- The lines of a search stand behind what the sink held. -/
theorem contents_printedTo (lines : List Text) (written : List Bytes) :
    (printedTo label lines written).contents =
      Sink.contents ⟨none, written⟩ ++ (lines.flatMap (printedPieces label)).flatten :=
  Sink.contents_append none written _

/-- Whatever the sink takes, searching lines writes those that the pattern occurs in, and counts them if
nothing fails. -/
theorem foldlM_searchLine (lines : List Bytes) (count : Nat) (sink : Sink) :
    lines.foldlM (searchLine pattern label) ⟨count, sink⟩ =
      Searched.mk (count + ((lines.map Utf8.decode).filter pattern.occursIn).length) <$>
        sink.writeAll (((lines.map Utf8.decode).filter pattern.occursIn).flatMap (printedPieces label)) := by
  induction lines generalizing count sink with
  | nil => rfl
  | cons line rest ih =>
    rw [List.foldlM_cons, searchLine, List.map_cons]
    by_cases occurs : pattern.occursIn (Utf8.decode line) = true
    · rw [if_pos occurs, List.filter_cons_of_pos occurs, List.flatMap_cons, Sink.writeAll_append,
        List.length_cons]
      cases sink.writeAll (printedPieces label (Utf8.decode line)) with
      | error stopped => rfl
      | ok next =>
        have later := ih (count + 1) next
        rw [Nat.add_right_comm, Nat.add_assoc] at later
        exact later
    · rw [if_neg occurs, List.filter_cons_of_neg occurs]
      exact ih count sink

/-- A search writes the matching lines of the buffer and returns their number, or fails where writing them
fails. -/
theorem searchLines_eq (pattern : Pattern) (buffer : Bytes) (label : Option Text) (sink : Sink) :
    searchLines pattern buffer label sink =
      Searched.mk (pattern.matchingLines buffer).length <$>
        sink.writeAll ((pattern.matchingLines buffer).flatMap (printedPieces label)) := by
  have searched := @foldlM_searchLine pattern label (Bytes.lines buffer) 0 sink
  rwa [Nat.zero_add] at searched

/-- A search with a sink that takes everything prints the matching lines of the buffer and returns their
number. -/
theorem searchLines_unlimited (pattern : Pattern) (buffer : Bytes) (label : Option Text)
    (written : List Bytes) :
    searchLines pattern buffer label ⟨none, written⟩ =
      .ok ⟨(pattern.matchingLines buffer).length,
        printedTo label (pattern.matchingLines buffer) written⟩ := by
  rw [searchLines_eq, Sink.writeAll_unlimited]
  rfl

/-- Without labels, every line is printed as its bytes and a newline. -/
theorem flatten_printedPieces_unlabelled (lines : List Text) :
    (lines.flatMap (printedPieces none)).flatten =
      (lines.map Utf8.encode).flatMap fun line => line ++ [Bytes.newline] := by
  induction lines with
  | nil => rfl
  | cons line rest ih =>
    rw [List.flatMap_cons, List.flatten_append, ih, List.map_cons, List.flatMap_cons]
    rfl

/-- No line of a buffer has a newline when it is read. -/
theorem newline_notMem_of_mem_matchingLines {buffer : Bytes} {line : Text}
    (member : line ∈ pattern.matchingLines buffer) : '\n' ∉ line := by
  have ⟨read, _⟩ := List.mem_filter.1 member
  obtain ⟨bytes, isLine, rfl⟩ := List.mem_map.1 read
  exact Utf8.newline_notMem_decode (Bytes.newline_notMem_of_mem_lines isLine)

/-- The lines of what is printed without labels are the bytes of the matching lines. -/
theorem lines_of_printed (buffer : Bytes) :
    Bytes.lines ((pattern.matchingLines buffer).flatMap (printedPieces none)).flatten =
      (pattern.matchingLines buffer).map Utf8.encode := by
  rw [flatten_printedPieces_unlabelled]
  apply Bytes.lines_ended
  intro bytes member
  obtain ⟨line, isLine, rfl⟩ := List.mem_map.1 member
  intro newline
  exact newline_notMem_of_mem_matchingLines isLine (Utf8.newline_mem_encode_iff.1 newline)

/-- They are read as the same texts, and the pattern occurs in all of them. -/
theorem matchingLines_of_printed (buffer : Bytes) :
    pattern.matchingLines ((pattern.matchingLines buffer).flatMap (printedPieces none)).flatten =
      pattern.matchingLines buffer := by
  have read : ((pattern.matchingLines buffer).map Utf8.encode).map Utf8.decode =
      pattern.matchingLines buffer := by
    rw [List.map_map]
    exact List.map_id'' Utf8.decode_encode _
  have all : ∀ line ∈ pattern.matchingLines buffer, pattern.occursIn line = true :=
    fun line member => (List.mem_filter.1 member).2
  rw [Pattern.matchingLines, lines_of_printed, read]
  exact List.filter_eq_self.2 all

/-- A search without a label prints the lines that the pattern occurs in, as they were read, each with a
newline behind it. A search of what it printed prints and counts the same lines again, whatever bytes the
buffer holds. -/
theorem searchLines_of_printed (pattern : Pattern) (buffer : Bytes) :
    ∃ first second, searchLines pattern buffer none .unlimited = .ok first ∧
      first.matchedLines = (pattern.matchingLines buffer).length ∧
      first.sink.contents = ((pattern.matchingLines buffer).map Utf8.encode).flatMap
        (fun line => line ++ [Bytes.newline]) ∧
      searchLines pattern first.sink.contents none .unlimited = .ok second ∧
      second.matchedLines = first.matchedLines ∧ second.sink.contents = first.sink.contents := by
  let lines := pattern.matchingLines buffer
  have printed : (printedTo none lines []).contents = (lines.flatMap (printedPieces none)).flatten := by
    rw [contents_printedTo]
    rfl
  have again : pattern.matchingLines (printedTo none lines []).contents = lines := by
    rw [printed]
    exact matchingLines_of_printed buffer
  have second := searchLines_unlimited pattern (printedTo none lines []).contents none []
  rw [again] at second
  refine ⟨_, _, searchLines_unlimited pattern buffer none [], rfl, ?_, second, rfl, rfl⟩
  exact printed.trans (flatten_printedPieces_unlabelled lines)

end PatternSearch
