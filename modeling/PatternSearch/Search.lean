import PatternSearch.Bytes.Utf8
import PatternSearch.Pattern
import PatternSearch.Sink

/-!
# Searching a buffer

A buffer is searched line by line. Every line that the pattern occurs in is printed, after a label
if one is wanted, and counted. Lines are read as UTF-8 and printed in the form in which they were read,
so a line with ill-formed bytes is printed with replacement characters.
-/
namespace PatternSearch

/-- What the search of a buffer has done. -/
structure Searched where
  /-- The number of lines printed. -/
  matchedLines : Nat
  /-- The sink after printing them. -/
  sink : Sink
  deriving DecidableEq

/-- The pieces in which a line is printed. -/
def printedPieces (label : Option Text) (line : Text) : List Bytes :=
  match label with
  | some label => [Utf8.encode label, Utf8.encode [':'], Utf8.encode line, [Bytes.newline]]
  | none => [Utf8.encode line, [Bytes.newline]]

/-- Print a line if the pattern occurs in it. -/
def searchLine (pattern : Pattern) (label : Option Text) (searched : Searched) (line : Bytes) :
    Except Sink Searched :=
  let text := Utf8.decode line
  if pattern.occursIn text then do
    let sink ← searched.sink.writeAll (printedPieces label text)
    return ⟨searched.matchedLines + 1, sink⟩
  else .ok searched

/-- Print the lines of a buffer that a pattern occurs in. The failure of a write stops the search
and hands back the sink. -/
def searchLines (pattern : Pattern) (buffer : Bytes) (label : Option Text) (sink : Sink) :
    Except Sink Searched :=
  (Bytes.lines buffer).foldlM (searchLine pattern label) ⟨0, sink⟩

end PatternSearch
