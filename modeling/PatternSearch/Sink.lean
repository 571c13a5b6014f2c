import PatternSearch.Bytes.Lines

/-!
# Sinks

A sink takes written bytes until its room is used up. A write that does not fit fills the room that
is left and fails. The failure hands back the sink, since what it took stays written.
-/
namespace PatternSearch

/-- A place that bytes are written to. -/
structure Sink where
  /-- The number of bytes that it still takes; any number if there is none. -/
  room : Option Nat
  /-- The pieces written so far, latest first. -/
  pieces : List Bytes
  deriving DecidableEq

namespace Sink

/-- A sink of some capacity, or of any, with nothing written. -/
def ofCapacity (capacity : Option Nat) : Sink := ⟨capacity, []⟩

/-- A sink that takes everything. -/
def unlimited : Sink := ofCapacity none

/-- The bytes written so far. -/
def contents (sink : Sink) : Bytes := sink.pieces.reverse.flatten

/-- Write a piece. -/
def write (sink : Sink) (piece : Bytes) : Except Sink Sink :=
  match sink.room with
  | none => .ok ⟨none, piece :: sink.pieces⟩
  | some room =>
    if piece.length ≤ room then .ok ⟨some (room - piece.length), piece :: sink.pieces⟩
    else .error ⟨some 0, piece.take room :: sink.pieces⟩

/-- Write pieces in order, up to the first one that does not fit. -/
def writeAll (sink : Sink) (pieces : List Bytes) : Except Sink Sink := pieces.foldlM write sink

/-- A failed write in words. -/
def failureMessage : String := "failed to write whole buffer"

/-- A sink without a limit takes every piece. -/
@[simp] theorem write_unlimited (pieces : List Bytes) (piece : Bytes) :
    write ⟨none, pieces⟩ piece = .ok ⟨none, piece :: pieces⟩ := rfl

end Sink
end PatternSearch
