/-!
# Bytes and lines

A buffer of bytes is divided into lines by newline bytes. A newline ends its line, so a newline at
the end of the buffer begins no further line. `nextLine?` takes the first line off a buffer, and
`lines` takes off lines until nothing is left.
-/
namespace PatternSearch

/-- A buffer of bytes. -/
abbrev Bytes := List UInt8

namespace Bytes

/-- The byte that ends a line. -/
def newline : UInt8 := 0x0A

/-- The first line of a buffer without its newline, and the bytes after the newline. -/
def nextLine? : Bytes → Option (Bytes × Bytes)
  | [] => none
  | byte :: rest =>
    let bytes := byte :: rest
    some (bytes.takeWhile (· != newline), (bytes.dropWhile (· != newline)).drop 1)

/-- Taking off a line leaves fewer bytes. -/
theorem length_lt_of_nextLine? {bytes line rest : Bytes}
    (found : nextLine? bytes = some (line, rest)) : rest.length < bytes.length := by
  cases bytes with
  | nil => simp [nextLine?] at found
  | cons byte tail =>
    simp only [nextLine?, Option.some.injEq, Prod.mk.injEq] at found
    obtain ⟨_, rfl⟩ := found
    have := (List.dropWhile_sublist (l := byte :: tail) (· != newline)).length_le
    simp only [List.length_drop, List.length_cons] at this ⊢
    omega

/-- The lines of a buffer, without their newlines. -/
def lines (bytes : Bytes) : List Bytes :=
  match _found : nextLine? bytes with
  | none => []
  | some (line, rest) => line :: lines rest
termination_by bytes.length
decreasing_by exact length_lt_of_nextLine? _found

end Bytes
end PatternSearch
