import PatternSearch.Bytes.Utf8

/-!
# Path names

A path name is any sequence of bytes. A slash divides the names in it, and whatever is written between
slashes is a name, be it UTF-8 or not. Names are compared byte by byte.
-/
namespace PatternSearch

/-- The bytes of a path. -/
abbrev PathName := Bytes

namespace PathName

/-- The path that a text names. -/
def ofText (text : Text) : PathName := Utf8.encode text

/-- The path that a string names. -/
def ofString (name : String) : PathName := ofText name.toList

/-- The text in which a path is shown, with replacement characters where it is no UTF-8. -/
def display (path : PathName) : Text := Utf8.decode path

/-- The byte that divides names. -/
def slash : UInt8 := 0x2F

/-- The name of every directory in itself. -/
def selfName : Bytes := [0x2E]

/-- The name of the directory around a directory. -/
def parentName : Bytes := [0x2E, 0x2E]

/-- The parts of a path between its slashes. -/
def components (path : PathName) : List Bytes := path.splitOn slash

/-- Whether a path begins at the root. -/
def isAbsolute (path : PathName) : Bool := path.head? == some slash

/-- The path of a name in the directory at a path. -/
def child (directory : PathName) (name : Bytes) : PathName :=
  if directory.getLast? = some slash then directory ++ name else directory ++ [slash] ++ name

/-- Whether a name comes no later than another one. -/
def nameLE (left right : Bytes) : Bool := decide (left ≤ right)

end PathName
end PatternSearch
