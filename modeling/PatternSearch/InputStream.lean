import PatternSearch.Bytes.Lines

/-!
# Input streams

An input stream is read to its end, or until reading fails.
-/
namespace PatternSearch

/-- Input that is read to its end: its bytes, and the failure that follows them, if one does. -/
structure InputStream where
  /-- The bytes that can be read. -/
  bytes : Bytes
  /-- Why reading fails after them. -/
  failure : Option String

/-- Reading an input failed. -/
structure InputError where
  /-- Why it failed. -/
  cause : String
  deriving DecidableEq, Repr

/-- The error in words. -/
def InputError.message (error : InputError) : String := "error reading input: " ++ error.cause

/-- Everything that an input holds. -/
def InputStream.readAll (input : InputStream) : Except InputError Bytes :=
  match input.failure with
  | none => .ok input.bytes
  | some cause => .error ⟨cause⟩

end PatternSearch
