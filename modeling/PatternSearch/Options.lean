import PatternSearch.Files.PathName

/-!
# Options of the command line

The arguments are read from left to right. `-E` takes the next argument, whatever it is, as the
pattern, and the last `-E` counts. `-r` asks for a recursive search. `--` makes paths of all
arguments after it. Any other argument of two or more runes that begins with `-` is an unknown
option, and everything else is a path.
-/
namespace PatternSearch

/-- Why arguments are no options. -/
inductive UsageError where
  /-- No argument gives a pattern. -/
  | missingPattern
  /-- The last argument is a `-E`. -/
  | missingPatternValue
  /-- An argument looks like an option and is none. -/
  | unknownOption (argument : Text)
  deriving DecidableEq, Repr

/-- The error in words. -/
def UsageError.message : UsageError → String
  | .missingPattern => "missing required '-E <pattern>'"
  | .missingPatternValue => "'-E' expects a pattern"
  | .unknownOption argument => "unknown option '" ++ String.ofList argument ++ "'"

/-- What a search is asked for. -/
structure Options where
  /-- The text of the pattern. -/
  pattern : Text
  /-- Whether directories are searched. -/
  recursive : Bool
  /-- The paths to search, in order. -/
  paths : List PathName
  deriving DecidableEq, Repr

namespace Options

/-- What the arguments read so far ask for. -/
structure Given where
  /-- The pattern given last. -/
  pattern : Option Text
  /-- Whether a `-r` was given. -/
  recursive : Bool
  /-- The paths given, in order. -/
  paths : List PathName
  deriving DecidableEq, Repr

/-- What no arguments ask for. -/
def Given.nothing : Given := ⟨none, false, []⟩

/-- Whether an argument looks like an option. -/
def looksLikeOption : Text → Bool
  | '-' :: _ :: _ => true
  | _ => false

/-- Read further arguments. -/
def Given.read (given : Given) : List Text → Except UsageError Given
  | [] => .ok given
  | ['-', 'E'] :: [] => .error .missingPatternValue
  | ['-', 'E'] :: pattern :: rest => read { given with pattern := some pattern } rest
  | ['-', 'r'] :: rest => read { given with recursive := true } rest
  | ['-', '-'] :: rest => .ok { given with paths := given.paths ++ rest.map PathName.ofText }
  | argument :: rest =>
    if looksLikeOption argument then .error (.unknownOption argument)
    else read { given with paths := given.paths ++ [.ofText argument] } rest

/-- Read the arguments of a command line. -/
def parse (arguments : List Text) : Except UsageError Options := do
  let given ← Given.nothing.read arguments
  match given.pattern with
  | some pattern => return ⟨pattern, given.recursive, given.paths⟩
  | none => throw .missingPattern

/-- Whether printed lines are labelled with the path that they come from: they are when lines of
several files may be printed. -/
def labelsLines (options : Options) : Bool := options.recursive || 1 < options.paths.length

end Options
end PatternSearch
