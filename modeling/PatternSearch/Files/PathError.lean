import PatternSearch.Bytes.Quoted
import PatternSearch.Files.PathName

/-!
# Errors of paths

A path that cannot be searched is reported with its quoted name and the cause. The causes that file
systems give have the numbers and descriptions under which they are known there.
-/
namespace PatternSearch

/-- Why something at a path cannot be used. -/
inductive FileCause where
  /-- Nothing has the name. -/
  | notFound
  /-- The path goes on below something that is no directory. -/
  | notADirectory
  /-- A directory has no contents to read. -/
  | isADirectory
  /-- A name or the path is too long. -/
  | nameTooLong
  /-- Too many links would have to be followed. -/
  | tooManyLinks
  /-- The path holds a NUL, which ends names. -/
  | nulInName
  /-- Any other cause, with its number and its description. -/
  | other (code : Nat) (description : String)
  deriving DecidableEq, Repr

/-- The cause in words, with its number if it has one. -/
def FileCause.message : FileCause → String
  | .notFound => numbered 2 "No such file or directory"
  | .notADirectory => numbered 20 "Not a directory"
  | .isADirectory => numbered 21 "Is a directory"
  | .nameTooLong => numbered 36 "File name too long"
  | .tooManyLinks => numbered 40 "Too many levels of symbolic links"
  | .nulInName => "file name contained an unexpected NUL byte"
  | .other code description => numbered code description
where
  /-- A description with the number of the cause. -/
  numbered (code : Nat) (description : String) : String :=
    description ++ " (os error " ++ toString code ++ ")"

/-- Why a path is not searched. -/
inductive PathError where
  /-- The path cannot be opened. -/
  | opening (path : PathName) (cause : FileCause)
  /-- The directory at the path cannot be listed. -/
  | listing (path : PathName) (cause : FileCause)
  /-- The path is a directory, and directories are not searched. -/
  | directory (path : PathName)
  deriving DecidableEq, Repr

/-- The error in words. -/
def PathError.message : PathError → String
  | .opening path cause =>
    "error opening " ++ String.ofList (Bytes.quoted path) ++ ": " ++ cause.message
  | .listing path cause =>
    "error reading directory " ++ String.ofList (Bytes.quoted path) ++ ": " ++ cause.message
  | .directory path => String.ofList (Bytes.quoted path) ++ " is a directory"

end PatternSearch
