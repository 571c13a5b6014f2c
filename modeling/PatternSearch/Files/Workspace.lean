import PatternSearch.Files.Found

/-!
# Workspaces

A workspace is all that a search knows of files: what is found at each path. A path that leads to a
directory is searched only if directories are searched, and then file by file.
-/
namespace PatternSearch

/-- What is found at each path. -/
abbrev Workspace := PathName → Except FileCause Found

namespace Workspace

/-- The documents that are searched for a path: those below a directory if directories are searched,
and otherwise the path itself. -/
def documents (workspace : Workspace) (recursive : Bool) (path : PathName) :
    Except PathError (List Document) :=
  match workspace path with
  | .error cause => .error (.opening path cause)
  | .ok (.file contents) => .ok [⟨path, contents⟩]
  | .ok directory => if recursive then directory.documents path else .error (.directory path)

/-- The contents of the file at a path. -/
def contentsAt (workspace : Workspace) (path : PathName) : Except PathError Bytes :=
  match workspace path with
  | .error cause => .error (.opening path cause)
  | .ok (.file contents) => Document.read ⟨path, contents⟩
  | .ok _ => .error (.opening path .isADirectory)

end Workspace
end PatternSearch
