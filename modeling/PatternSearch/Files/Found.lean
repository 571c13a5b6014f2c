import PatternSearch.Files.PathError

/-!
# Files found at a path

A search sees at a path either a file, with its contents or the cause why it cannot be read, or a
directory, with what stands under each name in it or the cause why it cannot be listed. Links on the
way to the path, and one that stands there, are followed before. A name in a directory may be that of
a link, and then the search sees whether the link leads to a directory and what is read through it.

`Found.documents` lists the files at and below a path. A link in a directory is passed over if it leads
to a directory, and searched like a file if it leads anywhere else or nowhere. The names of one directory
are taken in the order of their bytes, whatever the order in which the directory lists them. A directory
that cannot be listed, however deep it lies, leaves the whole path without documents.
-/
namespace PatternSearch

mutual

/-- What is found at a path. -/
inductive Found where
  /-- A file: its contents, or why they cannot be read. -/
  | file (contents : Except FileCause Bytes)
  /-- A directory: what stands under its names. -/
  | directory (items : List (Bytes × Item))
  /-- A directory that cannot be listed. -/
  | unlisted (cause : FileCause)

/-- What stands under a name in a directory. -/
inductive Item where
  /-- Something that is no link. -/
  | plain (found : Found)
  /-- A link: whether it leads to a directory, and what is read through it. -/
  | link (toDirectory : Bool) (contents : Except FileCause Bytes)

end

/-- A file that is searched. -/
structure Document where
  /-- The path by which it is reached. -/
  path : PathName
  /-- Its contents, or why they cannot be read. -/
  contents : Except FileCause Bytes

/-- The contents of a document, or the error of opening it. -/
def Document.read (document : Document) : Except PathError Bytes :=
  match document.contents with
  | .ok bytes => .ok bytes
  | .error cause => .error (.opening document.path cause)

mutual

/-- The documents at and below a path at which something is found, or the error of the first
directory that cannot be listed. -/
def Found.documents (path : PathName) : Found → Except PathError (List Document)
  | .file contents => .ok [⟨path, contents⟩]
  | .unlisted cause => .error (.listing path cause)
  | .directory items =>
    List.flatten <$>
      ((itemDocuments path items).mergeSort fun left right =>
        PathName.nameLE left.1 right.1).mapM (·.2)

/-- The documents at and below a path in a directory. -/
def Item.documents (path : PathName) : Item → Except PathError (List Document)
  | .plain found => found.documents path
  | .link toDirectory contents => .ok (if toDirectory then [] else [⟨path, contents⟩])

/-- The documents under each name in the directory at a path. -/
def itemDocuments (path : PathName) :
    List (Bytes × Item) → List (Bytes × Except PathError (List Document))
  | [] => []
  | (name, item) :: rest => (name, item.documents (path.child name)) :: itemDocuments path rest

end

/-- Names that are listed in order are taken as they stand. -/
theorem Found.documents_of_sorted {path : PathName} {items : List (Bytes × Item)}
    (sorted : (itemDocuments path items).Pairwise fun left right => PathName.nameLE left.1 right.1) :
    (Found.directory items).documents path =
      List.flatten <$> (itemDocuments path items).mapM (·.2) := by
  rw [documents, List.mergeSort_of_pairwise sorted]

end PatternSearch
