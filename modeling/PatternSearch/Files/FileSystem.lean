import PatternSearch.Files.Workspace

/-!
# File systems

A file system is the tree of files, directories and symbolic links below its root, together with a
working directory in the tree. A path is followed name by name: through directories, up by `..`, and
through links wherever they stand on the path. An absolute path is followed from the root and any other
path from the working directory; so is the target of a link, in the directory that holds the link. Above
the root there is the root again. An empty name and `.` stay where they are, so a path that ends in `/`
must lead to a directory.

In every directory things have proper names, and different ones (`Entry.WellNamed`). A `FileSystem`
carries the proof of that, and the proof that its working directory is there.

`FileSystem.workspace` tells what a search finds at each path. Whatever it finds below a directory is
read or listed by the path that leads there from the start, and a path may be too long for that.
-/
namespace PatternSearch

/-- Something with a name in a directory. -/
inductive Entry where
  /-- A file with its contents. -/
  | file (contents : Bytes)
  /-- A directory with its named entries. -/
  | directory (entries : List (Bytes × Entry))
  /-- A symbolic link. -/
  | link (target : PathName)

/-- The named entries of a directory. -/
abbrev Directory := List (Bytes × Entry)

/-! ## Proper names -/

/-- The greatest number of bytes of a name. -/
def maxNameBytes : Nat := 255

/-- Bytes that may name something in a directory. -/
structure IsName (name : Bytes) : Prop where
  /-- There are some. -/
  nonempty : name ≠ []
  /-- They do not name the directory itself. -/
  notSelf : name ≠ PathName.selfName
  /-- They do not name the directory around it. -/
  notParent : name ≠ PathName.parentName
  /-- None of them is a slash, which divides names. -/
  noSlash : PathName.slash ∉ name
  /-- None of them is a NUL, which ends names. -/
  noNul : 0 ∉ name
  /-- There are not too many. -/
  short : name.length ≤ maxNameBytes

/-- Whether bytes name an entry is a matter of the bytes. -/
instance : DecidablePred IsName := fun name =>
  decidable_of_iff (name ≠ [] ∧ name ≠ PathName.selfName ∧ name ≠ PathName.parentName ∧
    PathName.slash ∉ name ∧ 0 ∉ name ∧ name.length ≤ maxNameBytes)
    ⟨fun ⟨nonempty, notSelf, notParent, noSlash, noNul, short⟩ =>
      ⟨nonempty, notSelf, notParent, noSlash, noNul, short⟩,
    fun isName => ⟨isName.nonempty, isName.notSelf, isName.notParent, isName.noSlash, isName.noNul,
      isName.short⟩⟩

/-- In every directory of a tree, things have proper names, and different ones. -/
inductive Entry.WellNamed : Entry → Prop
  /-- A file. -/
  | file (contents : Bytes) : WellNamed (.file contents)
  /-- A link, whatever its target is. -/
  | link (target : PathName) : WellNamed (.link target)
  /-- A directory. -/
  | directory {entries : Directory} (distinct : (entries.map Prod.fst).Nodup)
      (proper : ∀ item ∈ entries, IsName item.1) (each : ∀ item ∈ entries, WellNamed item.2) :
      WellNamed (.directory entries)

/-- A directory is well named if its names are, and whatever stands under them. -/
theorem Entry.wellNamed_directory_iff {entries : Directory} :
    (Entry.directory entries).WellNamed ↔ (entries.map Prod.fst).Nodup ∧
      (∀ item ∈ entries, IsName item.1) ∧ ∀ item ∈ entries, item.2.WellNamed := by
  constructor
  · rintro (_ | _ | ⟨distinct, proper, each⟩)
    exact ⟨distinct, proper, each⟩
  · intro ⟨distinct, proper, each⟩
    exact .directory distinct proper each

mutual

/-- Whether a tree is well named can be checked directory by directory. -/
def Entry.decideWellNamed : (entry : Entry) → Decidable entry.WellNamed
  | .file contents => .isTrue (.file contents)
  | .link target => .isTrue (.link target)
  | .directory entries =>
    have := decideEachWellNamed entries
    decidable_of_iff _ Entry.wellNamed_directory_iff.symm

/-- So can whether all trees in a directory are. -/
def decideEachWellNamed : (entries : Directory) → Decidable (∀ item ∈ entries, item.2.WellNamed)
  | [] => .isTrue nofun
  | (_, entry) :: rest =>
    have := entry.decideWellNamed
    have := decideEachWellNamed rest
    decidable_of_iff _ List.forall_mem_cons.symm

end

/-- Whether the names in a tree are in order can be checked entry by entry. -/
instance : DecidablePred Entry.WellNamed := Entry.decideWellNamed

/-! ## Places -/

/-- A directory that is reached in a tree, with the directories around it. -/
structure Location where
  /-- The entries of the directory. -/
  here : Directory
  /-- The entries of the directories around it, from the inside out to the root. -/
  around : List Directory

namespace Location

/-- The root of a tree. -/
def ofRoot (root : Directory) : Location := ⟨root, []⟩

/-- The directory around a directory. The root is its own. -/
def up (location : Location) : Location :=
  match location.around with
  | [] => location
  | outer :: around => ⟨outer, around⟩

/-- A directory in a directory. -/
def into (location : Location) (entries : Directory) : Location :=
  ⟨entries, location.here :: location.around⟩

/-- The directory to which names lead through directories alone. -/
def descend? (location : Location) : List Bytes → Option Location
  | [] => some location
  | name :: names =>
    match location.here.lookup name with
    | some (.directory entries) => (location.into entries).descend? names
    | _ => none

end Location

/-- A tree with a working directory. -/
structure FileSystem where
  /-- The entries of the root. -/
  root : Directory
  /-- The names that lead from the root to the working directory. -/
  workingNames : List Bytes
  /-- Things in the tree are properly named. -/
  named : (Entry.directory root).WellNamed
  /-- The working directory is there. -/
  present : ((Location.ofRoot root).descend? workingNames).isSome = true

/-- A place that a path leads to. -/
inductive Place where
  /-- A file. -/
  | file (contents : Bytes)
  /-- A directory. -/
  | directory (location : Location)

namespace FileSystem

/-! ## Following paths -/

/-- The greatest number of bytes of a path. -/
def maxPathBytes : Nat := 4095

/-- The greatest number of links that are followed on the way along a path. -/
def maxLinks : Nat := 40

/-- The working directory. -/
def working (system : FileSystem) : Location :=
  ((Location.ofRoot system.root).descend? system.workingNames).get system.present

/-- The directory from which a path is followed that is used in a directory. -/
def origin (system : FileSystem) (location : Location) (path : PathName) : Location :=
  if path.isAbsolute then .ofRoot system.root else location

/-- Follow names from a place up to the first link. The names of its target come before those that are
left, and `behindLink` follows them from the directory in which the target is used. -/
def followWith (system : FileSystem) (behindLink : Place → List Bytes → Except FileCause Place)
    (place : Place) : (names : List Bytes) → Except FileCause Place
  | [] => .ok place
  | name :: rest =>
    match place with
    | .file _ => .error .notADirectory
    | .directory location =>
      if name = [] ∨ name = PathName.selfName then
        followWith system behindLink (.directory location) rest
      else if name = PathName.parentName then
        followWith system behindLink (.directory location.up) rest
      else if maxNameBytes < name.length then .error .nameTooLong
      else
        match location.here.lookup name with
        | none => .error .notFound
        | some (.file contents) => followWith system behindLink (.file contents) rest
        | some (.directory entries) =>
          followWith system behindLink (.directory (location.into entries)) rest
        | some (.link target) =>
          behindLink (.directory (system.origin location target)) (target.components ++ rest)

/-- Follow names from a place, through at most `links` links. -/
def follow (system : FileSystem) :
    (links : Nat) → (place : Place) → (names : List Bytes) → Except FileCause Place
  | 0 => system.followWith fun _ _ => .error .tooManyLinks
  | links + 1 => system.followWith (follow system links)

/-- The place that a path leads to. -/
def place (system : FileSystem) (path : PathName) : Except FileCause Place :=
  if 0 ∈ path then .error .nulInName
  else if path = [] then .error .notFound
  else if maxPathBytes < path.length then .error .nameTooLong
  else system.follow maxLinks (.directory (system.origin system.working path)) path.components

/-- The contents of the file that a path leads to. -/
def read (system : FileSystem) (path : PathName) : Except FileCause Bytes :=
  match system.place path with
  | .error cause => .error cause
  | .ok (.file contents) => .ok contents
  | .ok (.directory _) => .error .isADirectory

/-- Whether a path leads to a directory. -/
def leadsToDirectory (system : FileSystem) (path : PathName) : Bool :=
  match system.place path with
  | .ok (.directory _) => true
  | _ => false

/-! ## Searching -/

mutual

/-- What a search sees of an entry at a path in a directory. -/
def item (system : FileSystem) (path : PathName) : Entry → Item
  | .file _ => .plain (.file (system.read path))
  | .directory entries =>
    match system.place path with
    | .error cause => .plain (.unlisted cause)
    | .ok _ => .plain (.directory (items system path entries))
  | .link _ => .link (system.leadsToDirectory path) (system.read path)

/-- What a search sees under the names in the directory at a path. -/
def items (system : FileSystem) (path : PathName) : List (Bytes × Entry) → List (Bytes × Item)
  | [] => []
  | (name, entry) :: rest =>
    (name, item system (path.child name) entry) :: items system path rest

end

/-- What a search finds at each path of a file system. -/
def workspace (system : FileSystem) : Workspace := fun path =>
  match system.place path with
  | .error cause => .error cause
  | .ok (.file contents) => .ok (.file (.ok contents))
  | .ok (.directory location) => .ok (.directory (system.items path location.here))

end FileSystem
end PatternSearch
