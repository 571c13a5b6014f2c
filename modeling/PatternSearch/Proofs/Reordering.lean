import Mathlib.Data.List.Forall2
import PatternSearch.Proofs.Walking

/-!
# Trees in another order

The order in which a directory has its entries means nothing. In trees that differ in such orders alone
(`Entry.Reordered`) the same names lead from directory to directory (`enter_alike`), so paths lead alike
(`place_alike`), the same paths stand below each directory, and the same documents are listed for it
(`isDocument_of_reordered`). In the order of their paths these documents are one list (`Lists.eq`). So a
search finds the same in both trees (`documents_of_directory`).
-/
namespace PatternSearch

/-! ## Reordered trees -/

/-- Two trees are the same, but for the order of the entries in each directory. -/
inductive Entry.Reordered : Entry → Entry → Prop
  /-- The same file. -/
  | file (contents : Bytes) : Reordered (.file contents) (.file contents)
  /-- The same link. -/
  | link (target : PathName) : Reordered (.link target) (.link target)
  /-- Two directories with the same names, and with the same trees under them but for the order. -/
  | directory {entries others : Directory}
      (names : (entries.map Prod.fst).Perm (others.map Prod.fst))
      (each : ∀ name entry other, (name, entry) ∈ entries → (name, other) ∈ others →
        Reordered entry other) :
      Reordered (.directory entries) (.directory others)

/-- Two directories are the same but for the order, and so are those around them, one by one. -/
structure Location.Reordered (location other : Location) : Prop where
  /-- The directories. -/
  here : (Entry.directory location.here).Reordered (.directory other.here)
  /-- Those around them. -/
  around : List.Forall₂ (fun entries others => (Entry.directory entries).Reordered (.directory others))
    location.around other.around

/-- Two places are the same file, or the same directory but for the order. -/
inductive Place.Reordered : Place → Place → Prop
  /-- The same file. -/
  | file (contents : Bytes) : Reordered (.file contents) (.file contents)
  /-- Two directories. -/
  | directory {location other : Location} (reordered : location.Reordered other) :
      Reordered (.directory location) (.directory other)

/-- Two file systems are the same but for the order of the entries in each directory. -/
structure FileSystem.Reordered (system other : FileSystem) : Prop where
  /-- The trees are. -/
  root : (Entry.directory system.root).Reordered (.directory other.root)
  /-- The working directory has the same path. -/
  workingNames : system.workingNames = other.workingNames

variable {entries others : Directory} {name : Bytes} {entry entry' : Entry}

/-- A name in one of two directories with the same names is in the other one. -/
theorem exists_mem_of_names (names : (entries.map Prod.fst).Perm (others.map Prod.fst))
    (member : (name, entry) ∈ entries) : ∃ other, (name, other) ∈ others := by
  have there : name ∈ others.map Prod.fst := names.subset (List.mem_map.2 ⟨_, member, rfl⟩)
  obtain ⟨⟨_, other⟩, isOther, rfl⟩ := List.mem_map.1 there
  exact ⟨other, isOther⟩

/-- A name that is in a directory is found there. -/
theorem exists_lookup_of_mem (member : (name, entry) ∈ entries) :
    ∃ found, entries.lookup name = some found := by
  cases found : entries.lookup name with
  | some entry => exact ⟨entry, rfl⟩
  | none =>
    have other := List.lookup_eq_none_iff.1 found _ member
    exact absurd rfl (bne_iff_ne.1 other)

namespace Entry.Reordered

/-- Each tree with distinct names is the same as itself. -/
theorem refl (named : entry.WellNamed) : entry.Reordered entry := by
  induction named with
  | file contents => exact .file contents
  | link target => exact .link target
  | directory distinct _ _ ih =>
    refine .directory (.refl _) fun name entry other isEntry isOther => ?_
    have found := lookup_eq_some_of_mem distinct isOther
    rw [lookup_eq_some_of_mem distinct isEntry] at found
    cases found
    exact ih (name, entry) isEntry

/-- A permutation of its entries leaves a directory the same but for the order. -/
theorem of_perm (named : (Entry.directory entries).WellNamed) (perm : entries.Perm others) :
    (Entry.directory entries).Reordered (.directory others) := by
  cases refl named with
  | directory _ each =>
    exact .directory (perm.map Prod.fst) fun name entry other isEntry isOther =>
      each name entry other isEntry (perm.mem_iff.2 isOther)

/-- The other tree is the same as the first one, but for the order. -/
theorem symm (reordered : entry.Reordered entry') : entry'.Reordered entry := by
  induction reordered with
  | file contents => exact .file contents
  | link target => exact .link target
  | directory names _ ih =>
    exact .directory names.symm fun name other entry isOther isEntry => ih name entry other isEntry isOther

/-- Under each name there is the same but for the order. -/
theorem lookup (reordered : (Entry.directory entries).Reordered (.directory others)) (name : Bytes) :
    Option.Rel Reordered (entries.lookup name) (others.lookup name) := by
  cases reordered with
  | directory names each =>
    cases found : entries.lookup name with
    | some entry =>
      obtain ⟨other, isOther⟩ := exists_mem_of_names names (mem_of_lookup found)
      obtain ⟨other, found'⟩ := exists_lookup_of_mem isOther
      rw [found']
      exact .some (each name entry other (mem_of_lookup found) (mem_of_lookup found'))
    | none =>
      cases found' : others.lookup name with
      | none => exact .none
      | some other =>
        obtain ⟨entry, isEntry⟩ := exists_mem_of_names names.symm (mem_of_lookup found')
        obtain ⟨entry, isFound⟩ := exists_lookup_of_mem isEntry
        rw [found] at isFound
        cases isFound

end Entry.Reordered

/-! ## Where paths lead -/

namespace Location.Reordered

variable {location other : Location}

/-- So are the directories around. -/
theorem up (reordered : location.Reordered other) : location.up.Reordered other.up := by
  obtain ⟨here, around⟩ := location
  obtain ⟨here', around'⟩ := other
  obtain ⟨same, alongside⟩ := reordered
  cases alongside with
  | nil => exact ⟨same, .nil⟩
  | cons first rest => exact ⟨first, rest⟩

/-- So are directories in the directories that are the same but for the order. -/
theorem into (reordered : location.Reordered other)
    (inner : (Entry.directory entries).Reordered (.directory others)) :
    (location.into entries).Reordered (other.into others) :=
  ⟨inner, .cons reordered.here reordered.around⟩

/-- Names lead from both through directories that are the same but for the order. -/
theorem descend? (reordered : location.Reordered other) (names : List Bytes) :
    Option.Rel Location.Reordered (location.descend? names) (other.descend? names) := by
  induction names generalizing location other with
  | nil => exact .some reordered
  | cons name names ih =>
    have found := reordered.here.lookup name
    rw [Location.descend?, Location.descend?]
    generalize location.here.lookup name = here at found ⊢
    generalize other.here.lookup name = there at found ⊢
    cases found with
    | none => exact .none
    | some same =>
      cases same with
      | file | link => exact .none
      | directory names each => exact ih (reordered.into (.directory names each))

end Location.Reordered

/-- Two results are the same failure, or two values that are related. -/
inductive Alike {Value : Type} (related : Value → Value → Prop) :
    Except FileCause Value → Except FileCause Value → Prop
  /-- Both fail. -/
  | error (cause : FileCause) : Alike related (.error cause) (.error cause)
  /-- Both succeed. -/
  | ok {value other : Value} (same : related value other) : Alike related (.ok value) (.ok other)

/-- A result that is like a value is a value that is related to it. -/
theorem Alike.exists_ok {Value : Type} {related : Value → Value → Prop} {value : Value}
    {result : Except FileCause Value} (alike : Alike related (.ok value) result) :
    ∃ other, result = .ok other ∧ related value other := by
  cases alike with
  | ok same => exact ⟨_, rfl, same⟩

namespace FileSystem

variable {system other : FileSystem}

/-- The other file system is the same as the first one, but for the order. -/
theorem Reordered.symm (reordered : system.Reordered other) : other.Reordered system :=
  ⟨reordered.root.symm, reordered.workingNames.symm⟩

/-- It goes on alike behind two names: at places that are the same but for the order, with as many links
and the same names. -/
structure Onward.Reordered (onward next : Onward) : Prop where
  /-- The number of links. -/
  links : onward.links = next.links
  /-- The places. -/
  place : onward.place.Reordered next.place
  /-- The names of the target of a link. -/
  names : onward.names = next.names

section

variable (reordered : system.Reordered other)

include reordered

/-- The roots are the same but for the order. -/
theorem ofRoot_reordered : (Location.ofRoot system.root).Reordered (.ofRoot other.root) :=
  ⟨reordered.root, .nil⟩

/-- So are the working directories. -/
theorem working_reordered : system.working.Reordered other.working := by
  have led := (ofRoot_reordered reordered).descend? system.workingNames
  have here : (Location.ofRoot system.root).descend? system.workingNames = some system.working :=
    (Option.some_get system.present).symm
  have there : (Location.ofRoot other.root).descend? other.workingNames = some other.working :=
    (Option.some_get other.present).symm
  rw [here, reordered.workingNames, there] at led
  cases led with
  | some same => exact same

/-- So are the directories from which a path is followed. -/
theorem origin_reordered {location location' : Location} (same : location.Reordered location')
    (path : PathName) : (system.origin location path).Reordered (other.origin location' path) := by
  unfold origin
  split
  · exact ofRoot_reordered reordered
  · exact same

/-- A name leads alike from directories that are the same but for the order. -/
theorem enter_alike (links : Nat) {location location' : Location} (same : location.Reordered location')
    (name : Bytes) : Alike Onward.Reordered (system.enter links location name)
      (other.enter links location' name) := by
  unfold enter
  split
  · exact .ok ⟨rfl, .directory same, rfl⟩
  · split
    · exact .ok ⟨rfl, .directory same.up, rfl⟩
    · split
      · exact .error _
      · have found := same.here.lookup name
        generalize location.here.lookup name = here at found ⊢
        generalize location'.here.lookup name = there at found ⊢
        cases found with
        | none => exact .error _
        | some entries =>
          cases entries with
          | file contents => exact .ok ⟨rfl, .file contents, rfl⟩
          | directory names each => exact .ok ⟨rfl, .directory (same.into (.directory names each)), rfl⟩
          | link target =>
            cases links with
            | zero => exact .error _
            | succ links => exact .ok ⟨rfl, .directory (origin_reordered reordered same target), rfl⟩

/-- A path leads alike from places that are the same but for the order. -/
theorem follow_alike (links : Nat) (place : Place) (names : List Bytes) :
    ∀ place', place.Reordered place' →
      Alike Place.Reordered (system.follow links place names) (other.follow links place' names) := by
  induction links, place, names using system.follow_induction with
  | ended links place =>
    intro place' same
    rw [follow_nil, follow_nil]
    exact .ok same
  | file links contents name rest =>
    intro place' same
    cases same
    rw [follow_file_cons, follow_file_cons]
    exact .error _
  | directory links location name rest ih =>
    intro place' same
    cases same with
    | @directory _ location' same =>
      rw [follow_cons, follow_cons]
      have steps := enter_alike reordered links same name
      generalize entered : system.enter links location name = here at steps ⊢
      generalize other.enter links location' name = there at steps ⊢
      cases steps with
      | error cause => exact .error cause
      | @ok onward next alike =>
        have further := ih onward entered next.place alike.place
        rw [alike.links, alike.names] at further
        show Alike Place.Reordered (system.follow onward.links onward.place (onward.names ++ rest)) _
        rw [alike.links, alike.names]
        exact further

/-- A path leads alike in file systems that are the same but for the order. -/
theorem place_alike (path : PathName) :
    Alike Place.Reordered (system.place path) (other.place path) := by
  unfold place
  split
  · exact .error _
  · split
    · exact .error _
    · split
      · exact .error _
      · exact follow_alike reordered _ _ _ _
          (.directory (origin_reordered reordered (working_reordered reordered) path))

variable {path reached : PathName} {inner : Entry}

/-- A path that leads somewhere leads somewhere in the other file system. -/
theorem exists_place_of_reordered {place : Place} (led : system.place path = .ok place) :
    ∃ place', other.place path = .ok place' := by
  have alike := place_alike reordered path
  rw [led] at alike
  obtain ⟨place', leads, _⟩ := alike.exists_ok
  exact ⟨place', leads⟩

/-- A path that leads to a directory leads to the same but for the order in the other file system. -/
theorem exists_directory_of_reordered {location : Location}
    (led : system.place path = .ok (.directory location)) :
    ∃ location', other.place path = .ok (.directory location') ∧ location.Reordered location' := by
  have alike := place_alike reordered path
  rw [led] at alike
  obtain ⟨place', leads, same⟩ := alike.exists_ok
  cases same with
  | directory same => exact ⟨_, leads, same⟩

/-- A path is read alike in both file systems. -/
theorem read_eq_of_reordered (path : PathName) : system.read path = other.read path := by
  have alike := place_alike reordered path
  unfold read
  generalize system.place path = here at alike ⊢
  generalize other.place path = there at alike ⊢
  cases alike with
  | error cause => rfl
  | ok same => cases same <;> rfl

/-! ## What is listed -/

/-- What is listed in one of the file systems is listed in the other one. -/
theorem isListed_of_reordered (alike : entry.Reordered entry') (listed : system.IsListed path entry) :
    other.IsListed path entry' := by
  cases alike with
  | file => trivial
  | directory => exact listed.elim
  | link target =>
    intro ⟨location', led⟩
    obtain ⟨location, led', _⟩ := exists_directory_of_reordered reordered.symm led
    exact listed ⟨location, led'⟩

omit reordered in
/-- At each path below a tree there is the same but for the order below the other one. -/
theorem exists_under_of_reordered (under : Under path entry reached inner)
    (alike : entry.Reordered entry') :
    ∃ inner', Under path entry' reached inner' ∧ inner.Reordered inner' := by
  induction under generalizing entry' with
  | self path entry => exact ⟨entry', .self path entry', alike⟩
  | inside member _ ih =>
    cases alike with
    | directory names each =>
      obtain ⟨other, isOther⟩ := exists_mem_of_names names member
      obtain ⟨inner', under, same⟩ := ih (each _ _ _ member isOther)
      exact ⟨inner', .inside isOther under, same⟩

/-- The documents that are listed in one of the file systems are listed in the other one. -/
theorem isDocument_of_reordered (alike : entry.Reordered entry') {document : Document}
    (isDocument : system.IsDocument path entry document) : other.IsDocument path entry' document := by
  obtain ⟨inner, under, listed, contents⟩ := isDocument
  obtain ⟨inner', under', alike'⟩ := exists_under_of_reordered under alike
  refine ⟨inner', under', isListed_of_reordered reordered alike' listed, ?_⟩
  rw [contents, read_eq_of_reordered reordered]

/-- Documents that are listed in one of the file systems are listed in the other one. -/
theorem Lists.of_reordered (alike : entry.Reordered entry') {documents : List Document}
    (lists : system.Lists path entry documents) : other.Lists path entry' documents := by
  refine ⟨fun document => ?_, lists.ordered⟩
  rw [lists.mem_iff]
  exact ⟨isDocument_of_reordered reordered alike, isDocument_of_reordered reordered.symm alike.symm⟩

end

variable {path : PathName}

/-- All documents that are listed, in the order of their paths, are one list. -/
theorem Lists.eq {documents documents' : List Document} (lists : system.Lists path entry documents)
    (lists' : system.Lists path entry documents') : documents = documents' := by
  have nodup : documents.Nodup := lists.ordered.imp fun before same => before.ne (congrArg _ same)
  have nodup' : documents'.Nodup := lists'.ordered.imp fun before same => before.ne (congrArg _ same)
  have perm : documents.Perm documents' := by
    rw [List.perm_ext_iff_of_nodup nodup nodup']
    intro document
    rw [lists.mem_iff, lists'.mem_iff]
  refine perm.eq_of_pairwise (fun left right _ _ before behind => ?_) lists.ordered lists'.ordered
  exact absurd behind (List.lt_asymm before)

/-! ## Searching below a directory -/

/-- A search below a directory, to which a path may lead through links, lists each path exactly once that
leads on from there through directories alone to a file, or to a link that leads to no directory. The paths
are in strict order, by their names. In which order the directories have their entries does not matter. -/
theorem documents_of_directory {location : Location} (led : system.place path = .ok (.directory location))
    (readable : ∀ reached entries, Under path (.directory location.here) reached (.directory entries) →
      ∃ place, system.place reached = .ok place) :
    ∃ documents, system.workspace.documents true path = .ok documents ∧
      (∀ reached, reached ∈ documents.map Document.path ↔
        ∃ entry, Under path (.directory location.here) reached entry ∧ system.IsListed reached entry) ∧
      (documents.map Document.path).Nodup ∧ (documents.map Document.path).Pairwise PathLT ∧
      ∀ other : FileSystem, system.Reordered other →
        other.workspace.documents true path = .ok documents := by
  obtain ⟨documents, found, lists⟩ := exists_documents led readable
  refine ⟨documents, found, fun reached => ?_, ?_, List.pairwise_map.2 lists.ordered,
    fun other reordered => ?_⟩
  · rw [List.mem_map]
    constructor
    · intro ⟨document, member, same⟩
      obtain ⟨entry, under, listed, _⟩ := (lists.mem_iff document).1 member
      rw [← same]
      exact ⟨entry, under, listed⟩
    · intro ⟨entry, under, listed⟩
      exact ⟨⟨reached, system.read reached⟩, (lists.mem_iff _).2 ⟨entry, under, listed, rfl⟩, rfl⟩
  · exact List.pairwise_map.2 (lists.ordered.imp PathLT.ne)
  · obtain ⟨location', led', same⟩ := exists_directory_of_reordered reordered led
    have readable' : ∀ reached entries,
        Under path (.directory location'.here) reached (.directory entries) →
          ∃ place, other.place reached = .ok place := by
      intro reached entries under
      obtain ⟨inner, below, alike⟩ := exists_under_of_reordered under same.here.symm
      cases alike with
      | directory =>
        obtain ⟨place, leads⟩ := readable reached _ below
        exact exists_place_of_reordered reordered leads
    obtain ⟨documents', found', lists'⟩ := exists_documents led' readable'
    rw [found', lists'.eq (lists.of_reordered reordered same.here)]

section

open PathName (ofString)

/-- A directory with a file whose name is no UTF-8, and with a link to the directory around it. -/
def innerDirectory : Directory := [(ofString "up", .link (ofString "..")), ([0xFF], .file [])]

/-- A directory with the former one and a file in it, and with links to the file, to nothing, back to the
directory, and to themselves. -/
def linkedDirectory : Directory :=
  [(ofString "a", .directory innerDirectory), (ofString "a.txt", .file []),
    (ofString "b.txt", .link (ofString "/t/a.txt")), (ofString "gone", .link (ofString "/none")),
    (ofString "loop", .link (ofString "/t")), (ofString "self", .link (ofString "self"))]

/-- A root with a directory `t` that has some entries, and with a directory `w` in which `top` is a link to
the former one. -/
def linkedRoot (entries : Directory) : Directory :=
  [(ofString "t", .directory entries),
    (ofString "w", .directory [(ofString "top", .link (ofString "/t"))])]

/-- The linked directory, seen from where there is a link to it. -/
def linkedSystem : FileSystem := ⟨linkedRoot linkedDirectory, [ofString "w"], by decide, by decide⟩

/-- The same with the entries of the linked directory in reverse. -/
def reversedSystem : FileSystem :=
  ⟨linkedRoot linkedDirectory.reverse, [ofString "w"], by decide, by decide⟩

/-- What is listed for the linked directory, in the order in which it has its entries. -/
theorem documents_of_linkedDirectory :
    linkedSystem.workspace.documents true (ofString "top") =
      .ok [⟨ofString "top/a/" ++ [0xFF], .ok []⟩, ⟨ofString "top/a.txt", .ok []⟩,
        ⟨ofString "top/b.txt", .ok []⟩, ⟨ofString "top/gone", .error .notFound⟩,
        ⟨ofString "top/self", .error .tooManyLinks⟩] := by
  let inner : Found := .directory (linkedSystem.items (ofString "top/a") innerDirectory)
  have within : inner.documents (ofString "top/a") = .ok [⟨ofString "top/a/" ++ [0xFF], .ok []⟩] := by
    rw [Found.documents_of_sorted (by decide)]
    rfl
  have each : itemDocuments (ofString "top") (linkedSystem.items (ofString "top") linkedDirectory) =
      (ofString "a", inner.documents (ofString "top/a")) ::
        [(ofString "a.txt", .ok [⟨ofString "top/a.txt", .ok []⟩]),
          (ofString "b.txt", .ok [⟨ofString "top/b.txt", .ok []⟩]),
          (ofString "gone", .ok [⟨ofString "top/gone", .error .notFound⟩]),
          (ofString "loop", .ok []),
          (ofString "self", .ok [⟨ofString "top/self", .error .tooManyLinks⟩])] := rfl
  show (Found.directory (linkedSystem.items (ofString "top") linkedDirectory)).documents _ = _
  rw [Found.documents_of_sorted (by decide), each, within]
  rfl

/-- The files of the linked directory are listed in order, behind the link to it, in whatever order it has
them: `top/a/` and the byte `0xFF` before `top/a.txt`, and neither `top/loop` nor `top/a/up`. -/
theorem documents_of_directory_behind_link :
    ∃ documents, linkedSystem.workspace.documents true (ofString "top") = .ok documents ∧
      documents.map Document.path =
        [ofString "top/a/" ++ [0xFF], ofString "top/a.txt", ofString "top/b.txt", ofString "top/gone",
          ofString "top/self"] ∧
      reversedSystem.workspace.documents true (ofString "top") = .ok documents := by
  have led : linkedSystem.place (ofString "top") =
      .ok (.directory ⟨linkedDirectory, [linkedRoot linkedDirectory]⟩) := rfl
  have readable : ∀ reached entries,
      Under (ofString "top") (.directory linkedDirectory) reached (.directory entries) →
        ∃ place, linkedSystem.place reached = .ok place := by
    intro reached entries under
    cases under with
    | self => exact ⟨_, led⟩
    | inside member deeper =>
      simp only [linkedDirectory, List.mem_cons, List.not_mem_nil, or_false, Prod.mk.injEq] at member
      rcases member with ⟨rfl, rfl⟩ | ⟨rfl, rfl⟩ | ⟨rfl, rfl⟩ | ⟨rfl, rfl⟩ | ⟨rfl, rfl⟩ | ⟨rfl, rfl⟩
      case inl =>
        cases deeper with
        | self => exact ⟨_, rfl⟩
        | inside member deepest =>
          simp only [innerDirectory, List.mem_cons, List.not_mem_nil, or_false, Prod.mk.injEq] at member
          rcases member with ⟨rfl, rfl⟩ | ⟨rfl, rfl⟩ <;> cases deepest
      all_goals cases deeper
  obtain ⟨documents, found, _, _, _, same⟩ := documents_of_directory led readable
  refine ⟨documents, found, ?_, same reversedSystem ⟨?_, rfl⟩⟩
  · rw [documents_of_linkedDirectory] at found
    cases found
    rfl
  · have reversed : (Entry.directory linkedDirectory).Reordered (.directory linkedDirectory.reverse) :=
      .of_perm (by decide) (List.reverse_perm _).symm
    refine .directory (.refl _) fun name entry entry' (isEntry : _ ∈ linkedRoot linkedDirectory)
      (isOther : _ ∈ linkedRoot linkedDirectory.reverse) => ?_
    simp only [linkedRoot, List.mem_cons, List.not_mem_nil, or_false, Prod.mk.injEq] at isEntry isOther
    rcases isEntry with ⟨rfl, rfl⟩ | ⟨rfl, rfl⟩
    · rcases isOther with ⟨_, rfl⟩ | ⟨different, _⟩
      · exact reversed
      · exact absurd different (by decide)
    · rcases isOther with ⟨different, _⟩ | ⟨_, rfl⟩
      · exact absurd different (by decide)
      · exact .refl (by decide)

end

end FileSystem
end PatternSearch
