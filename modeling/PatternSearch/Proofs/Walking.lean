import Mathlib.Data.List.Basic
import PatternSearch.Proofs.Resolving

/-!
# What stands below a directory

Paths are ordered by their names, and names by their bytes (`PathLT`). A path comes before another one
below the same directory as soon as the names under which they lie in it do (`pathLT_of_under`), so the
files of a directory are in order when the names are sorted and the files under each name are in order.
This is not the order of the bytes of whole paths: `a/b` comes before `a.txt`.

`FileSystem.Lists` says which files a search has to list at a path and below it, and that it lists them in
order. What the search sees of an entry and of all entries of a directory is listed like that (`lists_item`,
`lists_items`), by recursion on the tree. So a path that leads to a directory is searched completely, if each
directory below it can be opened by its path (`exists_documents`).
-/
namespace PatternSearch

/-! ## The order of paths -/

/-- A path comes before another one: by the bytes of the first names in which they differ, or because the
other one goes on behind it. -/
def PathLT (left right : PathName) : Prop := left.components < right.components

/-- No path comes before itself. -/
theorem PathLT.ne {left right : PathName} (before : PathLT left right) : left ≠ right := by
  intro same
  rw [PathLT, same] at before
  exact List.lt_irrefl _ before

/-- Things with different names are sorted strictly by the bytes of their names. -/
theorem pairwise_mergeSort_names {α : Type} {items : List (Bytes × α)}
    (distinct : (items.map Prod.fst).Nodup) :
    (items.mergeSort fun left right => PathName.nameLE left.1 right.1).Pairwise
      fun left right => left.1 < right.1 := by
  let le : Bytes × α → Bytes × α → Bool := fun left right => PathName.nameLE left.1 right.1
  have sorted : (items.mergeSort le).Pairwise fun left right => le left right = true := by
    apply List.pairwise_mergeSort
    · intro first second third before behind
      exact decide_eq_true (List.le_trans (of_decide_eq_true before) (of_decide_eq_true behind))
    · intro left right
      rcases List.le_total left.1 right.1 with before | behind
      · exact Bool.or_eq_true_iff.2 (.inl (decide_eq_true before))
      · exact Bool.or_eq_true_iff.2 (.inr (decide_eq_true behind))
  have distinct' : ((items.mergeSort le).map Prod.fst).Nodup :=
    ((List.mergeSort_perm items le).map Prod.fst).nodup_iff.2 distinct
  have different : (items.mergeSort le).Pairwise fun left right => left.1 ≠ right.1 :=
    List.pairwise_map.1 distinct'
  refine (sorted.and different).imp fun ⟨notAfter, other⟩ => ?_
  exact Std.lt_of_le_of_ne (of_decide_eq_true notAfter) other

namespace FileSystem

variable {system : FileSystem} {path reached deep : PathName} {name other : Bytes} {entry inner : Entry}

/-- The path of something in a directory does not end in a slash. -/
theorem getLast?_child (path : PathName) (isName : IsName name) :
    (path.child name).getLast? ≠ some PathName.slash := by
  have ends : (path.child name).getLast? = name.getLast? := by
    unfold PathName.child
    split <;> exact List.getLast?_append_of_ne_nil _ isName.nonempty
  rw [ends]
  exact fun slash => isName.noSlash (List.mem_of_getLast? slash)

/-- Whatever stands below a path goes on with further names. -/
theorem exists_components_of_under (under : Under path entry reached inner) (named : entry.WellNamed)
    (noSlash : path.getLast? ≠ some PathName.slash) :
    ∃ names, reached.components = path.components ++ names := by
  induction under with
  | self path entry => exact ⟨[], (List.append_nil _).symm⟩
  | @inside path reached name entries entry other member deeper ih =>
    cases named with
    | directory distinct proper each =>
      have isName : IsName name := proper _ member
      obtain ⟨names, same⟩ := ih (each _ member) (getLast?_child path isName)
      refine ⟨name :: names, ?_⟩
      rw [same, PathName.components_child path isName.noSlash, PathName.directoryNames, if_neg noSlash,
        List.append_assoc, List.singleton_append]

/-- Of two names in a directory whatever stands at or below the first one comes before whatever stands at
or below the second one. -/
theorem pathLT_of_under {another deepest : Entry} (isName : IsName name) (named : entry.WellNamed)
    (under : Under (path.child name) entry reached inner) (isName' : IsName other)
    (named' : another.WellNamed) (under' : Under (path.child other) another deep deepest)
    (before : name < other) : PathLT reached deep := by
  obtain ⟨names, same⟩ := exists_components_of_under under named (getLast?_child path isName)
  obtain ⟨names', same'⟩ := exists_components_of_under under' named' (getLast?_child path isName')
  rw [PathName.components_child path isName.noSlash, List.append_assoc, List.singleton_append] at same
  rw [PathName.components_child path isName'.noSlash, List.append_assoc, List.singleton_append] at same'
  rw [PathLT, same, same']
  exact List.append_left_lt (List.cons_lt_cons_iff.2 (.inl before))

/-! ## What is listed -/

/-- What a search lists where it stands at a path: a file, or a link that leads to no directory. -/
def IsListed (system : FileSystem) (path : PathName) : Entry → Prop
  | .file _ => True
  | .directory _ => False
  | .link _ => ¬ ∃ location, system.place path = .ok (.directory location)

/-- A document is listed for an entry at a path: what stands at its path, at or below the entry, is listed,
and its contents are what is read by that path. -/
def IsDocument (system : FileSystem) (path : PathName) (entry : Entry) (document : Document) : Prop :=
  ∃ inner, Under path entry document.path inner ∧ system.IsListed document.path inner ∧
    document.contents = system.read document.path

/-- Documents are all those that are listed for an entry at a path, in the order of their paths. -/
structure Lists (system : FileSystem) (path : PathName) (entry : Entry) (documents : List Document) :
    Prop where
  /-- They are the documents that are listed. -/
  mem_iff : ∀ document, document ∈ documents ↔ system.IsDocument path entry document
  /-- Each comes before those behind it. -/
  ordered : documents.Pairwise fun left right => PathLT left.path right.path

/-- Below something that is no directory there is nothing. -/
theorem eq_of_under (leaf : ∀ entries, entry ≠ .directory entries)
    (under : Under path entry reached inner) : reached = path ∧ inner = entry := by
  cases under with
  | self => exact ⟨rfl, rfl⟩
  | inside member deeper => exact absurd rfl (leaf _)

/-- Something that is listed and is no directory is listed by itself. -/
theorem lists_singleton (leaf : ∀ entries, entry ≠ .directory entries)
    (listed : system.IsListed path entry) : system.Lists path entry [⟨path, system.read path⟩] := by
  refine ⟨fun ⟨own, contents⟩ => ?_, List.pairwise_singleton _ _⟩
  rw [List.mem_singleton]
  constructor
  · intro same
    cases same
    exact ⟨entry, .self path entry, listed, rfl⟩
  · intro ⟨inner, under, _, isRead⟩
    have ⟨here, _⟩ := eq_of_under leaf under
    rw [show contents = system.read own from isRead, show own = path from here]

/-- For something that is not listed and is no directory nothing is listed. -/
theorem lists_nil (leaf : ∀ entries, entry ≠ .directory entries) (unlisted : ¬ system.IsListed path entry) :
    system.Lists path entry [] := by
  refine ⟨fun document => ⟨fun none => absurd none List.not_mem_nil, ?_⟩, .nil⟩
  intro ⟨inner, under, listed, _⟩
  obtain ⟨here, same⟩ := eq_of_under leaf under
  rw [here, same] at listed
  exact absurd listed unlisted

/-- Documents under names in a directory: those that are listed for the entries of the directory. -/
structure ListsItems (system : FileSystem) (path : PathName) (entries : Directory)
    (listings : List (Bytes × List Document)) : Prop where
  /-- The names are those in the directory. -/
  names : listings.map Prod.fst = entries.map Prod.fst
  /-- The documents under a name are those that are listed for an entry under it. -/
  each : ∀ listing ∈ listings, ∃ entry, (listing.1, entry) ∈ entries ∧
    system.Lists (path.child listing.1) entry listing.2
  /-- Whatever is listed for an entry is there. -/
  complete : ∀ item ∈ entries, ∀ document, system.IsDocument (path.child item.1) item.2 document →
    ∃ listing ∈ listings, document ∈ listing.2

/-- The documents that are listed for an entry stand under its name. -/
theorem ListsItems.cons {rest : Directory} {listings : List (Bytes × List Document)}
    {documents : List Document} (lists : system.Lists (path.child name) entry documents)
    (listed : system.ListsItems path rest listings) :
    system.ListsItems path ((name, entry) :: rest) ((name, documents) :: listings) := by
  constructor
  case names => rw [List.map_cons, List.map_cons, listed.names]
  case each =>
    intro listing isListing
    rcases List.mem_cons.1 isListing with same | later
    · rw [same]
      exact ⟨entry, List.mem_cons_self, lists⟩
    · obtain ⟨other, isEntry, lists'⟩ := listed.each listing later
      exact ⟨other, List.mem_cons_of_mem _ isEntry, lists'⟩
  case complete =>
    intro item member document isDocument
    rcases List.mem_cons.1 member with same | later
    · rw [same] at isDocument
      exact ⟨_, List.mem_cons_self, (lists.mem_iff document).2 isDocument⟩
    · obtain ⟨listing, isListing, inside⟩ := listed.complete item later document isDocument
      exact ⟨listing, List.mem_cons_of_mem _ isListing, inside⟩

/-- Documents under names, sorted by name. -/
def sortedDocuments (listings : List (Bytes × List Document)) : List Document :=
  ((listings.mergeSort fun left right => PathName.nameLE left.1 right.1).map Prod.snd).flatten

/-- A document is among the sorted ones if it is under a name. -/
theorem mem_sortedDocuments {listings : List (Bytes × List Document)} {document : Document} :
    document ∈ sortedDocuments listings ↔ ∃ listing ∈ listings, document ∈ listing.2 := by
  simp only [sortedDocuments, List.mem_flatten, List.mem_map, List.mem_mergeSort,
    exists_exists_and_eq_and]

/-- The documents under the names of a directory, sorted by name, are those that are listed for it. -/
theorem ListsItems.lists {entries : Directory} {listings : List (Bytes × List Document)}
    (listed : system.ListsItems path entries listings) (named : (Entry.directory entries).WellNamed) :
    system.Lists path (.directory entries) (sortedDocuments listings) := by
  cases named with
  | directory distinct proper named =>
    constructor
    case mem_iff =>
      intro document
      rw [mem_sortedDocuments]
      constructor
      · intro ⟨listing, isListing, isInside⟩
        obtain ⟨entry, isEntry, lists⟩ := listed.each listing isListing
        obtain ⟨inner, under, isListed⟩ := (lists.mem_iff document).1 isInside
        exact ⟨inner, .inside isEntry under, isListed⟩
      · intro ⟨inner, under, isListed, contents⟩
        generalize here : document.path = reached at under
        cases under with
        | self => exact isListed.elim
        | @inside _ _ name _ entry _ isEntry deeper =>
          rw [← here] at deeper
          exact listed.complete (name, entry) isEntry document ⟨inner, deeper, isListed, contents⟩
    case ordered =>
      rw [sortedDocuments, List.pairwise_flatten]
      constructor
      · intro documents isMember
        obtain ⟨listing, isListing, same⟩ := List.mem_map.1 isMember
        obtain ⟨entry, _, lists⟩ := listed.each listing (List.mem_mergeSort.1 isListing)
        rw [← same]
        exact lists.ordered
      · rw [List.pairwise_map]
        have sorted := pairwise_mergeSort_names (listed.names ▸ distinct)
        refine sorted.imp_of_mem fun {left right} isLeft isRight before => ?_
        obtain ⟨entry, isEntry, lists⟩ := listed.each left (List.mem_mergeSort.1 isLeft)
        obtain ⟨another, isAnother, lists'⟩ := listed.each right (List.mem_mergeSort.1 isRight)
        intro document isDocument document' isDocument'
        obtain ⟨_, under, _⟩ := (lists.mem_iff document).1 isDocument
        obtain ⟨_, under', _⟩ := (lists'.mem_iff document').1 isDocument'
        exact pathLT_of_under (proper _ isEntry) (named _ isEntry) under (proper _ isAnother)
          (named _ isAnother) under' before

/-! ## What is seen -/

/-- The documents of a directory are those under its names, if there is no error under any of them. -/
theorem documents_directory {items : List (Bytes × Item)} {listings : List (Bytes × List Document)}
    (each : itemDocuments path items = listings.map fun listing => (listing.1, .ok listing.2)) :
    (Found.directory items).documents path = .ok (sortedDocuments listings) := by
  let succeed : Bytes × List Document → Bytes × Except PathError (List Document) :=
    fun listing => (listing.1, .ok listing.2)
  have sorted : (listings.map succeed).mergeSort (fun left right => PathName.nameLE left.1 right.1) =
      (listings.mergeSort fun left right => PathName.nameLE left.1 right.1).map succeed :=
    (List.map_mergeSort (f := succeed) fun _ _ _ _ => rfl).symm
  rw [Found.documents, each, sorted, List.mapM_map]
  exact congrArg (List.flatten <$> ·) List.mapM_pure

/-- A link is recognised as leading to a directory exactly when it does. -/
theorem leadsToDirectory_iff :
    system.leadsToDirectory path = true ↔ ∃ location, system.place path = .ok (.directory location) := by
  unfold leadsToDirectory
  split
  · rename_i location led
    exact ⟨fun _ => ⟨location, led⟩, fun _ => rfl⟩
  · rename_i elsewhere
    exact ⟨fun same => absurd same Bool.false_ne_true, fun ⟨location, led⟩ => (elsewhere location led).elim⟩

/-- A link is passed over if it leads to a directory, and is listed by itself if it does not. -/
theorem lists_link (system : FileSystem) (path target : PathName) :
    ∃ documents, (system.item path (.link target)).documents path = .ok documents ∧
      system.Lists path (.link target) documents := by
  refine ⟨_, by rw [item, Item.documents], ?_⟩
  split
  · rename_i leads
    exact lists_nil nofun fun listed => listed (leadsToDirectory_iff.1 leads)
  · rename_i elsewhere
    exact lists_singleton nofun fun leads => elsewhere (leadsToDirectory_iff.2 leads)

mutual

/-- What is seen of an entry at a path lists all documents at and below it, if all paths of directories
there lead to them. -/
theorem lists_item (system : FileSystem) :
    (entry : Entry) → (path : PathName) → entry.WellNamed →
    (∀ reached entries, Under path entry reached (.directory entries) → system.Opens reached entries) →
    ∃ documents, (system.item path entry).documents path = .ok documents ∧
      system.Lists path entry documents
  | .file contents, path, _, _ => by
    refine ⟨[⟨path, system.read path⟩], ?_, lists_singleton nofun trivial⟩
    rw [item, Item.documents, Found.documents]
  | .link target, path, _, _ => lists_link system path target
  | .directory entries, path, named, opens => by
    obtain ⟨location, led, _⟩ := opens path entries (.self path _)
    have ⟨listings, each, listed⟩ := lists_items system entries path
      (Entry.wellNamed_directory_iff.1 named).2.2
      fun item member reached inner under => opens reached inner (.inside member under)
    refine ⟨sortedDocuments listings, ?_, listed.lists named⟩
    rw [item, led]
    show (Item.plain (.directory (system.items path entries))).documents path = _
    rw [Item.documents, documents_directory each]

/-- So does what is seen of the entries of a directory. -/
theorem lists_items (system : FileSystem) :
    (entries : Directory) → (path : PathName) → (∀ item ∈ entries, item.2.WellNamed) →
    (∀ item ∈ entries, ∀ reached inner, Under (path.child item.1) item.2 reached (.directory inner) →
      system.Opens reached inner) →
    ∃ listings, (itemDocuments path (system.items path entries) =
        listings.map fun listing => (listing.1, .ok listing.2)) ∧
      system.ListsItems path entries listings
  | [], path, _, _ => by
    refine ⟨[], ?_, rfl, nofun, nofun⟩
    rw [items, itemDocuments]
    rfl
  | (name, entry) :: rest, path, named, opens => by
    obtain ⟨listings, each, listed⟩ := lists_items system rest path
      (fun item member => named item (List.mem_cons_of_mem _ member))
      fun item member => opens item (List.mem_cons_of_mem _ member)
    obtain ⟨documents, listing, lists⟩ := lists_item system entry (path.child name)
      (named _ List.mem_cons_self) (opens _ List.mem_cons_self)
    refine ⟨(name, documents) :: listings, ?_, listed.cons lists⟩
    rw [items, itemDocuments, listing, each, List.map_cons]

end

/-- A path that leads to a directory is searched without an error, if each directory at or below it can be
opened by its path, and the documents are all those that are listed for it, in the order of their paths. -/
theorem exists_documents {location : Location} (led : system.place path = .ok (.directory location))
    (readable : ∀ reached entries, Under path (.directory location.here) reached (.directory entries) →
      ∃ place, system.place reached = .ok place) :
    ∃ documents, system.workspace.documents true path = .ok documents ∧
      system.Lists path (.directory location.here) documents := by
  have named := (within_of_place led).wellNamed system.named
  have opens : ∀ reached entries,
      Under path (.directory location.here) reached (.directory entries) →
        system.Opens reached entries := by
    intro reached entries under
    refine opens_of_under under named (fun own same => ?_) (fun deep inner below => ?_) entries rfl
    · cases same
      exact ⟨location, led, rfl⟩
    · obtain ⟨place, leads⟩ := readable deep inner below
      exact (place_eq_ok.1 leads).2.2.1
  obtain ⟨documents, listing, lists⟩ := lists_item system (.directory location.here) path named opens
  refine ⟨documents, ?_, lists⟩
  rw [item, led] at listing
  change (Item.plain (.directory (system.items path location.here))).documents path = _ at listing
  rw [Item.documents] at listing
  rw [Workspace.documents, workspace, led]
  exact listing

end FileSystem
end PatternSearch
