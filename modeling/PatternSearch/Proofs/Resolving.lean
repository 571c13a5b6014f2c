import PatternSearch.Files.FileSystem

/-!
# Where paths lead

A path is followed name by name. `enter` says where the first name of a path leads, and how it goes on from
there: behind a link the names of its target come first (`follow_cons`). Everything about whole paths is
shown by an induction on such steps (`follow_induction`).

Whatever directory a path leads to lies in the tree of the file system (`within_of_place`), so the names in
it are proper. The path of a directory in it is its own path with one more name, and leads to that directory
unless it is too long (`place_child`). So the path of whatever stands below a directory is right wherever the
first directory was found, behind links or not (`opens_of_under`).
-/
namespace PatternSearch

/-- What has a name in a directory is found under it. -/
theorem lookup_eq_some_of_mem {entries : Directory} {name : Bytes} {entry : Entry}
    (distinct : (entries.map Prod.fst).Nodup) (member : (name, entry) ∈ entries) :
    entries.lookup name = some entry := by
  induction entries with
  | nil => exact absurd member List.not_mem_nil
  | cons first rest ih =>
    rw [List.map_cons, List.nodup_cons] at distinct
    rcases List.mem_cons.1 member with same | later
    · rw [← same, List.lookup_cons_self]
    · have other : name ≠ first.1 := fun same =>
        distinct.1 (same ▸ List.mem_map.2 ⟨(name, entry), later, rfl⟩)
      rw [List.lookup_cons, beq_eq_false_iff_ne.2 other]
      exact ih distinct.2 later

/-- What is found under a name in a directory is there. -/
theorem mem_of_lookup {entries : Directory} {name : Bytes} {entry : Entry}
    (found : entries.lookup name = some entry) : (name, entry) ∈ entries := by
  obtain ⟨before, behind, same, _⟩ := List.lookup_eq_some_iff.1 found
  rw [same]
  exact List.mem_append_right before List.mem_cons_self

/-- A directory lies in a tree: it is the root, or it is found in a directory that lies there. -/
inductive Location.Within (root : Directory) : Location → Prop
  /-- The root. -/
  | ofRoot : Within root (.ofRoot root)
  /-- A directory in a directory. -/
  | into {location : Location} {name : Bytes} {entries : Directory} (within : Within root location)
      (found : location.here.lookup name = some (.directory entries)) :
      Within root (location.into entries)

namespace Location.Within

variable {root : Directory} {location : Location}

/-- So does the directory around it. -/
theorem up (within : location.Within root) : location.up.Within root := by
  cases within with
  | ofRoot => exact .ofRoot
  | into within _ => exact within

/-- So does a directory to which names lead from it. -/
theorem of_descend? {names : List Bytes} {reached : Location} (within : location.Within root)
    (led : location.descend? names = some reached) : reached.Within root := by
  induction names generalizing location with
  | nil =>
    cases led
    exact within
  | cons name names ih =>
    rw [descend?] at led
    split at led
    · rename_i entries found
      exact ih (within.into found) led
    · cases led

/-- The names in a directory in a tree with proper names are proper. -/
theorem wellNamed (within : location.Within root) (named : (Entry.directory root).WellNamed) :
    (Entry.directory location.here).WellNamed := by
  induction within with
  | ofRoot => exact named
  | into _ found ih =>
    cases ih with
    | directory _ _ each => exact each _ (mem_of_lookup found)

end Location.Within

namespace FileSystem

variable {system : FileSystem}

/-! ## One name -/

/-- How it goes on behind the first name of a path. -/
structure Onward where
  /-- The number of links that may still be followed. -/
  links : Nat
  /-- The place that is reached. -/
  place : Place
  /-- The names of the target of a link, which come before the rest of the path. -/
  names : List Bytes

/-- Where a name leads from a directory. -/
def enter (system : FileSystem) (links : Nat) (location : Location) (name : Bytes) :
    Except FileCause Onward :=
  if name = [] ∨ name = PathName.selfName then .ok ⟨links, .directory location, []⟩
  else if name = PathName.parentName then .ok ⟨links, .directory location.up, []⟩
  else if maxNameBytes < name.length then .error .nameTooLong
  else
    match location.here.lookup name with
    | none => .error .notFound
    | some (.file contents) => .ok ⟨links, .file contents, []⟩
    | some (.directory entries) => .ok ⟨links, .directory (location.into entries), []⟩
    | some (.link target) =>
      match links with
      | 0 => .error .tooManyLinks
      | links + 1 => .ok ⟨links, .directory (system.origin location target), target.components⟩

/-- The ways on from a directory by a name. -/
inductive Enters (system : FileSystem) (location : Location) (name : Bytes) : Nat → Onward → Prop
  /-- The name stays in the directory. -/
  | self (links : Nat) : Enters system location name links ⟨links, .directory location, []⟩
  /-- It leads to the directory around. -/
  | parent (links : Nat) : Enters system location name links ⟨links, .directory location.up, []⟩
  /-- It leads to a file. -/
  | file (links : Nat) (contents : Bytes) :
      Enters system location name links ⟨links, .file contents, []⟩
  /-- It leads to a directory in the directory. -/
  | directory {entries : Directory} (links : Nat)
      (found : location.here.lookup name = some (.directory entries)) :
      Enters system location name links ⟨links, .directory (location.into entries), []⟩
  /-- It is that of a link, and the names of the target come next. -/
  | link (links : Nat) (target : PathName) :
      Enters system location name (links + 1)
        ⟨links, .directory (system.origin location target), target.components⟩

/-- A name that leads somewhere leads there in one of these ways. -/
theorem enters_of_enter {links : Nat} {location : Location} {name : Bytes} {onward : Onward}
    (entered : system.enter links location name = .ok onward) :
    system.Enters location name links onward := by
  unfold enter at entered
  split at entered
  · cases entered
    exact .self links
  · split at entered
    · cases entered
      exact .parent links
    · split at entered
      · cases entered
      · cases found : location.here.lookup name with
        | none =>
          rw [found] at entered
          cases entered
        | some entry =>
          rw [found] at entered
          cases entry with
          | file contents =>
            cases entered
            exact .file links contents
          | directory entries =>
            cases entered
            exact .directory links found
          | link target =>
            cases links with
            | zero => cases entered
            | succ links =>
              cases entered
              exact .link links target

/-- A path without names ends where it begins. -/
theorem follow_nil (links : Nat) (place : Place) : system.follow links place [] = .ok place := by
  cases links <;> rfl

/-- Behind a file no path goes on. -/
theorem follow_file_cons (links : Nat) (contents : Bytes) (name : Bytes) (rest : List Bytes) :
    system.follow links (.file contents) (name :: rest) = .error .notADirectory := by
  cases links <;> rfl

/-- A path goes on from where its first name leads. -/
theorem follow_cons (links : Nat) (location : Location) (name : Bytes) (rest : List Bytes) :
    system.follow links (.directory location) (name :: rest) =
      system.enter links location name >>= fun onward =>
        system.follow onward.links onward.place (onward.names ++ rest) := by
  unfold enter
  cases links with
  | zero | succ links =>
    rw [follow, followWith]
    split
    · rfl
    · split
      · rfl
      · split
        · rfl
        · rcases location.here.lookup name with _ | _ | _ | _ <;> rfl

/-- What holds where a path ends, and behind a file, and in a directory if it holds where the first name
leads, holds of all paths. -/
theorem follow_induction (system : FileSystem) {motive : Nat → Place → List Bytes → Prop}
    (ended : ∀ links place, motive links place [])
    (file : ∀ links contents name rest, motive links (.file contents) (name :: rest))
    (directory : ∀ links location name rest, (∀ onward, system.enter links location name = .ok onward →
      motive onward.links onward.place (onward.names ++ rest)) →
      motive links (.directory location) (name :: rest))
    (links : Nat) (place : Place) (names : List Bytes) : motive links place names := by
  -- Links are used up one by one, and between two of them the path gets shorter.
  induction links using Nat.strongRecOn generalizing place names with
  | ind links fewer =>
    induction names generalizing place with
    | nil => exact ended links place
    | cons name rest shorter =>
      cases place with
      | file contents => exact file links contents name rest
      | directory location =>
        refine directory links location name rest fun onward entered => ?_
        cases enters_of_enter entered with
        | self | parent | file | directory => exact shorter _
        | link links target => exact fewer links (Nat.lt_succ_self links) _ _

/-- A path in two parts is followed part by part. -/
theorem exists_follow_append (links : Nat) (place : Place) (names : List Bytes) :
    ∃ left, ∀ rest, system.follow links place (names ++ rest) =
      system.follow links place names >>= fun reached => system.follow left reached rest := by
  induction links, place, names using system.follow_induction with
  | ended links place =>
    refine ⟨links, fun rest => ?_⟩
    rw [follow_nil]
    rfl
  | file links contents name names =>
    refine ⟨links, fun rest => ?_⟩
    rw [List.cons_append, follow_file_cons, follow_file_cons]
    rfl
  | directory links location name names ih =>
    cases entered : system.enter links location name with
    | error cause =>
      refine ⟨links, fun rest => ?_⟩
      rw [List.cons_append, follow_cons, follow_cons, entered]
      rfl
    | ok onward =>
      obtain ⟨left, same⟩ := ih onward entered
      refine ⟨left, fun rest => ?_⟩
      have further := same rest
      rw [List.append_assoc] at further
      rw [List.cons_append, follow_cons, follow_cons, entered]
      exact further

/-! ## In the tree -/

/-- A place that is a directory lies in the tree of the file system. -/
def Reaches (system : FileSystem) : Place → Prop
  | .file _ => True
  | .directory location => location.Within system.root

/-- The working directory lies in the tree. -/
theorem within_working (system : FileSystem) : system.working.Within system.root :=
  Location.Within.of_descend? .ofRoot (Option.some_get system.present).symm

/-- The directory from which a path is followed lies in the tree. -/
theorem within_origin {location : Location} (within : location.Within system.root) (path : PathName) :
    (system.origin location path).Within system.root := by
  unfold origin
  split
  · exact .ofRoot
  · exact within

/-- A path that is followed from a place in the tree stays in the tree. -/
theorem reaches_of_follow {links : Nat} {place : Place} {names : List Bytes} {reached : Place}
    (starts : system.Reaches place) (led : system.follow links place names = .ok reached) :
    system.Reaches reached := by
  induction links, place, names using system.follow_induction with
  | ended links place =>
    rw [follow_nil] at led
    cases led
    exact starts
  | file links contents name rest =>
    rw [follow_file_cons] at led
    cases led
  | directory links location name rest ih =>
    rw [follow_cons] at led
    cases entered : system.enter links location name with
    | error cause =>
      rw [entered] at led
      cases led
    | ok onward =>
      rw [entered] at led
      refine ih onward entered ?_ led
      cases enters_of_enter entered with
      | self => exact starts
      | parent => exact Location.Within.up starts
      | file => trivial
      | directory _ found => exact Location.Within.into starts found
      | link _ target => exact within_origin starts target

/-- A path leads somewhere if it is not empty, is not too long and has no NUL, and its names lead there. -/
theorem place_eq_ok {path : PathName} {reached : Place} :
    system.place path = .ok reached ↔ 0 ∉ path ∧ path ≠ [] ∧ path.length ≤ maxPathBytes ∧
      system.follow maxLinks (.directory (system.origin system.working path)) path.components =
        .ok reached := by
  unfold place
  constructor
  · intro led
    split at led
    · cases led
    · rename_i noNul
      split at led
      · cases led
      · rename_i nonempty
        split at led
        · cases led
        · rename_i short
          exact ⟨noNul, nonempty, Nat.le_of_not_lt short, led⟩
  · intro ⟨noNul, nonempty, short, led⟩
    rw [if_neg noNul, if_neg nonempty, if_neg (Nat.not_lt_of_le short)]
    exact led

/-- A directory to which a path leads lies in the tree. -/
theorem within_of_place {path : PathName} {location : Location}
    (led : system.place path = .ok (.directory location)) : location.Within system.root := by
  have ⟨_, _, _, followed⟩ := place_eq_ok.1 led
  have starts : system.Reaches (.directory (system.origin system.working path)) :=
    within_origin system.within_working path
  exact reaches_of_follow starts followed

end FileSystem

/-! ## One name more -/

namespace PathName

/-- The names of a path on the way to whatever stands in the directory that it leads to. -/
def directoryNames (path : PathName) : List Bytes :=
  if path.getLast? = some slash then path.components.dropLast else path.components

/-- A slash divides the names before it from those behind it. -/
theorem components_slash (before behind : Bytes) :
    components (before ++ slash :: behind) = components before ++ components behind :=
  List.splitOn_append_cons_self before behind

/-- Bytes without a slash are one name. -/
theorem components_of_notMem {name : Bytes} (noSlash : slash ∉ name) : components name = [name] :=
  List.splitOn_eq_singleton noSlash

/-- The path of something in a directory has one name more than that of the directory. -/
theorem components_child (path : PathName) {name : Bytes} (noSlash : slash ∉ name) :
    (path.child name).components = path.directoryNames ++ [name] := by
  unfold child directoryNames
  by_cases ends : path.getLast? = some slash
  · obtain ⟨front, same⟩ := List.getLast?_eq_some_iff.1 ends
    rw [if_pos ends, if_pos ends, same, List.append_assoc, List.singleton_append, components_slash,
      components_slash, components_of_notMem noSlash, components_of_notMem List.not_mem_nil,
      List.dropLast_concat]
  · rw [if_neg ends, if_neg ends, List.append_assoc, List.singleton_append, components_slash,
      components_of_notMem noSlash]

/-- A path that ends in a slash has an empty name behind those on the way. -/
theorem components_cases (path : PathName) :
    path.components = path.directoryNames ∨ path.components = path.directoryNames ++ [[]] := by
  unfold directoryNames
  by_cases ends : path.getLast? = some slash
  · obtain ⟨front, same⟩ := List.getLast?_eq_some_iff.1 ends
    rw [if_pos ends, same, components_slash, components_of_notMem List.not_mem_nil,
      List.dropLast_concat]
    exact .inr rfl
  · rw [if_neg ends]
    exact .inl rfl

/-- The path of something in a directory is followed from where the path of the directory is. -/
theorem isAbsolute_child {path : PathName} (nonempty : path ≠ []) (name : Bytes) :
    (path.child name).isAbsolute = path.isAbsolute := by
  unfold child isAbsolute
  cases path with
  | nil => exact absurd rfl nonempty
  | cons byte rest => split <;> rfl

end PathName

namespace FileSystem

variable {system : FileSystem}

/-- From the directory that a path leads to, a name is followed as it is behind the names on the way. -/
theorem exists_follow_concat {path : PathName} {links : Nat} {place : Place} {location : Location}
    (led : system.follow links place path.components = .ok (.directory location)) :
    ∃ left, ∀ name, system.follow links place (path.directoryNames ++ [name]) =
      system.follow left (.directory location) [name] := by
  obtain ⟨left, same⟩ := exists_follow_append links place path.directoryNames
  refine ⟨left, fun name => ?_⟩
  rcases path.components_cases with plain | slash
  · rw [same, ← plain, led]
    rfl
  · rw [slash, same] at led
    cases reached : system.follow links place path.directoryNames with
    | error cause =>
      rw [reached] at led
      cases led
    | ok middle =>
      rw [reached] at led
      change system.follow left middle [[]] = _ at led
      cases middle with
      | file contents =>
        rw [follow_file_cons] at led
        cases led
      | directory before =>
        -- The empty name stays in the directory.
        rw [follow_cons, enter, if_pos (.inl rfl)] at led
        change system.follow left (.directory before) [] = _ at led
        rw [follow_nil] at led
        cases led
        rw [same, reached]
        rfl

/-- A name leads from a directory to the directory that has it there. -/
theorem enter_directory {links : Nat} {location : Location} {name : Bytes} {inner : Directory}
    (isName : IsName name) (found : location.here.lookup name = some (.directory inner)) :
    system.enter links location name = .ok ⟨links, .directory (location.into inner), []⟩ := by
  have stays : ¬ (name = [] ∨ name = PathName.selfName) :=
    fun same => same.elim isName.nonempty isName.notSelf
  rw [enter, if_neg stays, if_neg isName.notParent, if_neg (Nat.not_lt_of_le isName.short), found]

/-- The path of a directory in the directory that a path leads to leads there, unless it is too long. -/
theorem place_child {path : PathName} {name : Bytes} {location : Location} {inner : Directory}
    (led : system.place path = .ok (.directory location)) (isName : IsName name)
    (found : location.here.lookup name = some (.directory inner))
    (short : (path.child name).length ≤ maxPathBytes) :
    system.place (path.child name) = .ok (.directory (location.into inner)) := by
  have ⟨noNul, nonempty, _, followed⟩ := place_eq_ok.1 led
  have same : system.origin system.working (path.child name) = system.origin system.working path := by
    unfold origin
    rw [PathName.isAbsolute_child nonempty]
  refine place_eq_ok.2 ⟨?_, ?_, short, ?_⟩
  · unfold PathName.child
    split <;> simp [noNul, isName.noNul, PathName.slash]
  · unfold PathName.child
    split <;> simp [nonempty]
  · obtain ⟨left, goesOn⟩ := exists_follow_concat followed
    rw [same, PathName.components_child path isName.noSlash, goesOn, follow_cons,
      enter_directory isName found]
    exact follow_nil left (.directory (location.into inner))

/-! ## Below a directory -/

/-- What stands at a path, and what stands below it through directories alone, each with its path. -/
inductive Under : (path : PathName) → Entry → (reached : PathName) → Entry → Prop
  /-- What stands at the path. -/
  | self (path : PathName) (entry : Entry) : Under path entry path entry
  /-- What stands at or below something in a directory. -/
  | inside {path reached : PathName} {name : Bytes} {entries : Directory} {entry other : Entry}
      (member : (name, entry) ∈ entries) (deeper : Under (path.child name) entry reached other) :
      Under path (.directory entries) reached other

/-- A path leads to the directory with some entries. -/
def Opens (system : FileSystem) (path : PathName) (entries : Directory) : Prop :=
  ∃ location, system.place path = .ok (.directory location) ∧ location.here = entries

/-- The paths of the directories below one that a path leads to lead to them, unless one is too long. -/
theorem opens_of_under {path reached : PathName} {entry other : Entry}
    (under : Under path entry reached other) (named : entry.WellNamed)
    (opens : ∀ entries, entry = .directory entries → system.Opens path entries)
    (short : ∀ deep entries, Under path entry deep (.directory entries) → deep.length ≤ maxPathBytes) :
    ∀ inner, other = .directory inner → system.Opens reached inner := by
  induction under with
  | self path entry => exact opens
  | @inside path reached name entries entry other member deeper ih =>
    obtain ⟨location, led, same⟩ := opens entries rfl
    cases named with
    | directory distinct proper each =>
      refine ih (each _ member) (fun inner isDirectory => ?_)
        fun deep below under => short deep below (.inside member under)
      rw [isDirectory] at member
      have found := lookup_eq_some_of_mem distinct member
      rw [← same] at found
      exact ⟨location.into inner, place_child led (proper _ member) found
        (short _ inner (.inside member (.self _ _))), rfl⟩

end FileSystem
end PatternSearch
