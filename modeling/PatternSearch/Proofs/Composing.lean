import Mathlib.Data.Nat.Find
import PatternSearch.Options

/-!
# Composing command lines

A command line is composed of requests: a pattern behind its `-E`, a `-r`, and a path. The requests may
stand in any order, and more paths may stand behind a `--`. Reading a command line takes the requests one
after another (`Given.read_arguments`), so it finds what the command line was composed of, and only what
is composed is read (`Given.exists_requests`).

What is read as an argument of its own, and not as the pattern of a `-E` or behind a `--`, may be an
offence: an option that does not exist, or a `-E` with nothing behind it. Reading stops at the first
offence (`Given.read_eq_error_iff`). Where there is none, the only thing that can be missing is a pattern
(`parse_of_requests`).
-/
namespace PatternSearch.Options

/-- The argument that announces a pattern. -/
def patternOption : Text := ['-', 'E']

/-- The argument that asks for a recursive search. -/
def recursiveOption : Text := ['-', 'r']

/-- The argument that makes paths of all arguments behind it. -/
def endOfOptions : Text := ['-', '-']

/-- A path that may stand where options are read: it is `-`, or empty, or begins with another rune. -/
def IsPlain (path : Text) : Prop := path = ['-'] ∨ path = [] ∨ path.head? ≠ some '-'

/-- What looks like an option is no plain path, and everything else is one. -/
theorem looksLikeOption_eq_false_iff {path : Text} : looksLikeOption path = false ↔ IsPlain path := by
  unfold looksLikeOption IsPlain
  split
  · simp
  · rename_i notOption
    cases path with
    | nil => simp
    | cons first rest =>
      by_cases dash : first = '-'
      · subst dash
        cases rest with
        | nil => simp
        | cons second rest => exact absurd rfl (notOption second rest)
      · simp [dash]

/-! ## Requests -/

/-- One thing that is asked for on a command line. -/
inductive Request where
  /-- A pattern, behind its option. -/
  | pattern (text : Text)
  /-- A recursive search. -/
  | recursive
  /-- A path. -/
  | path (path : Text)
  deriving DecidableEq

namespace Request

/-- The arguments that make the request. -/
def arguments : Request → List Text
  | .pattern text => [patternOption, text]
  | .recursive => [recursiveOption]
  | .path name => [name]

/-- The pattern that is asked for. -/
def pattern? : Request → Option Text
  | .pattern text => some text
  | _ => none

/-- The path that is asked for. -/
def path? : Request → Option PathName
  | .path name => some (.ofText name)
  | _ => none

/-- The request can be made where options are read: a path among them is plain. -/
def Plain : Request → Prop
  | .path name => IsPlain name
  | _ => True

end Request

/-- The arguments of requests one after another, and of paths behind them. -/
def composed (requests : List Request) (behind : Option (List Text)) : List Text :=
  requests.flatMap Request.arguments ++ behind.elim [] (endOfOptions :: ·)

/-- The requests, and the paths behind them, are what options ask for. -/
structure AsksFor (requests : List Request) (behind : Option (List Text)) (options : Options) : Prop where
  /-- The requests can be made where options are read. -/
  plain : ∀ request ∈ requests, request.Plain
  /-- The last pattern is the one to search for. -/
  pattern : (requests.filterMap Request.pattern?).getLast? = some options.pattern
  /-- A recursive search is asked for or not. -/
  recursive : options.recursive = true ↔ .recursive ∈ requests
  /-- The paths are those asked for, in order, and those behind them. -/
  paths : options.paths = requests.filterMap Request.path? ++ (behind.getD []).map PathName.ofText

namespace Given

variable {given final : Given} {requests : List Request} {arguments rest : List Text}

/-- What is given with one more request. -/
def take (given : Given) : Request → Given
  | .pattern text => { given with pattern := some text }
  | .recursive => { given with recursive := true }
  | .path name => { given with paths := given.paths ++ [.ofText name] }

/-- An argument that is none of the known options is an unknown one or a path. -/
theorem read_other {argument : Text} (notPattern : argument ≠ patternOption)
    (notRecursive : argument ≠ recursiveOption) (notEnd : argument ≠ endOfOptions) :
    given.read (argument :: rest) =
      if looksLikeOption argument then .error (.unknownOption argument)
      else (given.take (.path argument)).read rest := by
  rw [read]
  · rfl
  · exact fun same _ => notPattern same
  · exact fun _ _ same _ => notPattern same
  · exact notRecursive
  · exact notEnd

/-- Reading the arguments of a request takes the request. -/
theorem read_request {request : Request} (plain : request.Plain) :
    given.read (request.arguments ++ rest) = (given.take request).read rest := by
  cases request with
  | pattern text => rfl
  | recursive => rfl
  | path name =>
    have isPath := looksLikeOption_eq_false_iff.2 plain
    have others : name ≠ patternOption ∧ name ≠ recursiveOption ∧ name ≠ endOfOptions := by
      refine ⟨?_, ?_, ?_⟩ <;> rintro rfl <;> cases isPath
    show given.read (name :: rest) = _
    rw [read_other others.1 others.2.1 others.2.2, if_neg (by rw [isPath]; decide)]

/-- Reading the arguments of requests takes the requests in order. -/
theorem read_arguments (plain : ∀ request ∈ requests, request.Plain) :
    given.read (requests.flatMap Request.arguments ++ rest) = (requests.foldl take given).read rest := by
  induction requests generalizing given with
  | nil => rfl
  | cons request later ih =>
    rw [List.flatMap_cons, List.append_assoc, read_request (plain request List.mem_cons_self),
      ih fun other member => plain other (List.mem_cons_of_mem _ member), List.foldl_cons]

/-- What is given with requests: the last pattern among them, a recursive search if one of them asks for
it, and their paths. -/
theorem foldl_take (requests : List Request) (given : Given) :
    requests.foldl take given =
      ⟨(requests.filterMap Request.pattern?).getLast?.or given.pattern,
        given.recursive || decide (.recursive ∈ requests),
        given.paths ++ requests.filterMap Request.path?⟩ := by
  induction requests generalizing given with
  | nil => simp
  | cons request later ih =>
    rw [List.foldl_cons, ih]
    cases request with
    | pattern text =>
      simp only [take, List.filterMap_cons, Request.pattern?, Request.path?, List.getLast?_cons]
      cases (later.filterMap Request.pattern?).getLast? <;> simp
    | recursive => simp [take, List.filterMap_cons, Request.pattern?, Request.path?]
    | path name => simp [take, List.filterMap_cons, Request.pattern?, Request.path?]

/-- What is given with paths behind it. -/
def followedBy (given : Given) (behind : Option (List Text)) : Given :=
  { given with paths := given.paths ++ (behind.getD []).map PathName.ofText }

/-- Arguments that are read are composed of requests, which are taken in order. -/
theorem exists_requests (accepted : given.read arguments = .ok final) :
    ∃ requests behind, (∀ request ∈ requests, request.Plain) ∧ arguments = composed requests behind ∧
      final = (requests.foldl take given).followedBy behind := by
  -- a request in front of those that are found in the rest
  have further : ∀ {given rest} (request : Request), request.Plain →
      (∃ requests behind, (∀ request ∈ requests, request.Plain) ∧ rest = composed requests behind ∧
        final = (requests.foldl take (given.take request)).followedBy behind) →
      ∃ requests behind, (∀ request ∈ requests, request.Plain) ∧
        request.arguments ++ rest = composed requests behind ∧
        final = (requests.foldl take given).followedBy behind := by
    rintro given _ request plain ⟨requests, behind, others, rfl, same⟩
    refine ⟨request :: requests, behind, List.forall_mem_cons.2 ⟨plain, others⟩, ?_, same⟩
    rw [composed, composed, List.flatMap_cons, List.append_assoc]
  fun_induction read given arguments with
  | case1 given =>
    cases accepted
    exact ⟨[], none, by simp, rfl, by simp [followedBy]⟩
  | case2 => cases accepted
  | case3 given text rest ih => exact further (.pattern text) trivial (ih accepted)
  | case4 given rest ih => exact further .recursive trivial (ih accepted)
  | case5 given rest =>
    cases accepted
    exact ⟨[], some rest, by simp, rfl, rfl⟩
  | case6 => cases accepted
  | case7 given argument rest _ _ _ _ isPath ih =>
    have plain : IsPlain argument := looksLikeOption_eq_false_iff.1 (Bool.eq_false_iff.2 isPath)
    exact further (.path argument) plain (ih accepted)

/-- Composed arguments are read, and what is read is composed. -/
theorem read_eq_ok_iff :
    given.read arguments = .ok final ↔
      ∃ requests behind, (∀ request ∈ requests, request.Plain) ∧ arguments = composed requests behind ∧
        final = (requests.foldl take given).followedBy behind := by
  refine ⟨exists_requests, ?_⟩
  rintro ⟨requests, behind, plain, rfl, rfl⟩
  rw [composed, read_arguments plain]
  cases behind with
  | none => simp [read, followedBy]
  | some paths => rfl

end Given

/-! ## Offences -/

/-- The argument at a place is read as one of its own: it is not the pattern of a `-E`, and no `--` stands
before it. -/
inductive ReadAt : List Text → Nat → Prop
  /-- The first argument. -/
  | first (argument : Text) (rest : List Text) : ReadAt (argument :: rest) 0
  /-- An argument behind a pattern. -/
  | behindPattern (text : Text) {rest : List Text} {place : Nat} :
      ReadAt rest place → ReadAt (patternOption :: text :: rest) (place + 2)
  /-- An argument behind another one. -/
  | behindOther {argument : Text} {rest : List Text} {place : Nat} :
      argument ≠ patternOption → argument ≠ endOfOptions → ReadAt rest place →
        ReadAt (argument :: rest) (place + 1)

/-- An argument that is no path where options are read, and no option. -/
structure IsUnknown (argument : Text) : Prop where
  /-- It is no path. -/
  notPlain : ¬ IsPlain argument
  /-- It is not the option of a pattern. -/
  notPattern : argument ≠ patternOption
  /-- It is not the option of a recursive search. -/
  notRecursive : argument ≠ recursiveOption
  /-- It does not end the options. -/
  notEnd : argument ≠ endOfOptions

/-- The first of some arguments is an offence, for which there is an error. -/
inductive Offends : List Text → UsageError → Prop
  /-- A `-E` with nothing behind it. -/
  | missingPatternValue : Offends [patternOption] .missingPatternValue
  /-- An option that does not exist. -/
  | unknownOption {argument : Text} (rest : List Text) :
      IsUnknown argument → Offends (argument :: rest) (.unknownOption argument)

/-- The argument at a place is an offence. -/
structure OffendsAt (arguments : List Text) (place : Nat) (error : UsageError) : Prop where
  /-- It is read as an argument of its own. -/
  readAt : ReadAt arguments place
  /-- It is an offence in front of the arguments behind it. -/
  offends : Offends (arguments.drop place) error

/-- The argument at a place is an offence, and no argument before it is one. -/
structure OffendsFirst (arguments : List Text) (place : Nat) (error : UsageError) : Prop where
  /-- It is an offence. -/
  offendsAt : OffendsAt arguments place error
  /-- Offences stand there or behind it. -/
  first : ∀ other otherError, OffendsAt arguments other otherError → place ≤ other

section

variable {arguments rest : List Text} {argument text : Text} {place : Nat} {error other : UsageError}

/-- An argument is one offence. -/
theorem Offends.unique (one : Offends arguments error) (another : Offends arguments other) :
    error = other := by
  cases one with
  | missingPatternValue =>
    cases another with
    | missingPatternValue => rfl
    | unknownOption _ unknown => exact absurd rfl unknown.notPattern
  | unknownOption _ unknown =>
    cases another with
    | missingPatternValue => exact absurd rfl unknown.notPattern
    | unknownOption => rfl

/-- Where some argument is an offence, there is a first one. -/
theorem OffendsAt.exists_first (offendsAt : OffendsAt arguments place error) :
    ∃ place error, OffendsFirst arguments place error := by
  classical
  have some : ∃ place error, OffendsAt arguments place error := ⟨place, error, offendsAt⟩
  obtain ⟨least, leastOffends⟩ := Nat.find_spec some
  exact ⟨Nat.find some, least, leastOffends, fun _ _ other => Nat.find_min' some ⟨_, other⟩⟩

/-- An offence in front of all arguments is the first one. -/
theorem Offends.exists_first_iff (offends : Offends (argument :: rest) error) :
    (∃ place, OffendsFirst (argument :: rest) place other) ↔ other = error := by
  have atFront : OffendsAt (argument :: rest) 0 error := ⟨.first argument rest, offends⟩
  constructor
  · rintro ⟨place, offendsFirst⟩
    obtain rfl := Nat.le_zero.1 (offendsFirst.first 0 error atFront)
    exact offendsFirst.offendsAt.offends.unique offends
  · rintro rfl
    exact ⟨0, atFront, fun _ _ _ => Nat.zero_le _⟩

/-- Where no argument is an offence, none is the first one. -/
theorem not_exists_first (none : ∀ place error, ¬ OffendsAt arguments place error) :
    ¬ ∃ place, OffendsFirst arguments place error :=
  fun ⟨place, first⟩ => none place error first.offendsAt

/-- Where all offences stand behind some arguments, the first one is the first one there. -/
theorem exists_first_shift_iff {count : Nat}
    (shift : ∀ place error, OffendsAt arguments place error ↔
      ∃ before, place = before + count ∧ OffendsAt rest before error) :
    (∃ place, OffendsFirst arguments place error) ↔ ∃ place, OffendsFirst rest place error := by
  constructor
  · rintro ⟨place, offendsAt, first⟩
    obtain ⟨before, rfl, offendsThere⟩ := (shift _ _).1 offendsAt
    refine ⟨before, offendsThere, fun other otherError later => ?_⟩
    have := first _ _ ((shift _ _).2 ⟨other, rfl, later⟩)
    omega
  · rintro ⟨before, offendsThere, first⟩
    refine ⟨before + count, (shift _ _).2 ⟨before, rfl, offendsThere⟩, fun other otherError offends => ?_⟩
    obtain ⟨behind, rfl, later⟩ := (shift _ _).1 offends
    have := first _ _ later
    omega

/-- Offences on a command line that begins with a pattern stand behind the pattern. -/
theorem offendsAt_pattern :
    OffendsAt (patternOption :: text :: rest) place error ↔
      ∃ before, place = before + 2 ∧ OffendsAt rest before error := by
  constructor
  · rintro ⟨readAt, offends⟩
    cases readAt with
    | first =>
      cases offends with
      | unknownOption _ unknown => exact absurd rfl unknown.notPattern
    | behindPattern _ later => exact ⟨_, rfl, later, offends⟩
    | behindOther notPattern => exact absurd rfl notPattern
  · rintro ⟨before, rfl, later, offends⟩
    exact ⟨.behindPattern text later, offends⟩

/-- Offences on a command line that begins with a `-r` or a path stand behind it. -/
theorem offendsAt_other (notPattern : argument ≠ patternOption) (notEnd : argument ≠ endOfOptions)
    (known : ¬ IsUnknown argument) :
    OffendsAt (argument :: rest) place error ↔
      ∃ before, place = before + 1 ∧ OffendsAt rest before error := by
  constructor
  · rintro ⟨readAt, offends⟩
    cases readAt with
    | first =>
      cases offends with
      | missingPatternValue => exact absurd rfl notPattern
      | unknownOption _ unknown => exact absurd unknown known
    | behindPattern => exact absurd rfl notPattern
    | behindOther _ _ later => exact ⟨_, rfl, later, offends⟩
  · rintro ⟨before, rfl, later, offends⟩
    exact ⟨.behindOther notPattern notEnd later, offends⟩

/-- No argument of a command line that begins with a `--` is an offence. -/
theorem not_offendsAt_endOfOptions : ¬ OffendsAt (endOfOptions :: rest) place error := by
  rintro ⟨readAt, offends⟩
  cases readAt with
  | first =>
    cases offends with
    | unknownOption _ unknown => exact unknown.notEnd rfl
  | behindOther _ notEnd => exact notEnd rfl

/-- Reading stops at the first offence, with its error. -/
theorem Given.read_eq_error_iff {given : Given} :
    given.read arguments = .error error ↔ ∃ place, OffendsFirst arguments place error := by
  -- an argument that is not a `-E` with or without one behind it
  have notPattern : ∀ {argument : Text} {rest : List Text},
      (argument = patternOption → rest = [] → False) →
      (∀ text later, argument = patternOption → rest = text :: later → False) →
      argument ≠ patternOption := by
    intro argument rest notLast notFollowed same
    cases rest with
    | nil => exact notLast same rfl
    | cons text later => exact notFollowed text later same rfl
  fun_induction read given arguments with
  | case1 given =>
    refine iff_of_false (by simp) (not_exists_first fun place error offendsAt => ?_)
    cases offendsAt.readAt
  | case2 given =>
    exact .trans (by rw [Except.error.injEq, eq_comm]) Offends.missingPatternValue.exists_first_iff.symm
  | case3 given text rest ih => exact ih.trans (exists_first_shift_iff fun _ _ => offendsAt_pattern).symm
  | case4 given rest ih =>
    have known : ¬ IsUnknown recursiveOption := fun unknown => unknown.notRecursive rfl
    exact ih.trans
      (exists_first_shift_iff fun _ _ => offendsAt_other (by decide) (by decide) known).symm
  | case5 given rest =>
    exact iff_of_false (by simp) (not_exists_first fun _ _ => not_offendsAt_endOfOptions)
  | case6 given argument rest notLast notFollowed notRecursive notEnd looksLike =>
    have notPlain : ¬ IsPlain argument := by
      rw [← looksLikeOption_eq_false_iff, looksLike]
      decide
    have unknown : IsUnknown argument := ⟨notPlain, notPattern notLast notFollowed, notRecursive, notEnd⟩
    exact .trans (by rw [Except.error.injEq, eq_comm])
      (Offends.unknownOption rest unknown).exists_first_iff.symm
  | case7 given argument rest notLast notFollowed notRecursive notEnd isPath ih =>
    have plain : IsPlain argument := looksLikeOption_eq_false_iff.1 (Bool.eq_false_iff.2 isPath)
    exact ih.trans (exists_first_shift_iff fun _ _ =>
      offendsAt_other (notPattern notLast notFollowed) notEnd fun unknown => unknown.notPlain plain).symm

end

/-! ## Command lines -/

section

variable {arguments : List Text} {options : Options} {error : UsageError} {requests : List Request}
  {behind : Option (List Text)}

/-- Options are parsed where they are read, with a pattern among them. -/
theorem parse_eq_ok_iff_read :
    parse arguments = .ok options ↔
      Given.nothing.read arguments = .ok ⟨some options.pattern, options.recursive, options.paths⟩ := by
  rw [parse]
  cases Given.nothing.read arguments with
  | error error => exact iff_of_false (by rintro ⟨⟩) (by rintro ⟨⟩)
  | ok given =>
    obtain ⟨_ | pattern, recursive, paths⟩ := given
    · exact iff_of_false (by rintro ⟨⟩) (by rintro ⟨⟩)
    · constructor <;> rintro ⟨⟩ <;> rfl

/-- Parsing fails where reading fails, and where no pattern is read. -/
theorem parse_eq_error_iff_read :
    parse arguments = .error error ↔ Given.nothing.read arguments = .error error ∨
      error = .missingPattern ∧ ∃ given, Given.nothing.read arguments = .ok given ∧
        given.pattern = none := by
  rw [parse]
  cases Given.nothing.read arguments with
  | error other =>
    show Except.error other = .error error ↔ _
    simp
  | ok given =>
    obtain ⟨_ | pattern, recursive, paths⟩ := given
    · show Except.error .missingPattern = .error error ↔ _
      simp [eq_comm]
    · exact iff_of_false (by rintro ⟨⟩) (by simp)

/-- The requests ask for the options that are read from them. -/
theorem asksFor_iff :
    AsksFor requests behind options ↔ (∀ request ∈ requests, request.Plain) ∧
      ⟨some options.pattern, options.recursive, options.paths⟩ =
        (requests.foldl Given.take .nothing).followedBy behind := by
  rw [Given.foldl_take, Given.followedBy, Given.mk.injEq]
  simp only [Given.nothing, Option.or_none, Bool.false_or, List.nil_append]
  constructor
  · rintro ⟨all, pattern, recursive, paths⟩
    exact ⟨all, pattern.symm, Bool.eq_iff_iff.2 (recursive.trans decide_eq_true_iff.symm), paths⟩
  · rintro ⟨all, pattern, recursive, paths⟩
    exact ⟨all, pattern.symm, by rw [recursive, decide_eq_true_iff], paths⟩

/-- Options are parsed exactly from the command lines that are composed of requests for them. -/
theorem parse_eq_ok_iff :
    parse arguments = .ok options ↔
      ∃ requests behind, arguments = composed requests behind ∧ AsksFor requests behind options := by
  rw [parse_eq_ok_iff_read, Given.read_eq_ok_iff]
  constructor
  · rintro ⟨requests, behind, plain, same, asked⟩
    exact ⟨requests, behind, same, asksFor_iff.2 ⟨plain, asked⟩⟩
  · rintro ⟨requests, behind, same, asksFor⟩
    obtain ⟨plain, asked⟩ := asksFor_iff.1 asksFor
    exact ⟨requests, behind, plain, same, asked⟩

end

/-- Options are read from a command line exactly when it is composed of requests that ask for them. Any
other command line is refused: for the first offence in it, or, if there is none, because no pattern is
given. -/
theorem parse_of_requests (arguments : List Text) :
    (∀ options, parse arguments = .ok options ↔
      ∃ requests behind, arguments = composed requests behind ∧ AsksFor requests behind options) ∧
    ∀ error, parse arguments = .error error ↔
      (∃ place, OffendsFirst arguments place error) ∨
        error = .missingPattern ∧ (∀ place other, ¬ OffendsAt arguments place other) ∧
          ∀ requests behind options, arguments = composed requests behind →
            ¬ AsksFor requests behind options := by
  refine ⟨fun options => parse_eq_ok_iff, fun error => ?_⟩
  rw [parse_eq_error_iff_read, Given.read_eq_error_iff]
  refine or_congr_right (and_congr_right fun _ => ⟨fun ⟨given, accepted, missing⟩ => ⟨?_, ?_⟩,
    fun ⟨noOffence, notComposed⟩ => ?_⟩)
  · intro place other offendsAt
    obtain ⟨first, firstError, offendsFirst⟩ := offendsAt.exists_first
    have refused : Given.nothing.read arguments = .error firstError :=
      Given.read_eq_error_iff.2 ⟨first, offendsFirst⟩
    rw [accepted] at refused
    cases refused
  · intro requests behind options same asksFor
    have parsed := parse_eq_ok_iff_read.1 (parse_eq_ok_iff.2 ⟨requests, behind, same, asksFor⟩)
    rw [accepted] at parsed
    cases parsed
    cases missing
  · cases read : Given.nothing.read arguments with
    | error other => exact absurd (Given.read_eq_error_iff.1 read) (not_exists_first noOffence)
    | ok given =>
      refine ⟨given, rfl, ?_⟩
      cases found : given.pattern with
      | none => rfl
      | some pattern =>
        have parsed : parse arguments = .ok ⟨pattern, given.recursive, given.paths⟩ :=
          parse_eq_ok_iff_read.2 (by rw [read, ← found])
        obtain ⟨requests, behind, same, asksFor⟩ := parse_eq_ok_iff.1 parsed
        exact absurd asksFor (notComposed _ _ _ same)

/-- A pattern may look like an option, a later one counts instead, and a path behind `--` may look like
one too. -/
example :
    parse ["-E".toList, "--".toList, "-r".toList, "-".toList, "-E".toList, "-x".toList, "--".toList,
        "-E".toList] =
      .ok ⟨"-x".toList, true, [.ofText "-".toList, .ofText "-E".toList]⟩ := by rfl

end PatternSearch.Options
