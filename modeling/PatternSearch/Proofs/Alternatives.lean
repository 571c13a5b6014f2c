import PatternSearch.Proofs.Corresponding
import PatternSearch.Proofs.Reporting

/-!
# Alternation and parentheses

A bar between two pattern texts makes a pattern of all their branches, and parentheses around a text
make it a group. In both cases the text is read again behind something, so its groups get other indices
(`Written.bar`, `Written.parentheses`).

The engine tries the branches of both texts in order. Branches that fail leave nothing behind
(`matchAt?_group_append`), and without backreferences neither the indices of the groups nor what is
captured matters (`matchAt?_relabel`). So an alternation finds what one of its sides finds, and a group
finds what stands in it (`find_of_bar_and_parentheses`).
-/
namespace PatternSearch

/-- Two matches have the same ends and the same text, and capture the same except at some indices. -/
structure Match.Like (apart : Nat → Prop) (left right : Match) : Prop where
  /-- They begin at the same offset. -/
  start_eq : left.start = right.start
  /-- They end at the same offset. -/
  stop_eq : left.stop = right.stop
  /-- They have the same text. -/
  text_eq : left.text = right.text
  /-- They capture the same except at the indices. -/
  captures : left.captures.AgreeOff apart right.captures

/-- Two searches answer alike: both find nothing, or they find matches that are alike. -/
def AnswerLike (apart : Nat → Prop) (left right : Option Match) : Prop :=
  Option.Rel (Match.Like apart) left right

namespace AnswerLike

variable {apart : Nat → Prop} {left middle right : Option Match}

/-- An answer is like itself. -/
theorem refl (apart : Nat → Prop) (answer : Option Match) : AnswerLike apart answer answer := by
  cases answer with
  | none => exact .none
  | some found => exact .some ⟨rfl, rfl, rfl, .refl _ _⟩

/-- Which of two answers comes first does not matter. -/
theorem symm (alike : AnswerLike apart left right) : AnswerLike apart right left := by
  cases alike with
  | none => exact .none
  | some like => exact .some ⟨like.start_eq.symm, like.stop_eq.symm, like.text_eq.symm,
      fun index off => (like.captures index off).symm⟩

/-- Answers that are like a third one are alike. -/
theorem trans (first : AnswerLike apart left middle) (second : AnswerLike apart middle right) :
    AnswerLike apart left right := by
  cases first with
  | none => exact second
  | some like =>
    cases second with
    | some further => exact .some ⟨like.start_eq.trans further.start_eq,
        like.stop_eq.trans further.stop_eq, like.text_eq.trans further.text_eq,
        like.captures.trans further.captures⟩

/-- Answers that are alike are alike when captured texts do not matter. -/
theorem anywhere (alike : AnswerLike apart left right) :
    AnswerLike (fun _ => True) left right := by
  cases alike with
  | none => exact .none
  | some like => exact .some ⟨like.start_eq, like.stop_eq, like.text_eq,
      fun _ off => absurd trivial off⟩

/-- When one search finds a match, so does the other. -/
theorem exists_of_some {found : Match} (alike : AnswerLike apart (Option.some found) right) :
    ∃ other, right = Option.some other ∧ found.Like apart other := by
  cases alike with
  | some like => exact ⟨_, rfl, like⟩

/-- When one search finds nothing, neither does the other. -/
theorem eq_none (alike : AnswerLike apart Option.none right) : right = Option.none := by
  cases alike
  rfl

end AnswerLike

namespace Node

/-- The branches of a whole pattern: those of the group with index zero, or the tree by itself. -/
def alternatives : Node → List Node
  | .group 0 branches => branches
  | tree => [tree]

/-- The alternatives of a tree without backreferences have none either. -/
theorem backreferenceFree_of_mem_alternatives {tree branch : Node} (free : tree.BackreferenceFree)
    (member : branch ∈ tree.alternatives) : branch.BackreferenceFree := by
  unfold alternatives at member
  split at member
  · exact free.of_parts (parts_subset_group 0 member)
  · rw [List.mem_singleton.1 member]
    exact free

/-! ## Texts put together -/

/-- A text writes the branches of a pattern with so many numbered groups. -/
structure Written (branches : List Node) (count : Nat) (source : Text) : Prop where
  /-- There is a branch. -/
  nonempty : branches ≠ []
  /-- Each of them is one of a pattern. -/
  rows : ∀ branch ∈ branches, Row branch
  /-- The text writes them with bars between them. -/
  spelled : BranchesSpelledBy branches source
  /-- Their groups are numbered as they open. -/
  numbered : branches.flatMap indices = List.range' 1 count

/-- A branch is its only alternative. -/
theorem Row.alternatives_eq {tree : Node} (row : Row tree) : tree.alternatives = [tree] := by
  cases row <;> rfl

/-- A text that writes a well-formed tree writes its alternatives. -/
theorem WellFormed.written {tree : Node} {count : Nat} {source : Text}
    (wellFormed : WellFormed tree count) (written : tree.WrittenBy source) :
    Written tree.alternatives count source := by
  cases wellFormed with
  | branch row numbered =>
    rw [row.alternatives_eq]
    constructor
    case nonempty => exact List.cons_ne_nil _ _
    case rows =>
      intro branch member
      rw [List.mem_singleton.1 member]
      exact row
    case spelled => cases row <;> exact written
    case numbered => rw [List.flatMap_singleton, numbered]
  | alternation several each numbered =>
    have nonempty := List.ne_nil_of_length_pos (Nat.lt_of_lt_of_le Nat.zero_lt_two several)
    exact ⟨nonempty, each, written, numbered⟩

/-- Branches with a bar behind them and further branches are written one after the other. -/
theorem branchesSpelledBy_append {branches others : List Node} {first second : Text}
    (before : BranchesSpelledBy branches first) (nonempty : others ≠ [])
    (behind : BranchesSpelledBy others second) :
    BranchesSpelledBy (branches ++ others) (first ++ '|' :: second) := by
  induction branches generalizing first with
  | nil => exact before.elim
  | cons branch rest ih =>
    cases rest with
    | nil =>
      cases others with
      | nil => exact absurd rfl nonempty
      | cons other later => exact ⟨first, second, before, behind, rfl⟩
    | cons next rest =>
      have ⟨front, later, here, further, same⟩ := before
      refine ⟨front, later ++ '|' :: second, here, ih further, ?_⟩
      rw [same, List.append_assoc, List.cons_append]

/-- Relabeled branches are branches, and are written by the same texts. -/
theorem Written.relabeled {branches : List Node} {count : Nat} {source : Text}
    (written : Written branches count source) (index : Nat → Nat) :
    (branches.map (relabel index) ≠ []) ∧ (∀ branch ∈ branches.map (relabel index), Row branch) ∧
      BranchesSpelledBy (branches.map (relabel index)) source := by
  refine ⟨fun none => written.nonempty (List.map_eq_nil_iff.1 none), fun branch member => ?_,
    (branchesSpelledBy_relabel index branches source).2 written.spelled⟩
  have ⟨original, isBranch, same⟩ := List.mem_map.1 member
  rw [← same]
  exact (written.rows original isBranch).relabel index

/-- A bar puts the branches of two texts together. The groups of the second one are numbered behind
those of the first one. -/
theorem Written.bar {branches others : List Node} {count further : Nat} {first second : Text}
    (before : Written branches count first) (behind : Written others further second) :
    Written (branches ++ others.map (relabel (count + ·))) (count + further)
      (first ++ '|' :: second) := by
  have ⟨nonempty, rows, spelled⟩ := behind.relabeled (count + ·)
  constructor
  case nonempty => exact List.append_ne_nil_of_left_ne_nil before.nonempty _
  case rows =>
    intro branch member
    rcases List.mem_append.1 member with here | later
    · exact before.rows branch here
    · exact rows branch later
  case spelled => exact branchesSpelledBy_append before.spelled nonempty spelled
  case numbered =>
    have split := @List.range'_append 1 count further 1
    rw [Nat.one_mul, Nat.add_comm 1 count] at split
    rw [List.flatMap_append, flatMap_indices_relabel, before.numbered, behind.numbered,
      List.map_add_range', split]

/-- Parentheses make the branches of a text a group with index one. The groups inside it are numbered
behind it. -/
theorem Written.parentheses {branches : List Node} {count : Nat} {source : Text}
    (inside : Written branches count source) :
    Written [.sequence [.group 1 (branches.map (relabel (1 + ·)))]] (count + 1)
      ('(' :: source ++ [')']) := by
  have ⟨nonempty, rows, spelled⟩ := inside.relabeled (1 + ·)
  constructor
  case nonempty => exact List.cons_ne_nil _ _
  case rows =>
    intro branch member
    rw [List.mem_singleton.1 member]
    exact .cons (.operand (.group 1 nonempty rows)) (fun bare => nomatch bare)
      fun _ none => absurd none List.not_mem_nil
  case spelled => exact rowSpelledBy_singleton.2 ⟨source, spelled, rfl⟩
  case numbered =>
    rw [List.flatMap_singleton, indices_sequence, List.flatMap_singleton, indices_group,
      flatMap_indices_relabel, inside.numbered, List.map_add_range']
    rfl

end Node

namespace Pattern

open Node Attempt

variable {rollback : Rollback} {subject : Array Char} {start : Nat}

/-- The text of a compiled pattern writes its alternatives. -/
theorem written_of_compile {source : Text} {pattern : Pattern}
    (compiled : compile source = .ok pattern) :
    Written pattern.root.alternatives pattern.groupCount source := by
  have ⟨written, wellFormed⟩ := written_of_parse (parse_of_compile compiled)
  exact wellFormed.written written

/-- A text that writes branches is compiled to a tree with these alternatives. -/
theorem compile_of_written {branches : List Node} {count : Nat} {source : Text}
    (written : Written branches count source) :
    ∃ pattern, compile source = .ok pattern ∧ pattern.root.alternatives = branches ∧
      pattern.groupCount = count := by
  obtain ⟨alternation, all, parsed⟩ := parse_of_branches written.rows written.spelled written.numbered
  refine ⟨⟨source, Draft.root alternation, count⟩, ?_, ?_, rfl⟩
  · unfold compile
    rw [parsed]
    rfl
  · show (Draft.root alternation).alternatives = branches
    rw [Draft.root, all]
    cases branches with
    | nil => exact absurd rfl written.nonempty
    | cons branch rest =>
      cases rest with
      | nil => exact (written.rows branch (List.mem_singleton_self branch)).alternatives_eq
      | cons next others => rfl

/-- A text that writes one branch is compiled to it. -/
theorem compile_of_written_sequence {nodes : List Node} {count : Nat} {source : Text}
    (written : Written [.sequence nodes] count source) :
    compile source = .ok ⟨source, .sequence nodes, count⟩ := by
  obtain ⟨alternation, all, parsed⟩ := parse_of_branches written.rows written.spelled written.numbered
  have root : Draft.root alternation = .sequence nodes := by
    rw [Draft.root, all]
  unfold compile
  rw [parsed, root]
  rfl

/-! ## Matches at one offset -/

/-- Branches one after another match as the first ones do, or else as the others do: branches that
fail leave everything as it was. -/
theorem matchAt?_group_append (own : Nat) (branches others : List Node) :
    matchAt? rollback (.group own (branches ++ others)) subject start =
      (matchAt? rollback (.group own branches) subject start).or
        (matchAt? rollback (.group own others) subject start) := by
  have appended : ∀ state, attemptBranches rollback subject own (branches ++ others) state =
      if (attemptBranches rollback subject own branches state).result.isOk then
        attemptBranches rollback subject own branches state
      else attemptBranches rollback subject own others state := by
    intro state
    induction branches with
    | nil => rfl
    | cons branch rest ih =>
      rw [List.cons_append, attemptBranches, attemptBranches]
      cases tried : branch.attemptWith rollback subject state with
      | mk result reached =>
        cases result with
        | ok outcome => rfl
        | error mismatch =>
          have back : ({ reached with captures := state.captures } : State) = state := by
            rw [show state = ⟨state.offset, state.captures⟩ from rfl,
              ← offset_of_attemptWith_error tried]
          simp only [back]
          exact ih
  unfold matchAt?
  rw [attemptWith, attemptWith, attemptWith, appended]
  cases attemptBranches rollback subject own branches ⟨start, .empty⟩ with
  | mk result final => cases result <;> rfl

/-- A tree matches as its alternatives do, which also capture the whole text under index zero. -/
theorem matchAt?_alternatives (tree : Node) :
    AnswerLike (· = 0) (matchAt? rollback tree subject start)
      (matchAt? rollback (.group 0 tree.alternatives) subject start) := by
  unfold alternatives
  split
  · exact .refl _ _
  · have only : (group 0 [tree]).attemptWith rollback subject ⟨start, .empty⟩ =
        restoring rollback ⟨start, .empty⟩
          (attemptBranches rollback subject 0 [tree] ⟨start, .empty⟩) := by
      rw [attemptWith]
    unfold matchAt?
    rw [only, attemptBranches]
    cases tree.attemptWith rollback subject ⟨start, .empty⟩ with
    | mk result final =>
      cases result with
      | error mismatch => exact .none
      | ok outcome =>
        refine .some ⟨rfl, rfl, rfl, ?_⟩
        intro index notZero
        exact (@Captures.agreeOff_record (· = 0) 0 rfl final.captures _ index notZero).symm

/-- Without backreferences, branches match alike whatever indices their groups have. -/
theorem matchAt?_relabel {branches : List Node} (inside : start ≤ subject.size)
    (free : ∀ branch ∈ branches, branch.BackreferenceFree) (own own' : Nat) (index : Nat → Nat) :
    AnswerLike (fun _ => True) (matchAt? rollback (.group own branches) subject start)
      (matchAt? rollback (.group own' (branches.map (relabel index))) subject start) := by
  have follows : ∀ branch ∈ branches, Follows #[] index (fun _ _ => True) branch :=
    fun branch member => ⟨fun _ _ _ _ _ _ _ => trivial,
      fun reference isPart => absurd isPart (free branch member reference), fun _ _ => rfl⟩
  have attempted : (attemptBranches rollback subject own branches ⟨start, .empty⟩).Corresponds 0
      (fun _ _ => True)
      (attemptBranches rollback (#[] ++ subject) own' (branches.map (relabel index)) ⟨start, .empty⟩) :=
    corresponding_of_attemptBranches branches (fun _ _ _ _ => trivial) follows ⟨start, .empty⟩
      ⟨start, .empty⟩ inside ⟨(Nat.zero_add start).symm, trivial⟩
  rw [Array.empty_append] at attempted
  unfold matchAt?
  rw [attemptWith, attemptWith]
  rcases attempted.cases with ⟨outcome, next, next', isLeft, isRight, _⟩ |
    ⟨mismatch, failed, failed', isLeft, isRight, _⟩
  · rw [isLeft, isRight]
    exact .some ⟨rfl, rfl, rfl, fun _ off => absurd trivial off⟩
  · rw [isLeft, isRight]
    exact .none

/-- A sequence of one element matches as the element does. -/
theorem matchAt?_sequence_singleton (node : Node) (inside : start ≤ subject.size) :
    matchAt? rollback (.sequence [node]) subject start = matchAt? rollback node subject start := by
  refine Option.ext fun found => ?_
  rw [matchAt?_eq_some inside, matchAt?_eq_some inside]
  constructor
  · intro ⟨outcome, state, attempted, isFound⟩
    have ⟨inner, next, matched, ended⟩ := attemptSequence_cons_eq_ok.1 (sequence_eq_ok.1 attempted)
    rw [attemptSequence, success_eq_ok] at ended
    rw [← ended.2] at isFound
    exact ⟨inner, next, orAfterGiveback_none_eq_ok.1 matched, isFound⟩
  · intro ⟨outcome, state, matched, isFound⟩
    refine ⟨.consuming (state.offset - start), state, sequence_eq_ok.2 ?_, isFound⟩
    refine attemptSequence_cons_eq_ok.2 ⟨outcome, state, orAfterGiveback_none_eq_ok.2 matched, ?_⟩
    rw [attemptSequence]
    rfl

/-- A group that matches captures the text of the match. -/
theorem group?_of_matchAt? {own : Nat} {branches : List Node} {found : Match}
    (inside : start ≤ subject.size)
    (matched : matchAt? rollback (.group own branches) subject start = some found) :
    found.group? own = some found.text := by
  have ⟨outcome, state, attempted, isFound⟩ := (matchAt?_eq_some inside).1 matched
  rw [isFound]
  exact get?_of_attemptBranches (group_eq_ok.1 attempted)

/-! ## Searches -/

/-- A search finds something no later than at an offset where there is a match. -/
theorem exists_find_of_matchAt? {pattern : Pattern} {subject : Text} {found : Match}
    (inside : start ≤ subject.length)
    (matched : matchAt? .offset pattern.root subject.toArray start = some found) :
    ∃ first, pattern.find subject = some first ∧ first.start ≤ start := by
  have here : pattern.MatchesAt subject start := matchesAt_iff.2 ⟨inside, found, matched⟩
  have ⟨first, isFirst⟩ :=
    Option.isSome_iff_exists.1 (find_isSome_iff_matchesAt.2 ⟨start, here⟩)
  exact ⟨first, isFirst, (isLeast_of_find isFirst).2 here⟩

/-- What a pattern of two sides finds, in terms of what either side finds. -/
structure FindsEither (both left right : Option Match) : Prop where
  /-- It finds nothing exactly when neither side finds anything. -/
  none_iff : both = none ↔ left = none ∧ right = none
  /-- Otherwise it finds the least start that a side finds. -/
  least : ∀ found, both = some found →
    IsLeast {start | ∃ own, (left = some own ∨ right = some own) ∧ own.start = start} found.start
  /-- Unless the second side finds an earlier match, it finds what the first side does, and captures
  the same texts under all indices but zero. -/
  first : ∀ own, left = some own → (∀ other, right = some other → own.start ≤ other.start) →
    ∃ found, both = some found ∧ own.Like (· = 0) found
  /-- When only the second side finds a match or it finds an earlier one, that is the match. -/
  second : ∀ own, right = some own → (∀ other, left = some other → own.start < other.start) →
    ∃ found, both = some found ∧ own.Like (fun _ => True) found

/-- Of two searches neither finds a match, or the first one finds one that is not later than that of the
second, or the second one finds one that is earlier than that of the first. -/
theorem earliest_cases (left right : Option Match) :
    (left = none ∧ right = none) ∨
      (∃ own, left = some own ∧ ∀ other, right = some other → own.start ≤ other.start) ∨
      ∃ own, right = some own ∧ ∀ other, left = some other → own.start < other.start := by
  cases left with
  | none =>
    cases right with
    | none => exact .inl ⟨rfl, rfl⟩
    | some own => exact .inr (.inr ⟨own, rfl, nofun⟩)
  | some own =>
    cases right with
    | none => exact .inr (.inl ⟨own, rfl, nofun⟩)
    | some other =>
      by_cases notLater : own.start ≤ other.start
      · refine .inr (.inl ⟨own, rfl, fun _ isOther => ?_⟩)
        cases isOther
        exact notLater
      · refine .inr (.inr ⟨other, rfl, fun _ isOwn => ?_⟩)
        cases isOwn
        exact Nat.lt_of_not_le notLater

/-- At every offset of a subject a pattern matches as the first one of two sides does, and where that
does not match, as the second one. -/
structure TriesInTurn (both left right : Pattern) (subject : Text) : Prop where
  /-- Where the first side matches, it captures the same texts under all indices but zero. -/
  first : ∀ start own, start ≤ subject.length →
    matchAt? .offset left.root subject.toArray start = some own →
    ∃ found, matchAt? .offset both.root subject.toArray start = some found ∧ own.Like (· = 0) found
  /-- Where it does not, the second side decides. -/
  second : ∀ start, start ≤ subject.length →
    matchAt? .offset left.root subject.toArray start = none →
    AnswerLike (fun _ => True) (matchAt? .offset right.root subject.toArray start)
      (matchAt? .offset both.root subject.toArray start)

section

variable {both left right : Pattern} {subject : Text} {own : Match}

/-- Where neither side matches, there is no match. -/
theorem TriesInTurn.neither (tries : TriesInTurn both left right subject)
    (inside : start ≤ subject.length)
    (noLeft : matchAt? .offset left.root subject.toArray start = none)
    (noRight : matchAt? .offset right.root subject.toArray start = none) :
    matchAt? .offset both.root subject.toArray start = none := by
  have alike := tries.second start inside noLeft
  rw [noRight] at alike
  exact alike.eq_none

/-- There is no match at an offset before that of any match. -/
theorem matchAt?_eq_none_of_before {pattern : Pattern} (inside : start ≤ subject.length)
    (before : ∀ found, pattern.find subject = some found → start < found.start) :
    matchAt? .offset pattern.root subject.toArray start = none := by
  by_contra matched
  have ⟨other, here⟩ := Option.ne_none_iff_exists'.1 matched
  have ⟨least, isLeast, atMost⟩ := exists_find_of_matchAt? inside here
  have := before least isLeast
  omega

/-- A match of the first side is found unless the second side has an earlier one. -/
theorem TriesInTurn.find_of_first (tries : TriesInTurn both left right subject)
    (isOwn : left.find subject = some own)
    (notLater : ∀ other, right.find subject = some other → own.start ≤ other.start) :
    ∃ found, both.find subject = some found ∧ own.Like (· = 0) found := by
  have ⟨inside, here, nothing⟩ := findWith_eq_some.1 isOwn
  have ⟨found, matched, like⟩ := tries.first own.start own inside here
  refine ⟨found, findWith_eq_some.2 ?_, like⟩
  rw [← like.start_eq]
  refine ⟨inside, matched, fun earlier before => ?_⟩
  have within : earlier ≤ subject.length := by omega
  have noRight : matchAt? .offset right.root subject.toArray earlier = none :=
    matchAt?_eq_none_of_before within fun other isOther =>
      Nat.lt_of_lt_of_le before (notLater other isOther)
  exact tries.neither within (nothing earlier before) noRight

/-- A match of the second side is found if it is earlier than any of the first side. -/
theorem TriesInTurn.find_of_second (tries : TriesInTurn both left right subject)
    (isOwn : right.find subject = some own)
    (later : ∀ other, left.find subject = some other → own.start < other.start) :
    ∃ found, both.find subject = some found ∧ own.Like (fun _ => True) found := by
  have ⟨inside, here, nothing⟩ := findWith_eq_some.1 isOwn
  have noLeft : ∀ start, start ≤ own.start →
      matchAt? .offset left.root subject.toArray start = none := fun start atMost =>
    matchAt?_eq_none_of_before (Nat.le_trans atMost inside) fun other isOther =>
      Nat.lt_of_le_of_lt atMost (later other isOther)
  have alike := tries.second own.start inside (noLeft own.start (Nat.le_refl _))
  rw [here] at alike
  have ⟨found, matched, like⟩ := alike.exists_of_some
  refine ⟨found, findWith_eq_some.2 ?_, like⟩
  rw [← like.start_eq]
  exact ⟨inside, matched, fun earlier before => tries.neither (by omega)
    (noLeft earlier (by omega)) (nothing earlier before)⟩

end

/-- A match of either side that no match of either side precedes begins first. -/
theorem isLeast_of_either {left right : Option Match} {own : Match}
    (isOwn : left = some own ∨ right = some own)
    (notLater : ∀ other, left = some other ∨ right = some other → own.start ≤ other.start) :
    IsLeast {start | ∃ own, (left = some own ∨ right = some own) ∧ own.start = start} own.start := by
  refine ⟨⟨own, isOwn, rfl⟩, ?_⟩
  intro start ⟨other, isOther, begins⟩
  rw [← begins]
  exact notLater other isOther

/-- Of sides that are tried in turn the earliest match of either is found, and of two that begin together
that of the first side. -/
theorem TriesInTurn.findsEither {both left right : Pattern} {subject : Text}
    (tries : TriesInTurn both left right subject) :
    FindsEither (both.find subject) (left.find subject) (right.find subject) := by
  have earliest := earliest_cases (left.find subject) (right.find subject)
  constructor
  case first => exact fun own isOwn notLater => tries.find_of_first isOwn notLater
  case second => exact fun own isOwn later => tries.find_of_second isOwn later
  case none_iff =>
    constructor
    · intro nothing
      rcases earliest with noneFound | ⟨own, isOwn, notLater⟩ | ⟨own, isOwn, later⟩
      · exact noneFound
      · have ⟨found, isFound, _⟩ := tries.find_of_first isOwn notLater
        rw [nothing] at isFound
        cases isFound
      · have ⟨found, isFound, _⟩ := tries.find_of_second isOwn later
        rw [nothing] at isFound
        cases isFound
    · intro ⟨noLeft, noRight⟩
      exact findWith_eq_none.2 fun start inside => tries.neither inside
        (findWith_eq_none.1 noLeft start inside) (findWith_eq_none.1 noRight start inside)
  case least =>
    intro found isFound
    rcases earliest with ⟨noLeft, noRight⟩ | ⟨own, isOwn, notLater⟩ | ⟨own, isOwn, later⟩
    · have ⟨inside, here, _⟩ := findWith_eq_some.1 isFound
      rw [tries.neither inside (findWith_eq_none.1 noLeft _ inside)
        (findWith_eq_none.1 noRight _ inside)] at here
      cases here
    · have ⟨same, isSame, like⟩ := tries.find_of_first isOwn notLater
      rw [isFound] at isSame
      cases isSame
      rw [← like.start_eq]
      refine isLeast_of_either (.inl isOwn) fun other isOther => ?_
      rcases isOther with isLeft | isRight
      · rw [isOwn] at isLeft
        cases isLeft
        exact Nat.le_refl _
      · exact notLater other isRight
    · have ⟨same, isSame, like⟩ := tries.find_of_second isOwn later
      rw [isFound] at isSame
      cases isSame
      rw [← like.start_eq]
      refine isLeast_of_either (.inr isOwn) fun other isOther => ?_
      rcases isOther with isLeft | isRight
      · exact Nat.le_of_lt (later other isLeft)
      · rw [isOwn] at isRight
        cases isRight
        exact Nat.le_refl _

/-- An alternation of branches and others, whose groups have other indices, finds what either finds. -/
theorem findsEither_of_alternatives {both left right : Pattern} {index : Nat → Nat}
    (branches : both.root.alternatives =
      left.root.alternatives ++ right.root.alternatives.map (relabel index))
    (free : right.root.BackreferenceFree) (subject : Text) :
    FindsEither (both.find subject) (left.find subject) (right.find subject) := by
  have sides : ∀ start, AnswerLike (· = 0)
      ((matchAt? .offset (.group 0 left.root.alternatives) subject.toArray start).or
        (matchAt? .offset (.group 0 (right.root.alternatives.map (relabel index))) subject.toArray start))
      (matchAt? .offset both.root subject.toArray start) := by
    intro start
    rw [← matchAt?_group_append, ← branches]
    exact (matchAt?_alternatives both.root).symm
  refine TriesInTurn.findsEither ⟨fun start own inside matched => ?_, fun start inside noLeft => ?_⟩
  · have ⟨middle, isMiddle, like⟩ := (matched ▸ matchAt?_alternatives left.root).exists_of_some
    have alike := sides start
    rw [isMiddle, Option.some_or] at alike
    exact (AnswerLike.trans (.some like) alike).exists_of_some
  · have nothing := (noLeft ▸ matchAt?_alternatives left.root).eq_none
    have alike := sides start
    rw [nothing, Option.none_or] at alike
    have each : ∀ branch ∈ right.root.alternatives, branch.BackreferenceFree :=
      fun branch member => backreferenceFree_of_mem_alternatives free member
    rw [← List.size_toArray] at inside
    exact ((matchAt?_alternatives right.root).anywhere.trans
      (matchAt?_relabel inside each 0 0 index)).trans alike.anywhere

/-- A pattern that is one numbered group matches as the group does. -/
theorem matchAt?_of_parentheses {grouped : Pattern} {branches : List Node}
    (only : grouped.root.alternatives = [.sequence [.group 1 branches]])
    (inside : start ≤ subject.size) :
    AnswerLike (· = 0) (matchAt? rollback (.group 1 branches) subject start)
      (matchAt? rollback grouped.root subject start) := by
  have element : AnswerLike (· = 0)
      (matchAt? rollback (.sequence [.group 1 branches]) subject start)
      (matchAt? rollback (.group 0 [.sequence [.group 1 branches]]) subject start) :=
    matchAt?_alternatives (.sequence [.group 1 branches])
  have whole : AnswerLike (· = 0) (matchAt? rollback grouped.root subject start)
      (matchAt? rollback (.group 0 grouped.root.alternatives) subject start) :=
    matchAt?_alternatives grouped.root
  rw [matchAt?_sequence_singleton _ inside] at element
  rw [only] at whole
  exact element.trans whole.symm

/-- Where a pattern is one numbered group, its matches capture their texts under index one. -/
theorem group?_of_parentheses {grouped : Pattern} {branches : List Node} {subject : Text}
    (only : grouped.root.alternatives = [.sequence [.group 1 branches]]) {found : Match}
    (isFound : grouped.find subject = some found) : found.group? 1 = some found.text := by
  have ⟨inside, here, _⟩ := findWith_eq_some.1 isFound
  rw [← List.size_toArray] at inside
  have alike : AnswerLike (· = 0)
      (matchAt? .offset (.group 1 branches) subject.toArray found.start)
      (matchAt? .offset grouped.root subject.toArray found.start) :=
    matchAt?_of_parentheses only inside
  rw [here] at alike
  have ⟨own, isOwn, like⟩ := alike.symm.exists_of_some
  have captured := group?_of_matchAt? inside isOwn
  rw [Match.group?, ← like.captures 1 Nat.one_ne_zero, ← like.text_eq] at captured
  exact captured

/-- A pattern that is one numbered group finds what a pattern of the same branches finds, whatever
indices their groups have. -/
theorem find_of_parentheses {left grouped : Pattern} {index : Nat → Nat}
    (only : grouped.root.alternatives =
      [.sequence [.group 1 (left.root.alternatives.map (relabel index))]])
    (free : left.root.BackreferenceFree) (subject : Text) :
    AnswerLike (fun _ => True) (left.find subject) (grouped.find subject) := by
  have each : ∀ branch ∈ left.root.alternatives, branch.BackreferenceFree :=
    fun branch member => backreferenceFree_of_mem_alternatives free member
  refine rel_findSome? fun start member => ?_
  have inside : start ≤ subject.toArray.size := Nat.lt_succ_iff.1 (List.mem_range.1 member)
  have own : AnswerLike (· = 0) (matchAt? .offset left.root subject.toArray start)
      (matchAt? .offset (.group 0 left.root.alternatives) subject.toArray start) :=
    matchAt?_alternatives left.root
  exact (own.anywhere.trans (matchAt?_relabel inside each 0 1 index)).trans
    (matchAt?_of_parentheses only inside).anywhere

/-- A bar between two texts makes a pattern of both, if the second one has no backreferences. It finds a
match where one of the two does, the earlier match, and the match of the first one where they begin
together. Parentheses around a text without backreferences make a pattern that finds the same matches,
and captures the text of each under index one. -/
theorem find_of_bar_and_parentheses (first : Text) (left : Pattern)
    (compiledFirst : compile first = .ok left) :
    (∀ second right, compile second = .ok right → right.root.BackreferenceFree →
      ∃ both, compile (first ++ '|' :: second) = .ok both ∧
        both.groupCount = left.groupCount + right.groupCount ∧
        ∀ subject, FindsEither (both.find subject) (left.find subject) (right.find subject)) ∧
    (left.root.BackreferenceFree →
      ∃ grouped, compile ('(' :: first ++ [')']) = .ok grouped ∧
        grouped.groupCount = left.groupCount + 1 ∧
        ∀ subject, AnswerLike (fun _ => True) (left.find subject) (grouped.find subject) ∧
          ∀ found, grouped.find subject = some found → found.group? 1 = some found.text) := by
  have before := written_of_compile compiledFirst
  constructor
  · intro second right compiledSecond free
    have behind := written_of_compile compiledSecond
    have ⟨both, compiled, branches, count⟩ := compile_of_written (before.bar behind)
    exact ⟨both, compiled, count, findsEither_of_alternatives branches free⟩
  · intro free
    have ⟨grouped, compiled, branches, count⟩ := compile_of_written before.parentheses
    exact ⟨grouped, compiled, count, fun subject =>
      ⟨find_of_parentheses branches free subject, fun found => group?_of_parentheses branches⟩⟩

/-- In `(a)\1|b|^(.)c|` the group of the second text comes behind that of the first one, whose
backreference stays in place. Behind the parenthesis of `(^(.)c|)` the group is the second one. -/
theorem find_of_bar_and_parentheses_around_groups :
    ∃ left right both grouped, compile "(a)\\1|b".toList = .ok left ∧
      compile "^(.)c|".toList = .ok right ∧ right.root.BackreferenceFree ∧
      compile "(a)\\1|b|^(.)c|".toList = .ok both ∧ both.groupCount = 2 ∧
      (∀ subject, FindsEither (both.find subject) (left.find subject) (right.find subject)) ∧
      compile "(^(.)c|)".toList = .ok grouped ∧ grouped.groupCount = 2 ∧
      ∀ subject, AnswerLike (fun _ => True) (right.find subject) (grouped.find subject) := by
  let left : Pattern := ⟨"(a)\\1|b".toList, .group 0
    [.sequence [.group 1 [.sequence [.literal 'a']], .backreference 1], .sequence [.literal 'b']], 1⟩
  let right : Pattern := ⟨"^(.)c|".toList, .group 0
    [.sequence [.startAnchor (.group 1 [.sequence [.ofClass .any]]), .literal 'c'], .sequence []], 1⟩
  have compiledLeft : compile "(a)\\1|b".toList = .ok left := rfl
  have compiledRight : compile "^(.)c|".toList = .ok right := rfl
  have free : right.root.BackreferenceFree := by simp [BackreferenceFree, right]
  have ⟨bar, _⟩ := find_of_bar_and_parentheses _ left compiledLeft
  have ⟨_, parentheses⟩ := find_of_bar_and_parentheses _ right compiledRight
  have ⟨both, compiledBoth, count, either⟩ := bar _ right compiledRight free
  have ⟨grouped, compiledGrouped, counted, same⟩ := parentheses free
  exact ⟨left, right, both, grouped, compiledLeft, compiledRight, free, compiledBoth, count, either,
    compiledGrouped, counted, fun subject => (same subject).1⟩

end Pattern
end PatternSearch
