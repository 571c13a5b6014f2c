import PatternSearch.Proofs.Alternatives
import PatternSearch.Proofs.Corresponding

/-!
# Subjects behind other runes

A tree without start anchors does not see what stands to the left of the offset at which it is attempted.
Behind runes put in front of a subject the attempt has the same result, captures the same texts and stands
as many runes further as there are runes in front (`attemptWith_behind`).

So a match of a pattern without start anchors stays a match behind other runes (`matchAt?_behind`), and a
search that matches nothing before them finds the match of the subject, moved behind them (`find_behind`).
A pattern has start anchors only where its text has a `^` (`startAnchorFree_of_caret_notMem`).
-/
namespace PatternSearch

/-- The match with so many runes in front of its subject. -/
def Match.moved (ahead : Nat) (found : Match) : Match :=
  { found with start := ahead + found.start, stop := ahead + found.stop }

namespace Node

/-- The tree has no start anchor. -/
def StartAnchorFree (node : Node) : Prop := ∀ inner, .startAnchor inner ∉ node.parts

/-! ## Attempts -/

variable {front subject : Array Char} {rollback : Rollback}

/-- With its own indices and the same captured texts, a tree without start anchors goes the same way
behind any runes. -/
theorem StartAnchorFree.follows {node : Node} (free : node.StartAnchorFree) :
    Follows front id Eq node :=
  ⟨fun own _ _ _ _ text same => by rw [same, id],
    fun own _ _ _ same => by rw [same],
    fun inner member => absurd member (free inner)⟩

/-- An attempt behind runes in front of a subject goes as the attempt in the subject. -/
theorem attemptWith_behind {node : Node} (free : node.StartAnchorFree) {offset : Nat}
    (inside : offset ≤ subject.size) (captures : Captures) :
    node.attemptWith rollback (front ++ subject) ⟨front.size + offset, captures⟩ =
      ⟨(node.attemptWith rollback subject ⟨offset, captures⟩).result,
        ⟨front.size + (node.attemptWith rollback subject ⟨offset, captures⟩).state.offset,
          (node.attemptWith rollback subject ⟨offset, captures⟩).state.captures⟩⟩ := by
  have corresponding : Corresponding front subject Eq (node.attemptWith rollback subject)
      ((node.relabel id).attemptWith rollback (front ++ subject)) :=
    -- Both attempts are of the same tree, so the indices and the captured texts must be the same ones.
    corresponding_of_attemptWith node free.follows
  rw [relabel_id] at corresponding
  have ⟨results, ⟨offsets, tables⟩⟩ := corresponding ⟨offset, captures⟩
    ⟨front.size + offset, captures⟩ inside ⟨rfl, rfl⟩
  rw [results, ← offsets, tables]

/-! ## Texts of patterns with start anchors -/

mutual

/-- Every text that writes a tree with a start anchor in it has a `^`. -/
theorem caret_mem_of_spelledBy {inner : Node} :
    (node : Node) → .startAnchor inner ∈ node.parts → ∀ text, node.SpelledBy text → '^' ∈ text
  | .literal _, member, _, _ | .ofClass _, member, _, _ | .set _ _, member, _, _
  | .backreference _, member, _, _ => by
    cases List.mem_singleton.1 member
  | .startAnchor _, _, text, spelled => by
    obtain ⟨inside, _, same⟩ := spelled
    rw [same]
    exact List.mem_cons_self
  | .endAnchor node, member, text, spelled => by
    obtain ⟨inside, written, same⟩ := spelled
    rw [parts_endAnchor] at member
    cases member with
    | tail _ deep =>
      rw [same]
      exact List.mem_append_left _ (caret_mem_of_spelledBy node deep inside written)
  | .repetition node min max, member, text, spelled => by
    obtain ⟨inside, written, shape⟩ := spelled
    rw [parts_repetition] at member
    cases member with
    | tail _ deep =>
      have found := caret_mem_of_spelledBy node deep inside written
      rcases shape with ⟨_, _, same⟩ | ⟨_, _, same⟩ <;>
      · rw [same]
        exact List.mem_append_left _ found
  | .group index branches, member, text, spelled => by
    obtain ⟨inside, written, same⟩ := spelled
    rw [parts_group] at member
    cases member with
    | tail _ deep =>
      have found := caret_mem_of_branchesSpelledBy branches deep inside written
      rw [same]
      exact List.mem_append_left _ (List.mem_cons_of_mem _ found)
  | .sequence nodes, member, text, spelled => by
    rw [parts_sequence] at member
    cases member with
    | tail _ deep => exact caret_mem_of_rowSpelledBy nodes deep text spelled

/-- So it is for trees one after another. -/
theorem caret_mem_of_rowSpelledBy {inner : Node} :
    (nodes : List Node) → .startAnchor inner ∈ nodes.flatMap parts → ∀ text,
      RowSpelledBy nodes text → '^' ∈ text
  | [], member, _, _ => by cases member
  | node :: rest, member, text, spelled => by
    obtain ⟨first, later, here, behind, same⟩ := spelled
    rw [List.flatMap_cons] at member
    rw [same]
    rcases List.mem_append.1 member with inHead | inRest
    · exact List.mem_append_left _ (caret_mem_of_spelledBy node inHead first here)
    · exact List.mem_append_right _ (caret_mem_of_rowSpelledBy rest inRest later behind)

/-- So it is for branches. -/
theorem caret_mem_of_branchesSpelledBy {inner : Node} :
    (branches : List Node) → .startAnchor inner ∈ branches.flatMap parts → ∀ text,
      BranchesSpelledBy branches text → '^' ∈ text
  | [], member, _, _ => by cases member
  | [branch], member, text, spelled => by
    rw [List.flatMap_singleton] at member
    exact caret_mem_of_spelledBy branch member text spelled
  | branch :: next :: rest, member, text, spelled => by
    obtain ⟨first, later, here, behind, same⟩ := spelled
    rw [List.flatMap_cons] at member
    rw [same]
    rcases List.mem_append.1 member with inHead | inRest
    · exact List.mem_append_left _ (caret_mem_of_spelledBy branch inHead first here)
    · have found := caret_mem_of_branchesSpelledBy (next :: rest) inRest later behind
      exact List.mem_append_right _ (List.mem_cons_of_mem _ found)

end

/-- A start anchor in a tree stands in one of its alternatives. -/
theorem startAnchor_mem_alternatives {tree inner : Node} (member : .startAnchor inner ∈ tree.parts) :
    .startAnchor inner ∈ tree.alternatives.flatMap parts := by
  unfold alternatives
  split
  · rw [parts_group] at member
    cases member with
    | tail _ deep => exact deep
  · rw [List.flatMap_singleton]
    exact member

end Node

namespace Pattern

open Node

/-- A pattern text without a `^` is compiled to a tree without start anchors. -/
theorem startAnchorFree_of_caret_notMem {source : Text} {pattern : Pattern}
    (compiled : compile source = .ok pattern) (without : '^' ∉ source) :
    pattern.root.StartAnchorFree := by
  intro inner member
  have written := written_of_compile compiled
  apply without
  exact caret_mem_of_branchesSpelledBy _ (startAnchor_mem_alternatives member) source written.spelled

/-! ## Matches and searches -/

section

variable {pattern : Pattern} {front subject : Text} {start : Nat}

/-- Behind runes in front of a subject there is the same match, moved behind them. -/
theorem matchAt?_behind (free : pattern.root.StartAnchorFree) (inside : start ≤ subject.length) :
    matchAt? .offset pattern.root (front ++ subject).toArray (front.length + start) =
      (matchAt? .offset pattern.root subject.toArray start).map (Match.moved front.length) := by
  have attempted := @attemptWith_behind front.toArray subject.toArray .offset _ free start inside .empty
  have between := Attempt.extract_behind front.toArray subject.toArray start
  rw [List.append_toArray, List.size_toArray] at attempted between
  unfold matchAt?
  rw [attempted]
  cases pattern.root.attemptWith .offset subject.toArray ⟨start, .empty⟩ with
  | mk result final =>
    cases result with
    | error mismatch => rfl
    | ok outcome => simp only [Option.map_some, Match.moved, Nat.add_assoc, between]

/-- A search that matches nothing before the end of the runes in front finds the match of the subject. -/
theorem find_behind (free : pattern.root.StartAnchorFree)
    (nothing : ∀ start, start < front.length →
      matchAt? .offset pattern.root (front ++ subject).toArray start = none) :
    pattern.find (front ++ subject) = (pattern.find subject).map (Match.moved front.length) := by
  have behind : ∀ start, start ≤ (front ++ subject).length → front.length ≤ start →
      matchAt? .offset pattern.root (front ++ subject).toArray start =
        (matchAt? .offset pattern.root subject.toArray (start - front.length)).map
          (Match.moved front.length) := by
    intro start inside after
    rw [List.length_append] at inside
    have within : start - front.length ≤ subject.length := by omega
    have moved := @matchAt?_behind pattern front subject _ free within
    rwa [show front.length + (start - front.length) = start by omega] at moved
  cases isFound : pattern.find subject with
  | none =>
    have absent := findWith_eq_none.1 isFound
    apply findWith_eq_none.2
    intro start inside
    by_cases before : start < front.length
    · exact nothing start before
    · rw [behind start inside (by omega), absent _ (by rw [List.length_append] at inside; omega)]
      rfl
  | some found =>
    have ⟨inside, here, absent⟩ := findWith_eq_some.1 isFound
    have within : front.length + found.start ≤ (front ++ subject).length := by
      rw [List.length_append]
      omega
    apply findWith_eq_some.2
    refine ⟨within, ?_, ?_⟩
    · change matchAt? .offset pattern.root (front ++ subject).toArray (front.length + found.start) = _
      rw [matchAt?_behind free inside, here, Option.map_some]
    · intro start earlier
      change start < front.length + found.start at earlier
      by_cases before : start < front.length
      · exact nothing start before
      · rw [behind start (by omega) (by omega), absent _ (by omega)]
        rfl

/-- A tree matches behind runes in front of a subject where it matches in the subject. -/
theorem matchesAt_behind (free : pattern.root.StartAnchorFree)
    (matched : pattern.MatchesAt subject start) :
    pattern.MatchesAt (front ++ subject) (front.length + start) := by
  have ⟨inside, found, here⟩ := matchesAt_iff.1 matched
  apply matchesAt_iff.2
  constructor
  · rw [List.length_append]
    omega
  · rw [matchAt?_behind free inside, here]
    exact ⟨_, rfl⟩

end

/-- What stands to the left of the offset at which a tree without start anchors is attempted does not
matter: the attempt has the same outcome or mismatch, leaves the same captured texts, also when it fails,
and stands further by the runes in front. So a pattern without start anchors occurs in a subject behind
any runes if it occurs in the subject, and if nothing matches before the end of these runes, it finds
what it finds in the subject, moved behind them. -/
theorem attempt_and_find_behind (front subject : Text) :
    (∀ node : Node, node.StartAnchorFree → ∀ offset, offset ≤ subject.length → ∀ captures,
      node.attempt (front ++ subject).toArray ⟨front.length + offset, captures⟩ =
        ⟨(node.attempt subject.toArray ⟨offset, captures⟩).result,
          ⟨front.length + (node.attempt subject.toArray ⟨offset, captures⟩).state.offset,
            (node.attempt subject.toArray ⟨offset, captures⟩).state.captures⟩⟩) ∧
    ∀ source pattern, compile source = .ok pattern →
      ('^' ∉ source ∨ pattern.root.StartAnchorFree) →
      (pattern.occursIn subject = true → pattern.occursIn (front ++ subject) = true) ∧
      ((∀ start, start < front.length → ¬ pattern.MatchesAt (front ++ subject) start) →
        pattern.find (front ++ subject) = (pattern.find subject).map (Match.moved front.length)) := by
  constructor
  · intro node free offset inside captures
    have attempted := @attemptWith_behind front.toArray subject.toArray .offset _ free offset inside
      captures
    rwa [List.append_toArray, List.size_toArray] at attempted
  · intro source pattern compiled without
    have free : pattern.root.StartAnchorFree := by
      cases without with
      | inl absent => exact startAnchorFree_of_caret_notMem compiled absent
      | inr free => exact free
    constructor
    · intro occurs
      have ⟨start, matched⟩ := find_isSome_iff_matchesAt.1 occurs
      exact find_isSome_iff_matchesAt.2 ⟨_, matchesAt_behind free matched⟩
    · intro nothing
      apply find_behind free
      intro start before
      by_contra matched
      have ⟨found, here⟩ := Option.ne_none_iff_exists'.1 matched
      have inside : start ≤ (front ++ subject).length := by
        rw [List.length_append]
        omega
      exact nothing start before (matchesAt_iff.2 ⟨inside, found, here⟩)

/-- For `x+x(a|b)\1$` the runes `ab` in front of `xxaa` change nothing: the repetition gives its second
rune back, and the backreference reads what its group captured two runes further. -/
theorem find_behind_of_given_back_round :
    ∃ pattern, compile "x+x(a|b)\\1$".toList = .ok pattern ∧ '^' ∉ "x+x(a|b)\\1$".toList ∧
      pattern.root.StartAnchorFree ∧
      pattern.root.attempt "abxxaa".toList.toArray ⟨2, .empty⟩ =
        ⟨.ok (.consuming 4), ⟨2 + 4, Captures.empty.record 1 "a".toList⟩⟩ ∧
      (∀ start, start < 2 → ¬ pattern.MatchesAt "abxxaa".toList start) ∧
      pattern.occursIn "abxxaa".toList = true ∧
      pattern.find "abxxaa".toList =
        some ⟨2 + 0, 2 + 4, "xxaa".toList, Captures.empty.record 1 "a".toList⟩ := by
  let tree : Node := .sequence [.repetition (.literal 'x') 1 none, .literal 'x',
    .group 1 [.sequence [.literal 'a'], .sequence [.literal 'b']], .endAnchor (.backreference 1)]
  let pattern : Pattern := ⟨"x+x(a|b)\\1$".toList, tree, 1⟩
  have compiled : compile "x+x(a|b)\\1$".toList = .ok pattern := rfl
  have without : '^' ∉ "x+x(a|b)\\1$".toList := by decide
  have free : pattern.root.StartAnchorFree := startAnchorFree_of_caret_notMem compiled without
  have none : ∀ start, start < 2 →
      matchAt? .offset pattern.root "abxxaa".toList.toArray start = .none := by decide +kernel
  have nothing : ∀ start, start < 2 → ¬ pattern.MatchesAt "abxxaa".toList start := by
    intro start before matched
    have ⟨_, found, here⟩ := matchesAt_iff.1 matched
    rw [none start before] at here
    cases here
  have alone : (pattern.root.attempt "xxaa".toList.toArray ⟨0, .empty⟩).result =
        .ok (.consuming 4) ∧
      (pattern.root.attempt "xxaa".toList.toArray ⟨0, .empty⟩).state =
        ⟨4, Captures.empty.record 1 "a".toList⟩ := by decide +kernel
  have isFound : pattern.find "xxaa".toList =
      some ⟨0, 4, "xxaa".toList, Captures.empty.record 1 "a".toList⟩ := by decide +kernel
  have occurs : pattern.occursIn "xxaa".toList = true := by rw [occursIn, isFound, Option.isSome_some]
  have ⟨attempts, searches⟩ := attempt_and_find_behind "ab".toList "xxaa".toList
  have ⟨occursBehind, finds⟩ := searches _ pattern compiled (.inl without)
  have attempted := attempts pattern.root free 0 (by decide) .empty
  rw [alone.1, alone.2] at attempted
  have found := finds nothing
  rw [isFound] at found
  exact ⟨pattern, compiled, without, free, attempted, nothing, occursBehind occurs, found⟩

end Pattern
end PatternSearch
