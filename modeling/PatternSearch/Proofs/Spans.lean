import PatternSearch.Proofs.Finding
import PatternSearch.Proofs.Reaching

/-!
# What a tree without backreferences matches

`Node.Spans` is the reading of a pattern tree as a regular expression: it says between which offsets
of a subject a tree matches, and mentions neither greediness nor the order in which an engine tries
things. Captured texts play no part in it, so it gives backreferences no meaning.

Main statement: whatever the engine finds for a tree without backreferences is a span of the tree,
however many rounds were given back on the way (`spans_of_attempt_and_find`). The invariant behind
it speaks of more than the end that was reached: after a success, every end to which the engine may
still give back is the end of a span as well (`Spanning`).
-/
namespace PatternSearch.Node

open Attempt

/-- A node that matches one rune accepts the rune between two neighbouring offsets. -/
def RuneSpans (subject : Array Char) (node : Node) (start stop : Nat) : Prop :=
  stop = start + 1 ∧ ∃ rune, subject[start]? = some rune ∧ node.accepts rune = true

mutual

/-- A tree matches the runes from one offset of a subject up to another. -/
def Spans (subject : Array Char) : Node → Nat → Nat → Prop
  | .literal own, start, stop => RuneSpans subject (.literal own) start stop
  | .ofClass kind, start, stop => RuneSpans subject (.ofClass kind) start stop
  | .set members negated, start, stop => RuneSpans subject (.set members negated) start stop
  | .startAnchor node, start, stop => start = 0 ∧ node.Spans subject start stop
  | .endAnchor node, start, stop => node.Spans subject start stop ∧ stop = subject.size
  | .repetition node min max, start, stop =>
    ∃ count, min ≤ count ∧ (∀ most, max = some most → count ≤ most) ∧
      Chain (node.Spans subject) count start stop
  | .group _ branches, start, stop => SomeSpans subject branches start stop
  | .backreference _, _, _ => False
  | .sequence nodes, start, stop => AllSpan subject nodes start stop

/-- Some of the trees matches the runes from one offset up to another. -/
def SomeSpans (subject : Array Char) : List Node → Nat → Nat → Prop
  | [], _, _ => False
  | branch :: rest, start, stop =>
    branch.Spans subject start stop ∨ SomeSpans subject rest start stop

/-- The trees match one after another from one offset up to another. -/
def AllSpan (subject : Array Char) : List Node → Nat → Nat → Prop
  | [], start, stop => start = stop
  | node :: rest, start, stop =>
    ∃ middle, node.Spans subject start middle ∧ AllSpan subject rest middle stop

end

/-- Where a step of a tree succeeds it spans the tree, and so does every end to which it may still
give back. -/
def Spanning (subject : Array Char) (node : Node) (step : State → Attempt) : Prop :=
  Reaching subject (fun start final => node.Spans subject start.offset final.offset) step

variable {rollback : Rollback} {subject : Array Char}

/-- A repetition spans with all its rounds, and with every number of rounds that it may keep. -/
theorem spanning_repetition {node : Node} (min : Nat) (max : Option Nat)
    (spanning : Spanning subject node (node.attemptWith rollback subject)) :
    Spanning subject (.repetition node min max)
      ((repetition node min max).attemptWith rollback subject) := by
  intro start final outcome inside found stop ends
  have ⟨lengths, middle, made, reached, least, most⟩ := rounds_of_repetition inside found ends
  have chained := chain_of_rounds State.offset (accounts_of_attemptWith node)
    (fun {_ final _} inside stepped => spanning inside stepped final.offset (.inl rfl)) made inside
  rw [reached] at chained
  exact ⟨lengths.length, least, most, chained⟩

/-- A rune that is matched spans its node. -/
theorem spanning_of_rune (node : Node) (single : node.isQuantifiable = true)
    (reading : ∀ start stop, node.Spans subject start stop ↔ RuneSpans subject node start stop) :
    Spanning subject node (node.attemptWith rollback subject) := by
  refine Reaching.of_consuming fun {start final outcome} _ found => ?_
  rw [attemptWith_of_isQuantifiable single, restoring_eq_ok] at found
  obtain ⟨rune, present, accepted, rfl, rfl⟩ := rune_eq_ok.1 found
  exact ⟨(reading _ _).2 ⟨rfl, rune, present, accepted⟩, rfl⟩

mutual

/-- The engine finds only spans of trees without backreferences. -/
theorem spanning_of_attemptWith :
    (node : Node) → node.BackreferenceFree →
      Spanning subject node (node.attemptWith rollback subject)
  | .literal own, _ => spanning_of_rune (.literal own) rfl fun _ _ => Iff.rfl
  | .ofClass kind, _ => spanning_of_rune (.ofClass kind) rfl fun _ _ => Iff.rfl
  | .set members negated, _ => spanning_of_rune (.set members negated) rfl fun _ _ => Iff.rfl
  | .startAnchor node, free => fun _ _ _ inside found stop ends => by
    obtain ⟨first, matched⟩ := startAnchor_eq_ok.1 found
    exact ⟨first, spanning_of_attemptWith node (free.of_parts (parts_subset_startAnchor node))
      inside matched stop ends⟩
  | .endAnchor node, free => Reaching.of_consuming fun inside found => by
    obtain ⟨inner, matched, ended, rfl⟩ := endAnchor_eq_ok.1 found
    have spanned := spanning_of_attemptWith node (free.of_parts (parts_subset_endAnchor node))
      inside matched _ (.inl rfl)
    have stopped := (accounts_of_attemptWith node inside matched).stop_le
    exact ⟨⟨spanned, Nat.le_antisymm stopped ended⟩, rfl⟩
  | .repetition node min max, free =>
    spanning_repetition min max
      (spanning_of_attemptWith node (free.of_parts (parts_subset_repetition node min max)))
  | .group index branches, free => Reaching.of_consuming fun inside found =>
    spans_of_attemptBranches branches
      (fun branch member => free.of_parts (parts_subset_group index member)) inside
      (group_eq_ok.1 found)
  | .backreference index, free => absurd (mem_parts_self _) (free index)
  | .sequence nodes, free => Reaching.of_consuming fun {start final outcome} inside found => by
    have matched := sequence_eq_ok.1 found
    obtain ⟨middle, rfl, spanned⟩ := spans_of_attemptSequence (start.offset = ·) nodes
      (fun node member => free.of_parts (parts_subset_sequence member)) (Nat.le_refl _) inside
      (by simp) (by simp [TriedAt]) matched
    exact ⟨spanned, giveback_of_attemptSequence matched⟩

/-- A group that the engine finds spans one of its branches. -/
theorem spans_of_attemptBranches {index : Nat} {start final : State} {outcome : Outcome} :
    (branches : List Node) → (∀ branch ∈ branches, branch.BackreferenceFree) →
      start.offset ≤ subject.size →
      attemptBranches rollback subject index branches start = ⟨.ok outcome, final⟩ →
      (group index branches).Spans subject start.offset final.offset ∧ outcome.giveback = 0
  | [], _ => fun _ found => by
    rw [attemptBranches, failure_eq_ok] at found
    exact found.elim
  | branch :: rest, free => fun inside found => by
    rcases attemptBranches_cons_eq_ok.1 found with
      ⟨inner, reached, matched, rfl, rfl⟩ | ⟨_, _, -, later⟩
    · have spanned := spanning_of_attemptWith branch (free branch List.mem_cons_self) inside matched
        _ (.inl rfl)
      exact ⟨.inl spanned, rfl⟩
    · obtain ⟨spanned, kept⟩ := spans_of_attemptBranches rest
        (fun node member => free node (List.mem_cons_of_mem _ member)) inside later
      exact ⟨.inr spanned, kept⟩

/-- A sequence that the engine finds spans its nodes from an offset at which it may have stood. -/
theorem spans_of_attemptSequence (Reached : Nat → Prop) {began : Nat}
    {preceding : Option Preceding} {start final : State} {outcome : Outcome} :
    (nodes : List Node) → (∀ node ∈ nodes, node.BackreferenceFree) →
      began ≤ start.offset → start.offset ≤ subject.size →
      (∀ latest ∈ preceding, Remembers subject began start.offset latest) →
      (∀ stop, TriedAt preceding start.offset stop → Reached stop) →
      attemptSequence rollback subject began preceding nodes start = ⟨.ok outcome, final⟩ →
      ∃ middle, Reached middle ∧ AllSpan subject nodes middle final.offset
  | [], _ => fun _ _ _ reached found => by
    rw [attemptSequence, success_eq_ok] at found
    obtain ⟨-, rfl⟩ := found
    exact ⟨start.offset, reached _ (.inl rfl), rfl⟩
  | node :: rest, free => fun after inside remembered reached found => by
    obtain ⟨inner, next, matched, later⟩ := attemptSequence_cons_eq_ok.1 found
    have known := remembers_of_orAfterGiveback (accounts_of_attemptWith node) after inside
      remembered matched
    have onward : began ≤ next.offset := Nat.le_trans known.began_le (Nat.sub_le _ _)
    obtain ⟨state, possible, spanned⟩ :=
      (spanning_of_attemptWith node (free node List.mem_cons_self)).extends (fun _ => True)
        (Reached ·.offset) (accounts_of_attemptWith node) after inside
        remembered (fun _ _ _ _ _ _ => trivial) trivial (fun _ place _ => reached _ place) matched
    -- the rest is reached past spans of this node, from wherever the node may have begun
    obtain ⟨far, ⟨near, first, here⟩, further⟩ := spans_of_attemptSequence
      (fun stop => ∃ near, Reached near ∧ node.Spans subject near stop) rest
      (fun other member => free other (List.mem_cons_of_mem _ member)) onward
      known.accounts.stop_le (by rintro _ ⟨⟩; exact known)
      (fun stop ends => ⟨state.offset, possible, spanned stop ends⟩) later
    exact ⟨near, first, far, here, further⟩

end

/-- An attempt of a tree without backreferences that succeeds spans the tree, wherever it begins and
whatever is captured before it; so does every match that a search finds for such a pattern. -/
theorem spans_of_attempt_and_find :
    (∀ (subject : Array Char) (node : Node) (start final : State) (outcome : Outcome),
      node.BackreferenceFree → start.offset ≤ subject.size →
      node.attempt subject start = ⟨.ok outcome, final⟩ →
      node.Spans subject start.offset final.offset) ∧
    ∀ (pattern : Pattern) (subject : Text) (found : Match),
      pattern.root.BackreferenceFree → pattern.find subject = some found →
      pattern.root.Spans subject.toArray found.start found.stop := by
  have spanned : ∀ (subject : Array Char) (node : Node) (start final : State) (outcome : Outcome),
      node.BackreferenceFree → start.offset ≤ subject.size →
      node.attempt subject start = ⟨.ok outcome, final⟩ →
      node.Spans subject start.offset final.offset :=
    fun _ node _ _ _ free inside matched =>
      spanning_of_attemptWith node free inside matched _ (.inl rfl)
  refine ⟨spanned, fun pattern subject found free matched => ?_⟩
  obtain ⟨inside, here, -⟩ := Pattern.findWith_eq_some.1 matched
  obtain ⟨outcome, state, attempted, shown⟩ :=
    (Pattern.matchAt?_eq_some (by simpa using inside)).1 here
  have reached := spanned _ _ _ _ _ free (by simpa using inside) attempted
  rw [shown]
  exact reached

/-- A repeated group behind a start anchor gives its last round back to the rune after it, and so
does the repetition in the middle of `ca+at`. -/
theorem spans_of_given_back_rounds :
    (∃ (node : Node) (final : State) (outcome : Outcome),
      node = .sequence [.startAnchor (.repetition (.group 3 [.literal 'a']) 1 none), .literal 'a'] ∧
      node.BackreferenceFree ∧
      node.attempt #['a', 'a', 'a'] ⟨0, .empty⟩ = ⟨.ok outcome, final⟩ ∧
      node.Spans #['a', 'a', 'a'] 0 3) ∧
    ∃ (pattern : Pattern) (found : Match),
      Pattern.compile "ca+at".toList = .ok pattern ∧ pattern.root.BackreferenceFree ∧
      pattern.find "caaats".toList = some found ∧
      pattern.root.Spans "caaats".toList.toArray 0 5 := by
  constructor
  · have free : (sequence [.startAnchor (.repetition (.group 3 [.literal 'a']) 1 none),
        .literal 'a']).BackreferenceFree := by simp [BackreferenceFree]
    have matched : (sequence [.startAnchor (.repetition (.group 3 [.literal 'a']) 1 none),
        .literal 'a']).attempt #['a', 'a', 'a'] ⟨0, .empty⟩ =
          ⟨.ok (.consuming 3), 3, Captures.empty.record 3 ['a']⟩ := rfl
    exact ⟨_, _, _, rfl, free, matched,
      spans_of_attempt_and_find.1 _ _ _ _ _ free (Nat.zero_le _) matched⟩
  · have free : (sequence [.literal 'c', .repetition (.literal 'a') 1 none, .literal 'a',
        .literal 't']).BackreferenceFree := by simp [BackreferenceFree]
    exact ⟨⟨_, _, 0⟩, ⟨0, 5, "caaat".toList, .empty⟩, rfl, free, rfl,
      spans_of_attempt_and_find.2 ⟨_, _, 0⟩ _ ⟨0, 5, "caaat".toList, .empty⟩ free rfl⟩

end PatternSearch.Node
