import PatternSearch.Proofs.Restoring
import PatternSearch.Proofs.Spans

/-!
# What a match captures

`Node.Derives` reads a pattern tree together with the captured texts. It says from which state to
which state a tree leads: where a sequence hands the captured texts from each element to the next, a
group records the text between the offsets that one of its branches leads between, and a
backreference stands for the text that its group has captured by then. It knows of no attempt that
fails, so whatever it captures belongs to the match.

Main statement: in a compiled pattern without a group right before an end anchor, an attempt that
succeeds goes from one state to another as the tree leads (`derives_of_attempt_and_find`). Every
element of such a pattern, when it fails, is in the state where it began, so a later try begins
beside the captured texts of the elements before it. The invariant `Deriving` also speaks of the
ends to which the engine may give back.
-/
namespace PatternSearch.Node

open Attempt

mutual

/-- A tree leads from one state to another. -/
def Derives (subject : Array Char) : Node → State → State → Prop
  | .literal own, start, final =>
    RuneSpans subject (.literal own) start.offset final.offset ∧ final.captures = start.captures
  | .ofClass kind, start, final =>
    RuneSpans subject (.ofClass kind) start.offset final.offset ∧ final.captures = start.captures
  | .set members negated, start, final =>
    RuneSpans subject (.set members negated) start.offset final.offset ∧
      final.captures = start.captures
  | .startAnchor node, start, final => start.offset = 0 ∧ node.Derives subject start final
  | .endAnchor node, start, final => node.Derives subject start final ∧ final.offset = subject.size
  | .repetition node min max, start, final =>
    ∃ count, min ≤ count ∧ (∀ most, max = some most → count ≤ most) ∧
      Chain (node.Derives subject) count start final
  | .group index branches, start, final =>
    ∃ inner, SomeDerives subject branches start inner ∧ final.offset = inner.offset ∧
      final.captures =
        inner.captures.record index (subject.extract start.offset inner.offset).toList
  | .backreference index, start, final =>
    ∃ captured, start.captures.get? index = some captured ∧
      start.offset ≤ final.offset ∧ final.offset ≤ subject.size ∧
      (subject.extract start.offset final.offset).toList = captured ∧
      final.captures = start.captures
  | .sequence nodes, start, final => AllDerive subject nodes start final

/-- Some of the trees leads from one state to another. -/
def SomeDerives (subject : Array Char) : List Node → State → State → Prop
  | [], _, _ => False
  | branch :: rest, start, final =>
    branch.Derives subject start final ∨ SomeDerives subject rest start final

/-- The trees lead one after another from one state to another. -/
def AllDerive (subject : Array Char) : List Node → State → State → Prop
  | [], start, final => start = final
  | node :: rest, start, final =>
    ∃ middle, node.Derives subject start middle ∧ AllDerive subject rest middle final

end

/-- No end anchor of the tree stands right behind a group. -/
def NoGroupAtEnd (tree : Node) : Prop :=
  ∀ inner, .endAnchor inner ∈ tree.parts → inner.unanchored.groupIndex? = none

/-- Nor does one of what is inside such a tree. -/
theorem NoGroupAtEnd.of_parts {outer inner : Node} (noGroup : outer.NoGroupAtEnd)
    (inside : inner.parts ⊆ outer.parts) : inner.NoGroupAtEnd :=
  fun anchored member => noGroup anchored (inside member)

/-- Where a step of a tree succeeds, the tree leads to the state that it reached, and with the same
captured texts to every end to which the step may still give back. -/
def Deriving (subject : Array Char) (node : Node) (step : State → Attempt) : Prop :=
  Reaching subject (node.Derives subject) step

variable {rollback : Rollback} {subject : Array Char}

/-- A node that matches one rune leads past it and captures nothing. -/
theorem derives_of_isQuantifiable {node : Node} (single : node.isQuantifiable = true)
    {start final : State} : node.Derives subject start final ↔
      RuneSpans subject node start.offset final.offset ∧ final.captures = start.captures := by
  cases node <;> first | exact Iff.rfl | cases single

/-- A rune that is matched derives its node. -/
theorem deriving_of_rune (node : Node) (single : node.isQuantifiable = true) :
    Deriving subject node (node.attemptWith rollback subject) := by
  refine Reaching.of_consuming fun {start final outcome} _ found => ?_
  rw [attemptWith_of_isQuantifiable single, restoring_eq_ok] at found
  have ⟨rune, present, accepted, consumed, moved⟩ := rune_eq_ok.1 found
  subst consumed moved
  exact ⟨(derives_of_isQuantifiable single).2 ⟨⟨rfl, rune, present, accepted⟩, rfl⟩, rfl⟩

/-- Rounds of a tree without groups capture nothing. -/
theorem captures_of_rounds {node : Node} {start final : State} {lengths : List Nat}
    (none : node.indices = []) (rounds : Rounds (node.attemptWith rollback subject) start lengths final)
    (inside : start.offset ≤ subject.size) : final.captures = start.captures := by
  have kept : final.offset ≤ subject.size ∧ final.captures = start.captures := by
    refine rounds.keeps (fun state => state.offset ≤ subject.size ∧ state.captures = start.captures)
      ?_ ⟨inside, rfl⟩
    intro before outcome after held stepped
    have ⟨within, same⟩ := held
    have captures : (node.attemptWith rollback subject before).state.captures = before.captures :=
      captures_of_attemptWith none within
    rw [stepped] at captures
    exact ⟨(accounts_of_attemptWith node within stepped).stop_le, captures.trans same⟩
  exact kept.2

/-- A repetition of a tree without groups derives with every number of rounds that it may keep. -/
theorem deriving_repetition {node : Node} (min : Nat) (max : Option Nat) (none : node.indices = [])
    (derives : Deriving subject node (node.attemptWith rollback subject)) :
    Deriving subject (.repetition node min max)
      ((repetition node min max).attemptWith rollback subject) := by
  intro start final outcome inside found stop ends
  have ⟨lengths, middle, made, reached, least, most⟩ := rounds_of_repetition inside found ends
  have chained := chain_of_rounds id (accounts_of_attemptWith node)
    (fun {_ final _} inside stepped => derives inside stepped final.offset (.inl rfl)) made inside
  have all : ((repetition node min max).attemptWith rollback subject start).state.captures =
      start.captures := captures_of_attemptWith ((indices_repetition _ _ _).trans none) inside
  rw [found] at all
  have same : middle = final.at stop :=
    congrArg₂ State.mk reached ((captures_of_rounds none made inside).trans all.symm)
  rw [← same]
  exact ⟨lengths.length, least, most, chained⟩

/-- An element of such a pattern leads on from states to which the elements in front of it may lead,
beside the same captured texts, since every element that fails puts them back. -/
theorem extends_of_element {node : Node} {Reached : State → Prop} {began : Nat}
    {preceding : Option Preceding} {start final : State} {outcome : Outcome}
    (element : Element node) (noGroup : node.NoGroupAtEnd)
    (derives : Deriving subject node (node.attemptWith rollback subject))
    (after : began ≤ start.offset) (inside : start.offset ≤ subject.size)
    (remembered : ∀ latest ∈ preceding, Remembers subject began start.offset latest)
    (reached : ∀ stop, TriedAt preceding start.offset stop → Reached (start.at stop))
    (found : orAfterGiveback (node.attemptWith rollback subject) preceding start
      = ⟨.ok outcome, final⟩) :
    ∃ middle, Reached middle ∧
      ∀ stop, TriedAt (some ⟨final.offset - outcome.consumed, outcome⟩) final.offset stop →
        node.Derives subject middle (final.at stop) := by
  refine derives.extends (· = start.captures) Reached (accounts_of_attemptWith node) after inside
    remembered ?_ rfl ?_ found
  · intro before mismatch failed within same stepped
    have restored := state_of_failed_element element
      (fun inner isEnd => noGroup inner (isEnd ▸ mem_parts_self node)) within stepped
    rw [restored]
    exact same
  · intro state place same
    have here : state = start.at state.offset := congrArg₂ State.mk rfl same
    rw [here]
    exact reached _ place

mutual

/-- The engine follows derivations of the trees of patterns without a group right before an end
anchor. -/
theorem deriving_of_attemptWith :
    (node : Node) → InPattern node → node.NoGroupAtEnd →
      Deriving subject node (node.attemptWith rollback subject)
  | .literal own, _, _ => deriving_of_rune (.literal own) rfl
  | .ofClass kind, _, _ => deriving_of_rune (.ofClass kind) rfl
  | .set members negated, _, _ => deriving_of_rune (.set members negated) rfl
  | .startAnchor node, shape, noGroup => fun _ _ _ inside found stop ends => by
    have ⟨first, matched⟩ := startAnchor_eq_ok.1 found
    exact ⟨first, deriving_of_attemptWith node shape.of_startAnchor
      (noGroup.of_parts (parts_subset_startAnchor node)) inside matched stop ends⟩
  | .endAnchor node, shape, noGroup => Reaching.of_consuming fun inside found => by
    have ⟨inner, matched, ended, consumed⟩ := endAnchor_eq_ok.1 found
    have derived := deriving_of_attemptWith node (.inl shape.of_endAnchor)
      (noGroup.of_parts (parts_subset_endAnchor node)) inside matched _ (.inl rfl)
    have stopped := (accounts_of_attemptWith node inside matched).stop_le
    rw [consumed]
    exact ⟨⟨derived, Nat.le_antisymm stopped ended⟩, rfl⟩
  | .repetition node min max, shape, _ =>
    deriving_repetition min max (indices_eq_nil_of_isQuantifiable shape.of_repetition)
      (deriving_of_rune node shape.of_repetition)
  | .group index branches, shape, noGroup => Reaching.of_consuming fun inside found =>
    derives_of_attemptBranches branches shape.of_group
      (fun branch member => noGroup.of_parts (parts_subset_group index member)) inside
      (group_eq_ok.1 found)
  | .backreference index, _, _ => Reaching.of_consuming fun inside found => by
    have ⟨captured, bound, begins, consumed, moved⟩ := backreference_eq_ok.1 found
    have short := begins.length_le
    simp only [List.length_drop, Array.length_toList] at short
    rw [consumed, moved]
    refine ⟨⟨captured, bound, Nat.le_add_right _ _, ?_, ?_, rfl⟩, rfl⟩
    · rw [State.at_offset]
      omega
    · rw [State.at_offset, Array.toList_extract, List.extract_eq_take_drop, Nat.add_sub_cancel_left]
      exact (List.prefix_iff_eq_take.1 begins).symm
  | .sequence nodes, shape, noGroup =>
    Reaching.of_consuming fun {start final outcome} inside found => by
    have matched := sequence_eq_ok.1 found
    have ⟨middle, same, derived⟩ := derives_of_attemptSequence (start = ·) nodes
      shape.of_sequence
      (fun node member => noGroup.of_parts (parts_subset_sequence member)) (Nat.le_refl _) inside
      (by simp) (by simp [TriedAt]) matched
    subst same
    exact ⟨derived, giveback_of_attemptSequence matched⟩

/-- A group that the engine finds derives from one of its branches. -/
theorem derives_of_attemptBranches {index : Nat} {start final : State} {outcome : Outcome} :
    (branches : List Node) → (∀ branch ∈ branches, Branch branch) →
      (∀ branch ∈ branches, branch.NoGroupAtEnd) → start.offset ≤ subject.size →
      attemptBranches rollback subject index branches start = ⟨.ok outcome, final⟩ →
      (group index branches).Derives subject start final ∧ outcome.giveback = 0
  | [], _, _, _, found => by
    rw [attemptBranches, failure_eq_ok] at found
    exact found.elim
  | branch :: rest, each, noGroup, inside, found => by
    rcases attemptBranches_cons_eq_ok.1 found with
      ⟨inner, reached, matched, consumed, moved⟩ | ⟨_, _, _, later⟩
    · have derived := deriving_of_attemptWith branch (.inr (each branch List.mem_cons_self))
        (noGroup branch List.mem_cons_self) inside matched _ (.inl rfl)
      rw [consumed, moved]
      exact ⟨⟨reached, .inl derived, rfl, rfl⟩, rfl⟩
    · have ⟨⟨inner, derived, others⟩, kept⟩ := derives_of_attemptBranches rest
        (fun other member => each other (List.mem_cons_of_mem _ member))
        (fun other member => noGroup other (List.mem_cons_of_mem _ member)) inside later
      exact ⟨⟨inner, .inr derived, others⟩, kept⟩

/-- A sequence that the engine finds derives from a state to which the elements in front of it may
lead. -/
theorem derives_of_attemptSequence (Reached : State → Prop) {began : Nat}
    {preceding : Option Preceding} {start final : State} {outcome : Outcome} :
    (nodes : List Node) → (∀ node ∈ nodes, Element node) → (∀ node ∈ nodes, node.NoGroupAtEnd) →
      began ≤ start.offset → start.offset ≤ subject.size →
      (∀ latest ∈ preceding, Remembers subject began start.offset latest) →
      (∀ stop, TriedAt preceding start.offset stop → Reached (start.at stop)) →
      attemptSequence rollback subject began preceding nodes start = ⟨.ok outcome, final⟩ →
      ∃ middle, Reached middle ∧ AllDerive subject nodes middle final
  | [], _, _, _, _, _, reached, found => by
    rw [attemptSequence, success_eq_ok] at found
    exact ⟨start, reached _ (.inl rfl), found.2⟩
  | node :: rest, each, noGroup, after, inside, remembered, reached, found => by
    have ⟨inner, next, matched, later⟩ := attemptSequence_cons_eq_ok.1 found
    have element := each node List.mem_cons_self
    have alone := noGroup node List.mem_cons_self
    have known := remembers_of_orAfterGiveback (accounts_of_attemptWith node) after inside
      remembered matched
    have onward : began ≤ next.offset := Nat.le_trans known.began_le (Nat.sub_le _ _)
    have ⟨state, possible, derived⟩ := extends_of_element element alone
      (deriving_of_attemptWith node (.inl element) alone) after inside remembered reached matched
    -- the rest is reached past derivations of this node, from wherever the node may have begun
    have ⟨far, ⟨near, first, here⟩, further⟩ := derives_of_attemptSequence
      (fun state => ∃ near, Reached near ∧ node.Derives subject near state) rest
      (fun other member => each other (List.mem_cons_of_mem _ member))
      (fun other member => noGroup other (List.mem_cons_of_mem _ member)) onward
      known.accounts.stop_le (by intro latest isLatest; cases isLatest; exact known)
      (fun stop ends => ⟨state, possible, derived stop ends⟩) later
    exact ⟨near, first, far, here, further⟩

end

/-- In a compiled pattern without a group right before an end anchor, an attempt that succeeds goes
where the tree leads, from every offset and beside all captured texts; and so does every match that
a search finds, from nothing captured to what the match holds. -/
theorem derives_of_attempt_and_find (source : Text) (pattern : Pattern)
    (compiled : Pattern.compile source = .ok pattern) (noGroup : pattern.root.NoGroupAtEnd) :
    (∀ (subject : Array Char) (start final : State) (outcome : Outcome),
      start.offset ≤ subject.size →
      pattern.root.attempt subject start = ⟨.ok outcome, final⟩ →
      pattern.root.Derives subject start final) ∧
    ∀ (subject : Text) (found : Match), pattern.find subject = some found →
      pattern.root.Derives subject.toArray ⟨found.start, .empty⟩ ⟨found.stop, found.captures⟩ := by
  have shape := (Pattern.compile_compiled compiled).inPattern
  have derived : ∀ (subject : Array Char) (start final : State) (outcome : Outcome),
      start.offset ≤ subject.size →
      pattern.root.attempt subject start = ⟨.ok outcome, final⟩ →
      pattern.root.Derives subject start final :=
    fun _ _ _ _ inside matched =>
      deriving_of_attemptWith pattern.root shape noGroup inside matched _ (.inl rfl)
  refine ⟨derived, fun subject found matched => ?_⟩
  have ⟨within, here, _⟩ := Pattern.findWith_eq_some.1 matched
  have inside : found.start ≤ subject.toArray.size := by
    rw [List.size_toArray]
    exact within
  have ⟨outcome, state, attempted, shown⟩ := (Pattern.matchAt?_eq_some inside).1 here
  have reached := derived _ _ _ _ inside attempted
  rw [shown]
  exact reached

/-- In `(a+)b?b\1` the optional rune gives its round back, and the backreference stands for what the
group captured before. -/
theorem derives_of_given_back_round :
    ∃ pattern, Pattern.compile "(a+)b?b\\1".toList = .ok pattern ∧ pattern.root.NoGroupAtEnd ∧
      pattern.root.Derives "aabaa".toList.toArray ⟨0, .empty⟩
        ⟨5, Captures.empty.record 1 "aa".toList⟩ ∧
      pattern.root.Derives "caabaa".toList.toArray ⟨1, .empty⟩
        ⟨6, Captures.empty.record 1 "aa".toList⟩ := by
  let pattern : Pattern := ⟨"(a+)b?b\\1".toList,
    .sequence [.group 1 [.sequence [.repetition (.literal 'a') 1 none]],
      .repetition (.literal 'b') 0 (some 1), .literal 'b', .backreference 1], 1⟩
  have compiled : Pattern.compile "(a+)b?b\\1".toList = .ok pattern := rfl
  have noGroup : pattern.root.NoGroupAtEnd := fun inner member => by simp [pattern] at member
  have ⟨attempts, finds⟩ := derives_of_attempt_and_find _ pattern compiled noGroup
  exact ⟨pattern, compiled, noGroup, attempts _ _ _ (.consuming 5) (Nat.zero_le _) rfl,
    finds _ ⟨1, 6, "aabaa".toList, Captures.empty.record 1 "aa".toList⟩ rfl⟩

end PatternSearch.Node
