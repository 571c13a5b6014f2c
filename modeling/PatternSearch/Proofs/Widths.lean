import PatternSearch.Proofs.Reporting
import PatternSearch.Proofs.Spans

/-!
# Alternatives of equal width

A group takes the first of its branches that matches and is never asked for another one. In general
this loses matches: `(a|ab)c` finds nothing in `abc`. It loses none where the branches of every group
match equally many runes, since then it makes no difference to the elements behind a group which of
its branches matched.

`Node.width` counts the runes that a tree without quantifiers matches, and `Node.Rigid` says that the
count does not depend on the branches taken. A span of a rigid tree ends where its width says
(`stop_eq_of_spans`), so the engine ends there as well, and it succeeds wherever there is a span
(`attempt_of_spans`). Main statement: a search for such a pattern finds something exactly when there
is a span, and begins at the least start of one (`find_isLeast_of_equalWidths`).
-/
namespace PatternSearch.Node

open Attempt

/-! ## Widths -/

mutual

/-- The number of runes that a tree without quantifiers matches when every group takes its first
branch. -/
def width : Node → Nat
  | .literal _ | .ofClass _ | .set _ _ => 1
  | .startAnchor node => node.width
  | .endAnchor node => node.width
  | .group _ branches => firstWidth branches
  | .sequence nodes => rowWidth nodes
  | .repetition _ _ _ | .backreference _ => 0

/-- The width of the first of some branches. -/
def firstWidth : List Node → Nat
  | [] => 0
  | branch :: _ => branch.width

/-- The width of nodes one after another. -/
def rowWidth : List Node → Nat
  | [] => 0
  | node :: rest => node.width + rowWidth rest

end

/-- No part of the tree is a repetition. -/
def QuantifierFree (tree : Node) : Prop :=
  ∀ node min max, .repetition node min max ∉ tree.parts

/-- The branches of each numbered group in the tree have one width. -/
def EqualWidths (tree : Node) : Prop :=
  ∀ index branches, .group index branches ∈ tree.parts → 1 ≤ index →
    ∀ first ∈ branches, ∀ second ∈ branches, first.width = second.width

/-- A tree that matches the same number of runes wherever it matches. -/
structure Rigid (tree : Node) : Prop where
  /-- Nothing in it is repeated. -/
  unquantified : tree.QuantifierFree
  /-- Nothing in it depends on captured texts. -/
  unreferenced : tree.BackreferenceFree
  /-- All branches of a group in it are as wide as the first one. -/
  equal : ∀ index branches, .group index branches ∈ tree.parts →
    ∀ branch ∈ branches, branch.width = firstWidth branches

/-- What is inside a rigid tree is rigid. -/
theorem Rigid.of_parts {outer inner : Node} (rigid : outer.Rigid)
    (inside : inner.parts ⊆ outer.parts) : inner.Rigid :=
  ⟨fun node min max member => rigid.unquantified node min max (inside member),
    rigid.unreferenced.of_parts inside,
    fun index branches member => rigid.equal index branches (inside member)⟩

/-- What a rigid start anchor anchors is rigid. -/
theorem Rigid.of_startAnchor {node : Node} (rigid : (startAnchor node).Rigid) : node.Rigid :=
  rigid.of_parts (parts_subset_startAnchor node)

/-- What a rigid end anchor anchors is rigid. -/
theorem Rigid.of_endAnchor {node : Node} (rigid : (endAnchor node).Rigid) : node.Rigid :=
  rigid.of_parts (parts_subset_endAnchor node)

/-- The branches of a rigid group are rigid. -/
theorem Rigid.of_group {index : Nat} {branches : List Node} (rigid : (group index branches).Rigid) :
    ∀ branch ∈ branches, branch.Rigid :=
  fun _ member => rigid.of_parts (parts_subset_group index member)

/-- The nodes of a rigid sequence are rigid. -/
theorem Rigid.of_sequence {nodes : List Node} (rigid : (sequence nodes).Rigid) :
    ∀ node ∈ nodes, node.Rigid :=
  fun _ member => rigid.of_parts (parts_subset_sequence member)

/-- The branches of a rigid group are as wide as the group. -/
theorem Rigid.width_of_branch {index : Nat} {branches : List Node}
    (rigid : (group index branches).Rigid) {branch : Node} (member : branch ∈ branches) :
    branch.width = (group index branches).width := by
  have equal := rigid.equal index branches (mem_parts_self _) branch member
  rw [width, equal]

variable {rollback : Rollback} {subject : Array Char}

mutual

/-- A span of a rigid tree is as long as the tree is wide. -/
theorem stop_eq_of_spans :
    (node : Node) → node.Rigid → ∀ {start stop : Nat}, node.Spans subject start stop →
      stop = start + node.width
  | .literal _, _, _, _, spanned | .ofClass _, _, _, _, spanned
  | .set _ _, _, _, _, spanned => spanned.1
  | .startAnchor node, rigid, _, _, spanned =>
    stop_eq_of_spans node rigid.of_startAnchor spanned.2
  | .endAnchor node, rigid, _, _, spanned =>
    stop_eq_of_spans node rigid.of_endAnchor spanned.1
  | .repetition node min max, rigid, _, _, _ =>
    absurd (mem_parts_self _) (rigid.unquantified node min max)
  | .group _ branches, rigid, _, _, spanned =>
    stop_eq_of_someSpans branches rigid.of_group (fun _ => rigid.width_of_branch) spanned
  | .backreference _, _, _, _, spanned => spanned.elim
  | .sequence nodes, rigid, _, _, spanned => stop_eq_of_allSpan nodes rigid.of_sequence spanned

/-- A span of rigid branches that are equally wide is as long as they are wide. -/
theorem stop_eq_of_someSpans {common : Nat} :
    (branches : List Node) → (∀ branch ∈ branches, branch.Rigid) →
      (∀ branch ∈ branches, branch.width = common) →
      ∀ {start stop : Nat}, SomeSpans subject branches start stop → stop = start + common
  | [], _, _, _, _, spanned => spanned.elim
  | branch :: rest, rigid, equal, start, stop, spanned => by
    rcases spanned with here | later
    · have long := stop_eq_of_spans branch (rigid branch List.mem_cons_self) here
      rw [long, equal branch List.mem_cons_self]
    · exact stop_eq_of_someSpans rest (fun other member => rigid other (List.mem_cons_of_mem _ member))
        (fun other member => equal other (List.mem_cons_of_mem _ member)) later

/-- Spans of rigid trees one after another are as long as the trees are wide together. -/
theorem stop_eq_of_allSpan :
    (nodes : List Node) → (∀ node ∈ nodes, node.Rigid) → ∀ {start stop : Nat},
      AllSpan subject nodes start stop → stop = start + rowWidth nodes
  | [], _, _, _, spanned => spanned.symm
  | node :: rest, rigid, start, stop, ⟨middle, here, later⟩ => by
    have first := stop_eq_of_spans node (rigid node List.mem_cons_self) here
    have behind := stop_eq_of_allSpan rest
      (fun other member => rigid other (List.mem_cons_of_mem _ member)) later
    rw [rowWidth]
    omega

end

/-! ## No match is lost -/

/-- A step succeeds wherever a relation leads from the offset at which it begins to another one in the
subject. -/
def Succeeds (subject : Array Char) (Leads : Nat → Nat → Prop) (step : State → Attempt) : Prop :=
  ∀ ⦃start : State⦄ ⦃stop : Nat⦄, Leads start.offset stop → stop ≤ subject.size →
    ∃ outcome final, step start = ⟨.ok outcome, final⟩

/-- A rune is matched wherever its node spans it. -/
theorem succeeds_of_rune (node : Node) (single : node.isQuantifiable = true) :
    Succeeds subject (RuneSpans subject node) (node.attemptWith rollback subject) := by
  intro start stop spanned _
  have ⟨_, found, present, accepted⟩ := spanned
  refine ⟨.consuming 1, start.at (start.offset + 1), ?_⟩
  rw [attemptWith_of_isQuantifiable single, restoring_eq_ok, rune_eq_ok]
  exact ⟨found, present, accepted, rfl, rfl⟩

/-- Where a rigid tree is known to succeed, it ends at the end of the span. -/
theorem ends_of_succeeds {node : Node} (rigid : node.Rigid) {start : State} {stop : Nat}
    (succeeds : Succeeds subject (node.Spans subject) (node.attemptWith rollback subject))
    (spanned : node.Spans subject start.offset stop) (inside : stop ≤ subject.size) :
    ∃ outcome final, node.attemptWith rollback subject start = ⟨.ok outcome, final⟩ ∧
      final.offset = stop := by
  have ⟨outcome, final, found⟩ := succeeds spanned inside
  have long := stop_eq_of_spans node rigid spanned
  have within : start.offset ≤ subject.size := by omega
  have reached : node.Spans subject start.offset final.offset :=
    spanning_of_attemptWith node rigid.unreferenced within found _ (.inl rfl)
  have same := stop_eq_of_spans node rigid reached
  exact ⟨outcome, final, found, by omega⟩

mutual

/-- The engine succeeds wherever a rigid tree has a span. -/
theorem attempt_of_spans :
    (node : Node) → node.Rigid →
      Succeeds subject (node.Spans subject) (node.attemptWith rollback subject)
  | .literal own, _ => succeeds_of_rune (.literal own) rfl
  | .ofClass kind, _ => succeeds_of_rune (.ofClass kind) rfl
  | .set members negated, _ => succeeds_of_rune (.set members negated) rfl
  | .startAnchor node, rigid => fun start stop spanned inside => by
    have ⟨first, inner⟩ := spanned
    have ⟨outcome, final, found⟩ := attempt_of_spans node rigid.of_startAnchor inner inside
    exact ⟨outcome, final, startAnchor_eq_ok.2 ⟨first, found⟩⟩
  | .endAnchor node, rigid => fun start stop spanned inside => by
    have ⟨inner, ended⟩ := spanned
    have ⟨outcome, final, found, reached⟩ := ends_of_succeeds rigid.of_endAnchor
      (attempt_of_spans node rigid.of_endAnchor) inner inside
    have atEnd : subject.size ≤ final.offset := by omega
    exact ⟨.consuming outcome.consumed, final, endAnchor_eq_ok.2 ⟨outcome, found, atEnd, rfl⟩⟩
  | .repetition node min max, rigid => absurd (mem_parts_self _) (rigid.unquantified node min max)
  | .group index branches, rigid => fun start stop spanned inside => by
    have ⟨outcome, final, found⟩ := attempt_of_someSpans index branches rigid.of_group spanned inside
    exact ⟨outcome, final, group_eq_ok.2 found⟩
  | .backreference _, _ => fun _ _ spanned _ => spanned.elim
  | .sequence nodes, rigid => fun start stop spanned inside => by
    have ⟨outcome, final, found⟩ := attempt_of_allSpan start.offset none nodes rigid.of_sequence
      spanned inside
    exact ⟨outcome, final, sequence_eq_ok.2 found⟩

/-- Rigid branches, whether or not they are equally wide, succeed wherever one of them has a span:
each branch is tried from the same place. -/
theorem attempt_of_someSpans (index : Nat) :
    (branches : List Node) → (∀ branch ∈ branches, branch.Rigid) →
      Succeeds subject (SomeSpans subject branches) (attemptBranches rollback subject index branches)
  | [], _ => fun _ _ spanned _ => spanned.elim
  | branch :: rest, rigid => fun start stop spanned inside => by
    cases tried : branch.attemptWith rollback subject start with
    | mk result reached =>
      cases result with
      | ok inner =>
        exact ⟨_, _, attemptBranches_cons_eq_ok.2 (.inl ⟨inner, reached, tried, rfl, rfl⟩)⟩
      | error mismatch =>
        rcases spanned with here | later
        · have ⟨outcome, final, found⟩ :=
            attempt_of_spans branch (rigid branch List.mem_cons_self) here inside
          rw [tried] at found
          cases found
        · have ⟨outcome, final, found⟩ := attempt_of_someSpans index rest
            (fun other member => rigid other (List.mem_cons_of_mem _ member)) later inside
          exact ⟨outcome, final, attemptBranches_cons_eq_ok.2 (.inr ⟨mismatch, reached, tried, found⟩)⟩

/-- Rigid trees one after another succeed wherever they have spans that follow on each other: whichever
branches matched, the next tree begins where the next span does. -/
theorem attempt_of_allSpan (began : Nat) (preceding : Option Preceding) :
    (nodes : List Node) → (∀ node ∈ nodes, node.Rigid) →
      Succeeds subject (AllSpan subject nodes)
        (attemptSequence rollback subject began preceding nodes)
  | [], _ => fun start _ _ _ => ⟨.consuming (start.offset - began), start, rfl⟩
  | node :: rest, rigid => fun start stop spanned inside => by
    have ⟨middle, here, later⟩ := spanned
    have others : ∀ other ∈ rest, other.Rigid :=
      fun other member => rigid other (List.mem_cons_of_mem _ member)
    have behind := stop_eq_of_allSpan rest others later
    have within : middle ≤ subject.size := by omega
    have own := rigid node List.mem_cons_self
    have ⟨inner, next, found, reached⟩ := ends_of_succeeds own (attempt_of_spans node own) here within
    rw [← reached] at later
    have ⟨outcome, final, matched⟩ := attempt_of_allSpan began
      (some ⟨next.offset - inner.consumed, inner⟩) rest others later inside
    exact ⟨outcome, final,
      attemptSequence_cons_eq_ok.2 ⟨inner, next, orAfterGiveback_of_eq_ok found, matched⟩⟩

end

/-! ## Searches -/

/-- A group stands under its index. -/
theorem index_mem_indices {tree : Node} {index : Nat} {branches : List Node}
    (member : .group index branches ∈ tree.parts) : index ∈ tree.indices :=
  List.mem_filterMap.2 ⟨.group index branches, member, rfl⟩

/-- A tree is rigid when its groups are numbered and have branches of one width each. -/
theorem rigid_of_equalWidths {tree : Node} (unquantified : tree.QuantifierFree)
    (unreferenced : tree.BackreferenceFree) (equal : tree.EqualWidths)
    (numbered : ∀ index ∈ tree.indices, 1 ≤ index) : tree.Rigid := by
  refine ⟨unquantified, unreferenced, fun index branches member branch isBranch => ?_⟩
  have own := equal index branches member (numbered index (index_mem_indices member))
  cases branches with
  | nil => cases isBranch
  | cons first rest => exact own branch isBranch first List.mem_cons_self

end Node

namespace Pattern

open Node

/-- Wherever the tree of a compiled pattern of equal widths has a span, an attempt succeeds. The
branches of a top-level alternation may differ in width, since nothing stands behind them. -/
theorem succeeds_of_equalWidths {rollback : Rollback} {subject : Array Char} {source : Text}
    {pattern : Pattern} (compiled : compile source = .ok pattern)
    (unquantified : pattern.root.QuantifierFree) (unreferenced : pattern.root.BackreferenceFree)
    (equal : pattern.root.EqualWidths) :
    Succeeds subject (pattern.root.Spans subject) (pattern.root.attemptWith rollback subject) := by
  have positive : ∀ index ∈ List.range' 1 pattern.groupCount, 1 ≤ index :=
    fun index member => (List.mem_range'_1.1 member).1
  have ⟨_, wellFormed⟩ := written_of_parse (parse_of_compile compiled)
  generalize pattern.root = tree at *
  cases wellFormed with
  | branch row numbered =>
    rw [← numbered] at positive
    exact attempt_of_spans tree (rigid_of_equalWidths unquantified unreferenced equal positive)
  | @alternation branches _ several each numbered =>
    have rigid : ∀ branch ∈ branches, branch.Rigid := by
      intro branch member
      have inside := parts_subset_group 0 member
      apply rigid_of_equalWidths
      · exact fun node min max part => unquantified node min max (inside part)
      · exact unreferenced.of_parts inside
      · exact fun index others part => equal index others (inside part)
      · intro index own
        apply positive
        rw [← numbered]
        exact List.mem_flatMap.2 ⟨branch, member, own⟩
    have each : Succeeds subject (SomeSpans subject branches)
        (attemptBranches rollback subject 0 branches) := attempt_of_someSpans 0 branches rigid
    intro start stop spanned inside
    have ⟨outcome, final, found⟩ := each spanned inside
    exact ⟨outcome, final, group_eq_ok.2 found⟩

/-- A pattern of equal widths matches exactly where it has a span: what the engine matches is a span, and
wherever there is a span it succeeds. -/
theorem matchesAt_iff_exists_span {source : Text} {pattern : Pattern}
    (compiled : compile source = .ok pattern) (unquantified : pattern.root.QuantifierFree)
    (unreferenced : pattern.root.BackreferenceFree) (equal : pattern.root.EqualWidths)
    {subject : Text} {start : Nat} :
    pattern.MatchesAt subject start ↔ ∃ stop, start ≤ stop ∧ stop ≤ subject.length ∧
      pattern.root.Spans subject.toArray start stop := by
  have size : subject.toArray.size = subject.length := List.size_toArray
  constructor
  · intro ⟨inside, outcome, final, matched⟩
    have within : start ≤ subject.toArray.size := by omega
    have accounts := accounts_of_attemptWith pattern.root within matched
    have stopped : final.offset = start + outcome.consumed := accounts.stop_eq
    have bounded := accounts.stop_le
    have spanned : pattern.root.Spans subject.toArray start final.offset :=
      spanning_of_attemptWith pattern.root unreferenced within matched _ (.inl rfl)
    exact ⟨final.offset, by omega, by omega, spanned⟩
  · intro ⟨stop, ordered, inside, spanned⟩
    have within : stop ≤ subject.toArray.size := by omega
    have succeeds : Succeeds subject.toArray (pattern.root.Spans subject.toArray)
        (pattern.root.attemptWith .offset subject.toArray) :=
      succeeds_of_equalWidths compiled unquantified unreferenced equal
    exact ⟨by omega, @succeeds ⟨start, .empty⟩ stop spanned within⟩

/-- A search for a pattern without quantifiers and backreferences, in which the branches of each
numbered group have one width, finds something exactly when the pattern has a span in the subject,
and what it finds begins at the least start of a span. -/
theorem find_isLeast_of_equalWidths (source : Text) (pattern : Pattern)
    (compiled : compile source = .ok pattern) (unquantified : pattern.root.QuantifierFree)
    (unreferenced : pattern.root.BackreferenceFree) (equal : pattern.root.EqualWidths)
    (subject : Text) :
    ((pattern.find subject).isSome = true ↔
      ∃ start stop, start ≤ stop ∧ stop ≤ subject.length ∧
        pattern.root.Spans subject.toArray start stop) ∧
    ∀ found, pattern.find subject = some found →
      IsLeast {start | ∃ stop, start ≤ stop ∧ stop ≤ subject.length ∧
        pattern.root.Spans subject.toArray start stop} found.start := by
  have places : ∀ start, pattern.MatchesAt subject start ↔ ∃ stop, start ≤ stop ∧
      stop ≤ subject.length ∧ pattern.root.Spans subject.toArray start stop :=
    fun start => matchesAt_iff_exists_span compiled unquantified unreferenced equal
  constructor
  · rw [find_isSome_iff_matchesAt]
    exact exists_congr places
  · intro found isFound
    have least := isLeast_of_find isFound
    have same : {start | pattern.MatchesAt subject start} =
        {start | ∃ stop, start ≤ stop ∧ stop ≤ subject.length ∧
          pattern.root.Spans subject.toArray start stop} := Set.ext places
    rwa [same] at least

/-- In `x((a|.)b|^.c|yz$).|q` the first branch of the outer group takes `ab` in `xxabz`, and the rune
behind the group finds its place, as it would behind every other branch. -/
theorem find_isLeast_of_nested_widths :
    ∃ pattern, compile "x((a|.)b|^.c|yz$).|q".toList = .ok pattern ∧
      pattern.root.QuantifierFree ∧ pattern.root.BackreferenceFree ∧ pattern.root.EqualWidths ∧
      IsLeast {start | ∃ stop, start ≤ stop ∧ stop ≤ "xxabz".toList.length ∧
        pattern.root.Spans "xxabz".toList.toArray start stop} 1 := by
  let inner : Node := .group 2 [.sequence [.literal 'a'], .sequence [.ofClass .any]]
  let outer : Node := .group 1 [.sequence [inner, .literal 'b'],
    .sequence [.startAnchor (.ofClass .any), .literal 'c'],
    .sequence [.literal 'y', .endAnchor (.literal 'z')]]
  let tree : Node := .group 0 [.sequence [.literal 'x', outer, .ofClass .any],
    .sequence [.literal 'q']]
  let pattern : Pattern := ⟨"x((a|.)b|^.c|yz$).|q".toList, tree, 2⟩
  have compiled : compile "x((a|.)b|^.c|yz$).|q".toList = .ok pattern := rfl
  have unquantified : pattern.root.QuantifierFree := by
    simp [QuantifierFree, pattern, tree, outer, inner]
  have unreferenced : pattern.root.BackreferenceFree := by
    simp [BackreferenceFree, pattern, tree, outer, inner]
  have equal : pattern.root.EqualWidths := by
    intro index branches member numbered
    simp [pattern, tree, outer, inner] at member
    rcases member with ⟨zero, _⟩ | ⟨_, same⟩ | ⟨_, same⟩
    · omega
    · rw [same]
      decide
    · rw [same]
      decide
  obtain ⟨_, least⟩ := find_isLeast_of_equalWidths _ pattern compiled unquantified unreferenced equal
    "xxabz".toList
  have isFound : pattern.find "xxabz".toList = some ⟨1, 5, "xabz".toList,
      ((Captures.empty.record 2 "a".toList).record 1 "ab".toList).record 0 "xabz".toList⟩ := by
    decide +kernel
  exact ⟨pattern, compiled, unquantified, unreferenced, equal, least _ isFound⟩

end Pattern
end PatternSearch
