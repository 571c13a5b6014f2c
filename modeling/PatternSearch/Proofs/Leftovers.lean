import PatternSearch.Proofs.Finding
import PatternSearch.Proofs.Restoring

/-!
# Texts left over by failed end anchors

When a group has matched before an end anchor and the subject goes on, the anchor fails, but the
texts captured inside the group stay. They matter only when the group is then tried again, because
it stands right behind a repetition that can give rounds back (`Retried`). What the later try does
not overwrite is left over (`Leftover`): a group is bound that took no part in the match.

The yardstick is the stricter rule under which every failed attempt also puts the captured texts
back. The two rules are run side by side. `Captures.Covers` relates the captured texts of the two
runs: they differ only where the run of the engine has a leftover and the other run has nothing.

Main statement: where no backreference can read a leftover (`LeftoversUnread`), both rules find a
match at the same place, and it is the same match exactly when no group is bound by a leftover alone
(`find_eq_strict_iff`). Otherwise even the places may differ (`find_ne_strict`).
-/
namespace PatternSearch

namespace Captures

/-- A table that answers look-ups like another one, except that at some indices it may hold a text
where the other holds none. -/
def Covers (apart : Nat → Prop) (left right : Captures) : Prop :=
  ∀ index, left.get? index = right.get? index ∨ (apart index ∧ right.get? index = none)

variable {apart wider : Nat → Prop} {left right : Captures}

/-- A table differs nowhere from itself. -/
theorem Covers.refl (apart : Nat → Prop) (captures : Captures) : captures.Covers apart captures :=
  fun _ => .inl rfl

/-- Tables may differ at further indices. -/
theorem Covers.mono (covers : left.Covers apart right) (more : ∀ index, apart index → wider index) :
    left.Covers wider right := by
  intro index
  rcases covers index with same | ⟨inside, none⟩
  · exact .inl same
  · exact .inr ⟨more index inside, none⟩

/-- Recording a text in both tables keeps them related. -/
theorem Covers.record (covers : left.Covers apart right) (index : Nat) (text : Text) :
    (left.record index text).Covers apart (right.record index text) := by
  intro other
  rw [get?_record, get?_record]
  by_cases same : other = index
  · rw [if_pos same, if_pos same]
    exact .inl rfl
  · rw [if_neg same, if_neg same]
    exact covers other

/-- An index that the second table holds need not be excepted. -/
theorem Covers.narrow {own : Nat}
    (covers : left.Covers (fun index => apart index ∨ index = own) right)
    (bound : (right.get? own).isSome = true) : left.Covers apart right := by
  intro index
  rcases covers index with same | ⟨inside | rfl, none⟩
  · exact .inl same
  · exact .inr ⟨inside, none⟩
  · rw [none] at bound
    cases bound

/-- The first table may change where the second one holds nothing. -/
theorem Covers.leave {changed : Nat → Prop} {later : Captures} (covers : left.Covers apart right)
    (agree : later.AgreeOff changed left) (excepted : ∀ index, changed index → apart index)
    (unbound : ∀ index, changed index → right.get? index = none) : later.Covers apart right := by
  intro index
  by_cases inside : changed index
  · exact .inr ⟨excepted index inside, unbound index inside⟩
  · rw [agree index inside]
    exact covers index

end Captures

namespace Attempt

/-- Two attempts with the same result at the same offset and, when they succeed, related captured
texts. -/
inductive Alike (apart : Nat → Prop) : Attempt → Attempt → Prop
  /-- Both succeed. -/
  | success {outcome : Outcome} {offset : Nat} {left right : Captures}
    (covers : left.Covers apart right) :
    Alike apart ⟨.ok outcome, ⟨offset, left⟩⟩ ⟨.ok outcome, ⟨offset, right⟩⟩
  /-- Both fail. -/
  | failure (mismatch : Mismatch) (offset : Nat) (left right : Captures) :
    Alike apart ⟨.error mismatch, ⟨offset, left⟩⟩ ⟨.error mismatch, ⟨offset, right⟩⟩

variable {apart wide : Nat → Prop} {subject : Array Char}

/-- Alike attempts, taken apart. -/
theorem Alike.cases {first second : Attempt} (alike : first.Alike apart second) :
    (∃ outcome offset left right, first = ⟨.ok outcome, ⟨offset, left⟩⟩ ∧
      second = ⟨.ok outcome, ⟨offset, right⟩⟩ ∧ left.Covers apart right) ∨
    ∃ mismatch offset left right, first = ⟨.error mismatch, ⟨offset, left⟩⟩ ∧
      second = ⟨.error mismatch, ⟨offset, right⟩⟩ := by
  cases alike with
  | success covers => exact .inl ⟨_, _, _, _, rfl, rfl, covers⟩
  | failure mismatch offset left right => exact .inr ⟨_, _, _, _, rfl, rfl⟩

/-- Attempts stay alike when each puts back what its rule says. -/
theorem Alike.restoring {first second : Attempt} (alike : first.Alike apart second) (offset : Nat)
    (left right : Captures) :
    (restoring .offset ⟨offset, left⟩ first).Alike apart
      (restoring .everything ⟨offset, right⟩ second) := by
  cases alike with
  | success covers => exact .success covers
  | failure mismatch reached first second => exact .failure mismatch offset first right

/-- Matching a text is alike beside related captured texts. -/
theorem alike_text {wanted : Text} {offset : Nat} {left right : Captures}
    (covers : left.Covers apart right) :
    (text subject wanted ⟨offset, left⟩).Alike apart (text subject wanted ⟨offset, right⟩) := by
  unfold text
  cases text.compare subject wanted offset with
  | ok stop => exact .success covers
  | error mismatch => exact .failure mismatch offset left right

section Retries

variable {step strict : State → Attempt} {right : Captures}

/-- Two steps that can be tried one after another at several offsets side by side. Wherever they
begin they are alike; and where they fail the first one leaves captured texts beside which they can
be tried again, while the second one changes nothing. -/
structure Retriable (subject : Array Char) (apart wide : Nat → Prop) (right : Captures)
    (step strict : State → Attempt) : Prop where
  /-- They are alike. -/
  alike : ∀ offset left, offset ≤ subject.size → left.Covers wide right →
    (step ⟨offset, left⟩).Alike apart (strict ⟨offset, right⟩)
  /-- The first one may leave captured texts when it fails. -/
  leaves : ∀ offset left mismatch final, offset ≤ subject.size → left.Covers wide right →
    step ⟨offset, left⟩ = ⟨.error mismatch, final⟩ → final.captures.Covers wide right
  /-- The second one puts everything back. -/
  restores : ∀ offset mismatch final, strict ⟨offset, right⟩ = ⟨.error mismatch, final⟩ →
    final = ⟨offset, right⟩

/-- Such steps are alike when they are tried at some offsets until they succeed. -/
theorem alike_atFirst (retriable : Retriable subject apart wide right step strict) (ended : Nat)
    {offsets : List Nat} (inside : ∀ offset ∈ offsets, offset ≤ subject.size) {offset : Nat}
    {left : Captures} (covers : left.Covers wide right) :
    (atFirst step ended offsets ⟨offset, left⟩).Alike apart
      (atFirst strict ended offsets ⟨offset, right⟩) := by
  induction offsets generalizing offset left with
  | nil => exact .failure .givebackExhausted ended left right
  | cons here rest ih =>
    have within := inside here List.mem_cons_self
    rw [atFirst, atFirst]
    simp only [State.at]
    rcases (retriable.alike here left within covers).cases with
      ⟨outcome, reached, later, kept, first, second, covers⟩ |
      ⟨mismatch, reached, later, kept, first, second⟩
    · rw [first, second]
      exact .success covers
    · have after := retriable.leaves here left mismatch _ within covers first
      cases retriable.restores here mismatch _ second
      rw [first, second]
      exact ih (fun other member => inside other (List.mem_cons_of_mem _ member)) after

/-- Steps that are alike, and that can be tried again if rounds can be given back, are alike when
they are tried with giving back. -/
theorem alike_orAfterGiveback {preceding : Option Preceding} {offset : Nat} {left : Captures}
    (here : (step ⟨offset, left⟩).Alike apart (strict ⟨offset, right⟩))
    (again : ∀ latest ∈ preceding, 0 < latest.outcome.giveback →
      (∀ stop ∈ latest.shorterEnds, stop ≤ subject.size) ∧
      ∃ wide, left.Covers wide right ∧ Retriable subject apart wide right step strict)
    (within : offset ≤ subject.size) :
    (orAfterGiveback step preceding ⟨offset, left⟩).Alike apart
      (orAfterGiveback strict preceding ⟨offset, right⟩) := by
  rcases here.cases with
    ⟨outcome, reached, later, kept, first, second, covers⟩ |
    ⟨mismatch, reached, later, kept, first, second⟩
  · simp only [orAfterGiveback, first, second]
    exact .success covers
  · simp only [orAfterGiveback, first, second]
    cases preceding with
    | none => exact .failure mismatch reached later kept
    | some latest =>
      by_cases gives : 0 < latest.outcome.giveback
      · have ⟨inside, wide, covers, retriable⟩ := again latest rfl gives
        have after := retriable.leaves offset left mismatch _ within covers first
        cases retriable.restores offset mismatch _ second
        simp only [if_pos gives]
        exact alike_atFirst retriable _ inside after
      · simp only [if_neg gives]
        exact .failure mismatch reached later kept

end Retries

end Attempt

namespace Node

open Attempt

/-- A group with these branches stands before an end anchor, right behind an element that may give
rounds back. -/
def Retried (tree : Node) (index : Nat) (branches : List Node) : Prop :=
  ∃ nodes latest anchored, .sequence nodes ∈ tree.parts ∧
    [latest, .endAnchor anchored] <:+: nodes ∧ latest.givesBack = true ∧
    anchored.unanchored = .group index branches

/-- A group stands inside such a group, so its text may be left over. -/
def Leftover (tree : Node) (index : Nat) : Prop :=
  ∃ own branches, tree.Retried own branches ∧ index ∈ branches.flatMap indices

mutual

/-- No backreference reads a doubtful index: one that it names is bound, by an element in front of it
in a sequence, before it is tried. -/
def Unread : (doubtful : Nat → Prop) → Node → Prop
  | doubtful, .startAnchor node => node.Unread doubtful
  | doubtful, .endAnchor node => node.Unread doubtful
  | doubtful, .repetition node _ _ => node.Unread doubtful
  | doubtful, .group _ branches => EachUnread doubtful branches
  | doubtful, .backreference index => ¬ doubtful index
  | doubtful, .sequence nodes => RowUnread doubtful nodes
  | _, _ => True

/-- So it is in each branch of a group. -/
def EachUnread : (doubtful : Nat → Prop) → List Node → Prop
  | _, [] => True
  | doubtful, branch :: rest => branch.Unread doubtful ∧ EachUnread doubtful rest

/-- So it is in a sequence, where no index is doubtful behind an element that binds it. -/
def RowUnread : (doubtful : Nat → Prop) → List Node → Prop
  | _, [] => True
  | doubtful, node :: rest =>
    node.Unread doubtful ∧ RowUnread (fun index => doubtful index ∧ index ∉ node.binds) rest

end

/-- No backreference reads what may be left over: neither the text of a group inside a group that is
tried again, unless that group is bound anew before, nor inside a group that is tried again the text
of that group itself. -/
structure LeftoversUnread (tree : Node) : Prop where
  /-- Leftovers are not read. -/
  nested : tree.Unread tree.Leftover
  /-- A group that is tried again does not refer to itself. -/
  own : ∀ index branches, tree.Retried index branches →
    .backreference index ∉ branches.flatMap parts

/-- What may be left over in a tree is at some indices only, and no group that is tried again refers to
itself. -/
structure Confined (apart : Nat → Prop) (tree : Node) : Prop where
  /-- What may be left over is apart. -/
  nested : ∀ index branches, tree.Retried index branches →
    ∀ other ∈ branches.flatMap indices, apart other
  /-- A group that is tried again does not refer to itself. -/
  own : ∀ index branches, tree.Retried index branches →
    .backreference index ∉ branches.flatMap parts

variable {apart doubtful more : Nat → Prop} {subject : Array Char}

mutual

/-- Further indices may be doubtful if no backreference names them. -/
theorem Unread.further :
    (node : Node) → ∀ {doubtful more : Nat → Prop}, node.Unread doubtful →
      (∀ index, .backreference index ∈ node.parts → more index → doubtful index) →
      node.Unread more
  | .startAnchor node, _, _, unread, named => Unread.further node unread fun index member =>
    named index (parts_subset_startAnchor node member)
  | .endAnchor node, _, _, unread, named => Unread.further node unread fun index member =>
    named index (parts_subset_endAnchor node member)
  | .repetition node min max, _, _, unread, named => Unread.further node unread fun index member =>
    named index (parts_subset_repetition node min max member)
  | .group _ branches, _, _, unread, named =>
    EachUnread.further branches unread fun index _ member inside =>
      named index (parts_subset_group _ member inside)
  | .backreference index, _, _, unread, named =>
    fun doubtful => unread (named index (mem_parts_self _) doubtful)
  | .sequence nodes, _, _, unread, named =>
    RowUnread.further nodes unread fun index _ member inside =>
      named index (parts_subset_sequence member inside)
  | .literal _, _, _, _, _ | .ofClass _, _, _, _, _ | .set _ _, _, _, _, _ => trivial

/-- So they may in each branch of a group. -/
theorem EachUnread.further :
    (branches : List Node) → ∀ {doubtful more : Nat → Prop}, EachUnread doubtful branches →
      (∀ index, ∀ branch ∈ branches, .backreference index ∈ branch.parts → more index →
        doubtful index) → EachUnread more branches
  | [], _, _, _, _ => trivial
  | branch :: rest, _, _, ⟨here, later⟩, named =>
    ⟨Unread.further branch here fun index => named index branch List.mem_cons_self,
      EachUnread.further rest later fun index other member =>
        named index other (List.mem_cons_of_mem _ member)⟩

/-- So they may in a sequence, from each element on. -/
theorem RowUnread.further :
    (nodes : List Node) → ∀ {doubtful more : Nat → Prop}, RowUnread doubtful nodes →
      (∀ index, ∀ node ∈ nodes, .backreference index ∈ node.parts → more index →
        doubtful index) → RowUnread more nodes
  | [], _, _, _, _ => trivial
  | node :: rest, _, _, ⟨here, later⟩, named =>
    ⟨Unread.further node here fun index => named index node List.mem_cons_self,
      RowUnread.further rest later fun index other member inside ⟨isMore, off⟩ =>
        ⟨named index other (List.mem_cons_of_mem _ member) inside isMore, off⟩⟩

end

/-- A group that is tried again stands before an end anchor. -/
theorem Retried.mem_parts {tree : Node} {index : Nat} {branches : List Node}
    (retried : tree.Retried index branches) :
    ∃ anchored, .endAnchor anchored ∈ tree.parts ∧ anchored.unanchored = .group index branches := by
  have ⟨nodes, latest, anchored, member, neighbours, _, isGroup⟩ := retried
  have element : .endAnchor anchored ∈ nodes := neighbours.subset (by simp)
  exact ⟨anchored, parts_trans _ _ member _ (parts_subset_sequence element (mem_parts_self _)),
    isGroup⟩

/-- Leftovers are confined to their indices. -/
theorem LeftoversUnread.confined {tree : Node} (unread : tree.LeftoversUnread) :
    Confined tree.Leftover tree :=
  ⟨fun own branches retried _ member => ⟨own, branches, retried, member⟩, unread.own⟩

/-- What is confined in a tree is confined in what is inside it. -/
theorem Confined.of_parts {outer inner : Node} (confined : Confined apart outer)
    (inside : inner.parts ⊆ outer.parts) : Confined apart inner := by
  have retried : ∀ index branches, inner.Retried index branches → outer.Retried index branches := by
    intro index branches ⟨nodes, latest, anchored, member, others⟩
    exact ⟨nodes, latest, anchored, inside member, others⟩
  exact ⟨fun index branches again => confined.nested index branches (retried index branches again),
    fun index branches again => confined.own index branches (retried index branches again)⟩

/-- What is confined is confined to more indices. -/
theorem Confined.mono {wide : Nat → Prop} {tree : Node} (confined : Confined apart tree)
    (wider : ∀ index, apart index → wide index) : Confined wide tree :=
  ⟨fun index branches again other member =>
    wider other (confined.nested index branches again other member), confined.own⟩

/-- Anchors around a node are not backreferences. -/
theorem backreference_mem_unanchored {index : Nat} :
    (node : Node) → .backreference index ∈ node.parts → .backreference index ∈ node.unanchored.parts
  | .startAnchor node, member => by
    rw [parts_startAnchor] at member
    cases member with
    | tail _ inside => exact backreference_mem_unanchored node inside
  | .endAnchor node, member => by
    rw [parts_endAnchor] at member
    cases member with
    | tail _ inside => exact backreference_mem_unanchored node inside
  | .literal _, member | .ofClass _, member | .set _ _, member | .repetition _ _ _, member
  | .group _ _, member | .backreference _, member | .sequence _, member => member

/-- Anchors around a node are not groups. -/
theorem indices_unanchored : (node : Node) → node.unanchored.indices = node.indices
  | .startAnchor node => by rw [indices_startAnchor, ← indices_unanchored node, unanchored]
  | .endAnchor node => by rw [indices_endAnchor, ← indices_unanchored node, unanchored]
  | .literal _ | .ofClass _ | .set _ _ | .repetition _ _ _ | .group _ _ | .backreference _
  | .sequence _ => rfl

/-- A group that is tried again does not read its own text either. -/
theorem Unread.retry {nodes : List Node} {anchored : Node} {index : Nat}
    {branches : List Node} (confined : Confined apart (.sequence nodes))
    (retried : (sequence nodes).Retried index branches)
    (isGroup : anchored.unanchored = .group index branches)
    (unread : (endAnchor anchored).Unread doubtful) :
    (endAnchor anchored).Unread fun other => doubtful other ∨ other = index := by
  refine Unread.further _ unread fun other named => ?_
  rintro (inside | rfl)
  · exact inside
  · have deep := backreference_mem_unanchored _ named
    rw [unanchored, isGroup, parts_group] at deep
    cases deep with
    | tail _ deep => exact absurd deep (confined.own _ _ retried)

/-- Under both rules a tree is attempted alike, wherever the stricter run holds no text of its groups,
but one at every index that is apart and not doubtful. -/
def Parallel (subject : Array Char) (apart doubtful : Nat → Prop) (node : Node) : Prop :=
  ∀ offset left right, offset ≤ subject.size → left.Covers apart right →
    (∀ index, apart index → doubtful index ∨ Bound index right) →
    (∀ index ∈ node.indices, right.get? index = none) →
    (node.attemptWith .offset subject ⟨offset, left⟩).Alike apart
      (node.attemptWith .everything subject ⟨offset, right⟩)

/-- A uniform tree is attempted alike. -/
theorem Uniform.parallel {node : Node} (uniform : Uniform subject node) :
    Parallel subject apart doubtful node := by
  intro offset left right _ covers _ _
  have ⟨result, next, tried⟩ := uniform offset
  rw [tried, tried]
  cases result with
  | ok outcome => exact .success covers
  | error mismatch => exact .failure mismatch next left right

section Elements

variable {right : Captures}

/-- An element that restores its state can be tried again under both rules. -/
theorem retriable_of_restoring {node : Node} (element : Element node)
    (noGroupAtEnd : ∀ inner, node = .endAnchor inner → inner.unanchored.groupIndex? = none)
    (parallel : Parallel subject apart doubtful node)
    (settled : ∀ index, apart index → doubtful index ∨ Bound index right)
    (unbound : ∀ index ∈ node.indices, right.get? index = none) :
    Retriable subject apart apart right (node.attemptWith .offset subject)
      (node.attemptWith .everything subject) where
  alike offset left inside covers := parallel offset left right inside covers settled unbound
  leaves offset left mismatch final inside covers failed := by
    rw [state_of_failed_element element noGroupAtEnd inside failed]
    exact covers
  restores offset mismatch final failed := state_of_failed_everything failed

/-- A group before an end anchor can be tried again under both rules: what it leaves is apart, save
for its own text, which it overwrites when it matches. -/
theorem retriable_of_leaving {anchored : Node} {index : Nat} {branches : List Node}
    (isGroup : anchored.unanchored = .group index branches)
    (nested : ∀ other ∈ branches.flatMap indices, apart other)
    (parallel : Parallel subject (fun other => apart other ∨ other = index)
      (fun other => doubtful other ∨ other = index) (.endAnchor anchored))
    (settled : ∀ index, apart index → doubtful index ∨ Bound index right)
    (unbound : ∀ index ∈ (endAnchor anchored).indices, right.get? index = none) :
    Retriable subject apart (fun other => apart other ∨ other = index) right
      ((endAnchor anchored).attemptWith .offset subject)
      ((endAnchor anchored).attemptWith .everything subject) where
  alike offset left inside covers := by
    have settledToo : ∀ other, apart other ∨ other = index →
        (doubtful other ∨ other = index) ∨ Bound other right := by
      rintro other (before | own)
      · exact (settled other before).imp_left .inl
      · exact .inl (.inr own)
    rcases (parallel offset left right inside covers settledToo unbound).cases with
      ⟨outcome, reached, later, kept, first, second, after⟩ |
      ⟨mismatch, reached, later, kept, first, second⟩
    · have bound := bound_of_attemptWith (.endAnchor anchored) inside second index
        (mem_binds_of_unanchored _ isGroup)
      rw [first, second]
      exact .success (after.narrow bound)
    · rw [first, second]
      exact .failure mismatch reached later kept
  leaves offset left mismatch final inside covers failed := by
    have agree : ((endAnchor anchored).attemptWith .offset subject ⟨offset, left⟩).state.captures.AgreeOff
        (· ∈ (endAnchor anchored).indices) left := agreeOff_of_attemptWith inside
    rw [failed] at agree
    refine covers.leave agree (fun other member => ?_) unbound
    rw [indices_endAnchor, ← indices_unanchored, isGroup, indices_group] at member
    rcases List.mem_cons.1 member with same | deep
    · exact .inr same
    · exact .inl (nested other deep)
  restores offset mismatch final failed := state_of_failed_everything failed

/-- Every element can be tried again under both rules, if it is attempted alike and, where it is a
group before an end anchor, also beside a text of its own that is left over. -/
theorem retriable_of_element {node : Node} {left : Captures} (element : Element node)
    (parallel : Parallel subject apart doubtful node)
    (leaving : ∀ anchored index branches, node = .endAnchor anchored →
      anchored.unanchored = .group index branches →
      (∀ other ∈ branches.flatMap indices, apart other) ∧
        Parallel subject (fun other => apart other ∨ other = index)
          (fun other => doubtful other ∨ other = index) node)
    (covers : left.Covers apart right)
    (settled : ∀ index, apart index → doubtful index ∨ Bound index right)
    (unbound : ∀ index ∈ node.indices, right.get? index = none) :
    ∃ wide, left.Covers wide right ∧ Retriable subject apart wide right
      (node.attemptWith .offset subject) (node.attemptWith .everything subject) := by
  by_cases groupAtEnd : ∃ anchored index branches,
      node = .endAnchor anchored ∧ anchored.unanchored = .group index branches
  · have ⟨anchored, index, branches, isEnd, isGroup⟩ := groupAtEnd
    have ⟨nested, wider⟩ := leaving anchored index branches isEnd isGroup
    subst isEnd
    exact ⟨_, covers.mono fun _ => .inl, retriable_of_leaving isGroup nested wider settled unbound⟩
  · have noGroupAtEnd : ∀ inner, node = .endAnchor inner →
        inner.unanchored.groupIndex? = none := by
      intro inner isEnd
      cases isGroup : inner.unanchored with
      | group index branches => exact absurd ⟨inner, index, branches, isEnd, isGroup⟩ groupAtEnd
      | _ => rfl
    exact ⟨apart, covers, retriable_of_restoring element noGroupAtEnd parallel settled unbound⟩

/-- After an element has matched, an index that is apart is bound, or still doubtful and not bound by
the element. -/
theorem settled_of_orAfterGiveback {node : Node} {began offset reached : Nat}
    {preceding : Option Preceding} {outcome : Outcome} {kept : Captures} (after : began ≤ offset)
    (inside : offset ≤ subject.size)
    (remembered : ∀ latest ∈ preceding, Remembers subject began offset latest)
    (settled : ∀ index, apart index → doubtful index ∨ Bound index right)
    (found : orAfterGiveback (node.attemptWith .everything subject) preceding ⟨offset, right⟩ =
      ⟨.ok outcome, ⟨reached, kept⟩⟩) :
    ∀ index, apart index → (doubtful index ∧ index ∉ node.binds) ∨ Bound index kept := by
  intro index isApart
  have ⟨tried, place, stillBound, matched⟩ := orAfterGiveback_eq_ok
    (fun captures => Bound index right → Bound index captures) ?_ id found
  · have between := between_of_triedAt after inside remembered place
    by_cases binds : index ∈ node.binds
    · exact .inr (bound_of_attemptWith node between.2 matched index binds)
    · rcases settled index isApart with isDoubtful | bound
      · exact .inl ⟨isDoubtful, binds⟩
      · have keeps : Bound index (node.attemptWith .everything subject tried).state.captures :=
          keeps_of_attemptWith node (keptByRecording_bound subject index _) tried (Nat.zero_le _)
            between.2 (stillBound bound)
        rw [matched] at keeps
        exact .inr keeps
  · intro before mismatch failed _ stillBound stepped
    rw [state_of_failed_everything stepped]
    exact stillBound

end Elements

mutual

/-- A tree of a pattern is attempted alike under both rules when no backreference in it reads a
leftover. -/
theorem parallel_of_attemptWith :
    (node : Node) → InPattern node → ∀ {apart doubtful}, Confined apart node →
      node.Unread doubtful → node.indices.Nodup → Parallel subject apart doubtful node
  | .literal own, _, _, _, _, _, _ => (uniform_of_rune (.literal own) rfl).parallel
  | .ofClass kind, _, _, _, _, _, _ => (uniform_of_rune (.ofClass kind) rfl).parallel
  | .set members negated, _, _, _, _, _, _ => (uniform_of_rune (.set members negated) rfl).parallel
  | .startAnchor node, shape, _, _, confined, unread, distinct => by
    intro offset left right inside covers settled unbound
    rw [indices_startAnchor] at distinct unbound
    have here := parallel_of_attemptWith node shape.of_startAnchor
      (confined.of_parts (parts_subset_startAnchor node)) unread distinct offset left right inside
      covers settled unbound
    rw [attemptWith, attemptWith]
    refine Alike.restoring ?_ offset left right
    by_cases first : offset = 0
    · simp only [if_pos first]
      exact here
    · simp only [if_neg first]
      exact .failure .notAtStart offset left right
  | .endAnchor node, shape, _, _, confined, unread, distinct => by
    intro offset left right inside covers settled unbound
    rw [indices_endAnchor] at distinct unbound
    have here := parallel_of_attemptWith node (.inl shape.of_endAnchor)
      (confined.of_parts (parts_subset_endAnchor node)) unread distinct offset left right inside
      covers settled unbound
    rw [attemptWith, attemptWith]
    refine Alike.restoring ?_ offset left right
    rcases here.cases with
      ⟨outcome, reached, later, kept, first, second, after⟩ |
      ⟨mismatch, reached, later, kept, first, second⟩
    · simp only [first, second]
      by_cases ended : subject.size ≤ reached
      · simp only [if_pos ended]
        exact .success after
      · simp only [if_neg ended]
        exact .failure .notAtEnd reached later kept
    · simp only [first, second]
      exact .failure mismatch reached later kept
  | .repetition node min max, shape, _, _, _, _, _ =>
    (uniform_repetition (uniform_of_rune node shape.of_repetition) min max).parallel
  | .group index branches, shape, _, _, confined, unread, distinct => by
    intro offset left right inside covers settled unbound
    rw [indices_group] at distinct unbound
    rw [attemptWith, attemptWith]
    refine Alike.restoring ?_ offset left right
    exact alike_of_attemptBranches branches shape.of_group
      (fun branch member => confined.of_parts (parts_subset_group index member)) unread
      (List.nodup_cons.1 distinct).2 offset left right inside covers settled
      fun other member => unbound other (List.mem_cons_of_mem _ member)
  | .backreference index, _, apart, doubtful, _, unread, _ => by
    intro offset left right _ covers settled _
    have same : left.get? index = right.get? index := by
      rcases covers index with same | ⟨inside, none⟩
      · exact same
      · rcases settled index inside with isDoubtful | bound
        · exact absurd isDoubtful unread
        · rw [Bound, none] at bound
          cases bound
    rw [attemptWith, attemptWith]
    refine Alike.restoring ?_ offset left right
    simp only [same]
    cases right.get? index with
    | none => exact .failure (.unboundCapture index) offset left right
    | some captured => exact alike_text covers
  | .sequence nodes, shape, _, _, confined, unread, distinct => by
    intro offset left right inside covers settled unbound
    rw [indices_sequence] at distinct unbound
    rw [attemptWith, attemptWith]
    refine Alike.restoring ?_ offset left right
    exact alike_of_attemptSequence nodes shape.of_sequence nodes none (List.suffix_refl _) confined
      unread distinct offset none offset left right (Nat.le_refl _) inside (by simp) (by simp)
      covers settled unbound

/-- So are the branches of a group, each beside the captured texts from before the group. -/
theorem alike_of_attemptBranches {index : Nat} :
    (branches : List Node) → (∀ branch ∈ branches, Branch branch) → ∀ {apart doubtful},
      (∀ branch ∈ branches, Confined apart branch) → EachUnread doubtful branches →
      (branches.flatMap indices).Nodup →
      ∀ offset left right, offset ≤ subject.size → left.Covers apart right →
      (∀ other, apart other → doubtful other ∨ Bound other right) →
      (∀ other ∈ branches.flatMap indices, right.get? other = none) →
      (attemptBranches .offset subject index branches ⟨offset, left⟩).Alike apart
        (attemptBranches .everything subject index branches ⟨offset, right⟩)
  | [], _, _, _, _, _, _, offset, left, right, _, _, _, _ =>
    .failure .noBranchMatched offset left right
  | branch :: rest, each, _, _, confined, ⟨unread, unreadRest⟩, distinct, offset, left, right, inside,
      covers, settled, unbound => by
    rw [List.flatMap_cons] at distinct unbound
    have ⟨distinct, distinctRest, _⟩ := List.nodup_append.1 distinct
    have here := parallel_of_attemptWith branch (.inr (each branch List.mem_cons_self))
      (confined branch List.mem_cons_self) unread distinct offset left right inside covers settled
      fun other member => unbound other (List.mem_append_left _ member)
    rw [attemptBranches, attemptBranches]
    rcases here.cases with
      ⟨outcome, reached, later, kept, first, second, after⟩ |
      ⟨mismatch, reached, later, kept, first, second⟩
    · simp only [first, second]
      exact .success (after.record index _)
    · have back : reached = offset := offset_of_attemptWith_error first
      simp only [first, second, back]
      exact alike_of_attemptBranches rest
        (fun other member => each other (List.mem_cons_of_mem _ member))
        (fun other member => confined other (List.mem_cons_of_mem _ member)) unreadRest
        distinctRest offset left right inside covers settled
        fun other member => unbound other (List.mem_append_right _ member)

/-- So is a sequence, wherever it stands. -/
theorem alike_of_attemptSequence :
    (nodes : List Node) → (∀ node ∈ nodes, Element node) → ∀ whole (before : Option Node),
      (before.toList ++ nodes) <:+ whole → ∀ {apart doubtful}, Confined apart (.sequence whole) →
      RowUnread doubtful nodes → (nodes.flatMap indices).Nodup →
      ∀ began preceding offset left right, began ≤ offset → offset ≤ subject.size →
      (∀ latest ∈ preceding, Remembers subject began offset latest) →
      (∀ latest ∈ preceding, 0 < latest.outcome.giveback →
        ∃ node, before = some node ∧ node.givesBack = true) →
      left.Covers apart right → (∀ other, apart other → doubtful other ∨ Bound other right) →
      (∀ other ∈ nodes.flatMap indices, right.get? other = none) →
      (attemptSequence .offset subject began preceding nodes ⟨offset, left⟩).Alike apart
        (attemptSequence .everything subject began preceding nodes ⟨offset, right⟩)
  | [], _, _, _, _, _, _, _, _, _, _, _, _, _, _, _, _, _, _, covers, _, _ => .success covers
  | node :: rest, each, whole, before, suffix, apart, doubtful, confined, ⟨unread, unreadRest⟩,
      distinct, began, preceding, offset, left, right, after, inside, remembered, gives, covers,
      settled, unbound => by
    have element := each node List.mem_cons_self
    have onward : node :: rest <:+ whole := (List.suffix_append _ _).trans suffix
    have confinedHere := confined.of_parts
      (parts_subset_sequence (onward.subset List.mem_cons_self))
    rw [List.flatMap_cons] at distinct unbound
    have ⟨distinctHere, distinctRest, apartFromRest⟩ := List.nodup_append.1 distinct
    have unboundHere : ∀ other ∈ node.indices, right.get? other = none :=
      fun other member => unbound other (List.mem_append_left _ member)
    have shorter : ∀ latest ∈ preceding, ∀ stop ∈ latest.shorterEnds, stop ≤ subject.size :=
      fun latest isLatest stop member =>
        (between_of_triedAt after inside remembered (.inr ⟨latest, isLatest, member⟩)).2
    have parallel := parallel_of_attemptWith node (.inl element) confinedHere unread distinctHere
    have here : (orAfterGiveback (node.attemptWith .offset subject) preceding ⟨offset, left⟩).Alike
        apart (orAfterGiveback (node.attemptWith .everything subject) preceding ⟨offset, right⟩) := by
      refine alike_orAfterGiveback (parallel offset left right inside covers settled unboundHere) ?_
        inside
      intro latest isLatest giving
      refine ⟨shorter latest isLatest, ?_⟩
      refine retriable_of_element element parallel ?_ covers settled unboundHere
      intro anchored index branches isEnd isGroup
      have ⟨previous, isBefore, givesBack⟩ := gives latest isLatest giving
      subst isEnd isBefore
      have neighbours : [previous, .endAnchor anchored] <:+: whole :=
        (List.prefix_append [previous, .endAnchor anchored] rest).isInfix.trans suffix.isInfix
      have retried : (sequence whole).Retried index branches :=
        ⟨whole, previous, anchored, mem_parts_self _, neighbours, givesBack, isGroup⟩
      have confinedToo : Confined (fun other => apart other ∨ other = index)
          (.endAnchor anchored) := confinedHere.mono fun _ => .inl
      exact ⟨confined.nested index branches retried,
        parallel_of_attemptWith (.endAnchor anchored) (.inl element) confinedToo
          (Unread.retry confined retried isGroup unread) distinctHere⟩
    rw [attemptSequence, attemptSequence]
    rcases here.cases with
      ⟨outcome, reached, later, kept, first, second, covered⟩ |
      ⟨mismatch, reached, later, kept, first, second⟩
    · have known := remembers_of_orAfterGiveback (accounts_of_attemptWith node) after inside
        remembered first
      have onwards : began ≤ reached := Nat.le_trans known.began_le (Nat.sub_le _ _)
      have agree : Captures.AgreeOff (· ∈ node.indices)
          (orAfterGiveback (node.attemptWith .everything subject) preceding
            ⟨offset, right⟩).state.captures right := agreeOff_of_orAfterGiveback inside shorter
      rw [second] at agree
      have ⟨tried, _, _, matched⟩ := orAfterGiveback_eq_ok (fun _ => True)
        (fun _ _ _ _ _ _ => trivial) trivial first
      simp only [first, second]
      refine alike_of_attemptSequence rest
        (fun other member => each other (List.mem_cons_of_mem _ member)) whole (some node)
        onward confined unreadRest distinctRest began _ reached later kept onwards
        known.accounts.stop_le ?_ ?_ covered ?_ ?_
      · intro latest isLatest
        cases isLatest
        exact known
      · intro latest isLatest giving
        cases isLatest
        exact ⟨node, rfl, givesBack_of_giveback node matched giving⟩
      · exact settled_of_orAfterGiveback after inside remembered settled second
      · intro other member
        rw [agree other fun inside => apartFromRest other inside other member rfl]
        exact unbound other (List.mem_append_right _ member)
    · simp only [first, second]
      exact .failure mismatch reached later kept

end

end Node

/-- Two matches at the same place, the first of which may hold further captured texts at some
indices. -/
structure Match.Covers (apart : Nat → Prop) (left right : Match) : Prop where
  /-- They begin at the same offset. -/
  start_eq : left.start = right.start
  /-- They end at the same offset. -/
  stop_eq : left.stop = right.stop
  /-- They have the same text. -/
  text_eq : left.text = right.text
  /-- They agree on what the second one captured, and off these indices. -/
  captures : left.captures.Covers apart right.captures

/-- Such matches are the same when the first one holds nothing further. -/
theorem Match.Covers.eq {apart : Nat → Prop} {left right : Match} (covers : left.Covers apart right)
    (nothing : ∀ index, apart index → right.group? index = none → left.group? index = none) :
    left = right := by
  have captures : left.captures = right.captures := by
    refine Captures.ext_get? fun index => ?_
    rcases covers.captures index with same | ⟨inside, none⟩
    · exact same
    · rw [none]
      exact nothing index inside none
  have ⟨start_eq, stop_eq, text_eq, _⟩ := covers
  cases left
  cases right
  simp_all

namespace Pattern

open Node

variable {source : Text} {pattern : Pattern}

/-- The tree of a compiled pattern is attempted alike under both rules. -/
theorem parallel_of_compile (compiled : compile source = .ok pattern)
    (unread : pattern.root.LeftoversUnread) (subject : Array Char) :
    Parallel subject pattern.root.Leftover pattern.root.Leftover pattern.root := by
  have distinct : pattern.root.indices.Nodup := by
    rcases compile_indices compiled with numbered | numbered
    · rw [numbered]
      exact List.nodup_range'
    · rw [numbered, List.nodup_cons, List.mem_range']
      refine ⟨?_, List.nodup_range'⟩
      intro ⟨index, _, zero⟩
      omega
  exact parallel_of_attemptWith pattern.root (compile_compiled compiled).inPattern
    unread.confined unread.nested distinct

/-- At every offset both rules find nothing, or matches at the same place that differ in leftovers
only. -/
theorem matchAt?_covers (compiled : compile source = .ok pattern)
    (unread : pattern.root.LeftoversUnread) {subject : Array Char} {start : Nat}
    (inside : start ≤ subject.size) :
    Option.Rel (Match.Covers pattern.root.Leftover)
      (matchAt? .offset pattern.root subject start)
      (matchAt? .everything pattern.root subject start) := by
  have alike := parallel_of_compile compiled unread subject start .empty .empty inside
    (.refl _ _) (fun _ => .inl) fun _ _ => rfl
  unfold matchAt?
  rcases alike.cases with
    ⟨outcome, stop, left, right, first, second, covers⟩ |
    ⟨mismatch, stop, left, right, first, second⟩
  · rw [first, second]
    exact .some ⟨rfl, rfl, rfl, covers⟩
  · rw [first, second]
    exact .none

/-- So do whole searches. -/
theorem find_covers (compiled : compile source = .ok pattern)
    (unread : pattern.root.LeftoversUnread) (subject : Text) :
    Option.Rel (Match.Covers pattern.root.Leftover) (pattern.find subject)
      (pattern.findWith .everything subject) := by
  refine rel_findSome? fun start member => ?_
  exact matchAt?_covers compiled unread (Nat.lt_succ_iff.1 (List.mem_range.1 member))

/-- Where no backreference can read a leftover, the engine finds a match at the same place as under the
stricter rule; and it finds the same match exactly when no group is bound by a leftover alone. -/
theorem find_eq_strict_iff (source : Text) (pattern : Pattern)
    (compiled : compile source = .ok pattern) (unread : pattern.root.LeftoversUnread)
    (subject : Text) :
    Option.Rel (Match.Covers pattern.root.Leftover) (pattern.find subject)
        (pattern.findWith .everything subject) ∧
      (pattern.find subject = pattern.findWith .everything subject ↔
        ∀ found strict, pattern.find subject = some found →
          pattern.findWith .everything subject = some strict →
          ∀ index, pattern.root.Leftover index → strict.group? index = none →
            found.group? index = none) := by
  have related := find_covers compiled unread subject
  refine ⟨related, ?_⟩
  generalize pattern.find subject = first at related
  generalize pattern.findWith .everything subject = second at related
  cases related with
  | none =>
    refine ⟨fun _ _ _ isFound => ?_, fun _ => rfl⟩
    cases isFound
  | some covers =>
    constructor
    · intro same found strict isFound isStrict index _ none
      rw [isFound, isStrict] at same
      cases same
      exact none
    · intro nothing
      rw [covers.eq (nothing _ _ rfl rfl)]

/-- In `x?((a)\2|xaab)$` the group inside may be left over, and the backreference stands behind it. In
the subject `xaab` it is left over, so the two rules find different matches at the same place. -/
theorem find_differs_by_leftover :
    ∃ pattern, compile "x?((a)\\2|xaab)$".toList = .ok pattern ∧ pattern.root.LeftoversUnread ∧
      pattern.root.Leftover 2 ∧
      Option.Rel (Match.Covers pattern.root.Leftover) (pattern.find "xaab".toList)
        (pattern.findWith .everything "xaab".toList) ∧
      pattern.find "xaab".toList ≠ pattern.findWith .everything "xaab".toList := by
  let pattern : Pattern := ⟨"x?((a)\\2|xaab)$".toList,
    .sequence [.repetition (.literal 'x') 0 (some 1), .endAnchor (.group 1
      [.sequence [.group 2 [.sequence [.literal 'a']], .backreference 2],
        .sequence [.literal 'x', .literal 'a', .literal 'a', .literal 'b']])], 2⟩
  have compiled : compile "x?((a)\\2|xaab)$".toList = .ok pattern := rfl
  have unread : pattern.root.LeftoversUnread := by
    refine ⟨by simp [pattern, Unread, RowUnread, EachUnread, binds], ?_⟩
    intro index branches retried named
    have ⟨anchored, member, isGroup⟩ := retried.mem_parts
    simp only [pattern, parts_sequence, parts_endAnchor, parts_group, parts_repetition,
      parts_literal, parts_backreference, List.flatMap_cons, List.flatMap_nil, List.mem_cons,
      List.mem_append, reduceCtorEq, endAnchor.injEq, List.not_mem_nil, or_false, false_or] at member
    rw [member] at isGroup
    cases isGroup
    simp at named
  have leftover : pattern.root.Leftover 2 :=
    ⟨1, _, ⟨_, _, _, mem_parts_self _, List.infix_rfl, rfl, rfl⟩, by simp⟩
  have ⟨related, same_iff⟩ := find_eq_strict_iff _ pattern compiled unread "xaab".toList
  refine ⟨pattern, compiled, unread, leftover, related, fun same => ?_⟩
  have nothing := same_iff.1 same
    ⟨0, 4, "xaab".toList, (Captures.empty.record 1 "xaab".toList).record 2 "a".toList⟩
    ⟨0, 4, "xaab".toList, Captures.empty.record 1 "xaab".toList⟩ rfl rfl 2 leftover rfl
  cases nothing

/-- In the subject `xab` of `x?((a)|xab)$` the group inside is tried behind the `x`, matches, and is
left over when the round is given back: the match holds a text that no part of it captured. In the
subject `aaab` of `a+(\1ab|a)$` the backreference reads what an abandoned try captured, and there
is a match where the stricter rule finds none. -/
theorem find_ne_strict :
    (∃ pattern, compile "x?((a)|xab)$".toList = .ok pattern ∧
      pattern.find "xab".toList ≠ pattern.findWith .everything "xab".toList ∧
      (pattern.find "xab".toList).map (·.group? 2) = some (some "a".toList) ∧
      (pattern.findWith .everything "xab".toList).map (·.group? 2) = some none) ∧
    ∃ pattern, compile "a+(\\1ab|a)$".toList = .ok pattern ∧
      (pattern.find "aaab".toList).isSome = true ∧
      pattern.findWith .everything "aaab".toList = none :=
  ⟨⟨⟨_, .sequence [.repetition (.literal 'x') 0 (some 1), .endAnchor (.group 1
      [.sequence [.group 2 [.sequence [.literal 'a']]],
        .sequence [.literal 'x', .literal 'a', .literal 'b']])], 2⟩, rfl, by decide, rfl, rfl⟩,
    ⟨_, .sequence [.repetition (.literal 'a') 1 none, .endAnchor (.group 1
      [.sequence [.backreference 1, .literal 'a', .literal 'b'],
        .sequence [.literal 'a']])], 1⟩, rfl, rfl, rfl⟩

end Pattern

end PatternSearch
