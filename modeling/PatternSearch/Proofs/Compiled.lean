import PatternSearch.Pattern
import PatternSearch.Proofs.Parts

/-!
# The trees of compiled patterns

Reading a pattern text builds only some of the trees that the engine can match. `Compiled` says
which: a sequence of elements, or a group with index zero around several of them, where quantifiers
stand on nodes that match one rune and the branches of groups are sequences.

`compile_compiled` and `compile_indices` carry this through the reading of a text, token by token:
what is built is of that shape, and the groups are numbered from one on in the order in which they
open. The invariant is `Draft.Sound`.
-/
namespace PatternSearch

namespace Node

mutual

/-- An element of a pattern without anchors. -/
inductive Unanchored : Node → Prop
  /-- A node that matches one rune. -/
  | rune {node : Node} (single : node.isQuantifiable = true) : Unanchored node
  /-- A node that matches one rune, or nothing. -/
  | optional {node : Node} (single : node.isQuantifiable = true) :
      Unanchored (.repetition node 0 (some 1))
  /-- A node that matches one rune, once or more. -/
  | onceOrMore {node : Node} (single : node.isQuantifiable = true) :
      Unanchored (.repetition node 1 none)
  /-- The text of a group. -/
  | backreference (index : Nat) : Unanchored (.backreference index)
  /-- A group of branches. -/
  | group (index : Nat) {branches : List Node} (each : ∀ branch ∈ branches, Branch branch) :
      Unanchored (.group index branches)

/-- An element of a pattern, with the anchors around it. -/
inductive Element : Node → Prop
  /-- An element without anchors. -/
  | plain {node : Node} (element : Unanchored node) : Element node
  /-- An element after a start anchor. -/
  | startAnchor {node : Node} (element : Unanchored node) : Element (.startAnchor node)
  /-- A start anchor without an element. -/
  | bareStartAnchor : Element (.startAnchor (.sequence []))
  /-- An element before an end anchor. -/
  | endAnchor {node : Node} (element : Element node) : Element (.endAnchor node)

/-- A branch of an alternation: a sequence of elements. -/
inductive Branch : Node → Prop
  /-- Elements one after another. -/
  | sequence {nodes : List Node} (each : ∀ node ∈ nodes, Element node) : Branch (.sequence nodes)

end

/-- The tree of a compiled pattern. -/
inductive Compiled : Node → Prop
  /-- A pattern of one branch is its sequence. -/
  | branch {node : Node} (only : Branch node) : Compiled node
  /-- A pattern of several branches is a group with index zero. -/
  | alternation {branches : List Node} (several : 2 ≤ branches.length)
      (each : ∀ branch ∈ branches, Branch branch) : Compiled (.group 0 branches)

/-- What a start anchor of a pattern anchors is an element, or nothing. -/
theorem Element.of_startAnchor {node : Node} (element : Element (.startAnchor node)) :
    Unanchored node ∨ node = .sequence [] := by
  cases element with
  | plain element => cases element with
    | rune single => cases single
  | startAnchor element => exact .inl element
  | bareStartAnchor => exact .inr rfl

/-- What an end anchor of a pattern anchors is an element. -/
theorem Element.of_endAnchor {node : Node} (element : Element (.endAnchor node)) :
    Element node := by
  cases element with
  | plain element => cases element with
    | rune single => cases single
  | endAnchor element => exact element

/-- A tree that stands somewhere in a pattern. -/
def InPattern (node : Node) : Prop := Element node ∨ Branch node

/-- The tree of a whole pattern stands in a pattern. -/
theorem Compiled.inPattern {node : Node} (compiled : Compiled node) : InPattern node := by
  cases compiled with
  | branch only => exact .inr only
  | alternation _ each => exact .inl (.plain (.group 0 each))

/-- What a start anchor anchors stands in a pattern: an element, or the empty sequence. -/
theorem InPattern.of_startAnchor {node : Node} (shape : InPattern (.startAnchor node)) :
    InPattern node := by
  rcases shape with element | branch
  · rcases element.of_startAnchor with element | rfl
    · exact .inl (.plain element)
    · exact .inr (.sequence fun _ member => absurd member List.not_mem_nil)
  · cases branch

/-- What an end anchor anchors is an element. -/
theorem InPattern.of_endAnchor {node : Node} (shape : InPattern (.endAnchor node)) :
    Element node := by
  rcases shape with element | branch
  · exact element.of_endAnchor
  · cases branch

/-- What a pattern repeats matches one rune. -/
theorem InPattern.of_repetition {node : Node} {min : Nat} {max : Option Nat}
    (shape : InPattern (.repetition node min max)) : node.isQuantifiable = true := by
  rcases shape with element | branch
  · cases element with
    | plain element => cases element with
      | rune single => cases single
      | optional single => exact single
      | onceOrMore single => exact single
  · cases branch

/-- The branches of a group are sequences of elements. -/
theorem InPattern.of_group {index : Nat} {branches : List Node}
    (shape : InPattern (.group index branches)) : ∀ branch ∈ branches, Branch branch := by
  rcases shape with element | branch
  · cases element with
    | plain element => cases element with
      | rune single => cases single
      | group _ each => exact each
  · cases branch

/-- The nodes of a sequence are elements. -/
theorem InPattern.of_sequence {nodes : List Node} (shape : InPattern (.sequence nodes)) :
    ∀ node ∈ nodes, Element node := by
  rcases shape with element | branch
  · cases element with
    | plain element => cases element with
      | rune single => cases single
  · cases branch with
    | sequence each => exact each

end Node

open Node

/-! ## Alternations -/

namespace Alternation

/-- Finished elements and branches are of the shape that patterns have. -/
structure Shaped (alternation : Alternation) : Prop where
  /-- The branches that are ended are sequences of elements. -/
  branches : ∀ branch ∈ alternation.branches, Branch branch
  /-- The finished elements of the latest branch are elements. -/
  elements : ∀ node ∈ alternation.elements, Element node

/-- The groups of an alternation in the order in which they opened. -/
def indices (alternation : Alternation) : List Nat :=
  alternation.branches.reverse.flatMap Node.indices ++
    alternation.elements.reverse.flatMap Node.indices

/-- Where nothing is finished there is nothing of another shape. -/
theorem shaped_empty : Alternation.empty.Shaped :=
  ⟨fun _ member => absurd member List.not_mem_nil, fun _ member => absurd member List.not_mem_nil⟩

/-- An element may be finished. -/
theorem shaped_push {alternation : Alternation} {node : Node} (shaped : alternation.Shaped)
    (element : Element node) : (alternation.push node).Shaped := by
  refine ⟨shaped.branches, fun other member => ?_⟩
  rcases List.mem_cons.1 member with rfl | old
  · exact element
  · exact shaped.elements other old

/-- The branch being read is a sequence of elements like those before it. -/
theorem branch_of_mem_allBranches {alternation : Alternation} (shaped : alternation.Shaped) :
    ∀ branch ∈ alternation.allBranches, Branch branch := by
  intro branch member
  rw [allBranches, List.mem_reverse, List.mem_cons] at member
  rcases member with rfl | old
  · exact .sequence fun node inside => shaped.elements node (List.mem_reverse.1 inside)
  · exact shaped.branches branch old

/-- The latest branch may be ended. -/
theorem shaped_nextBranch {alternation : Alternation} (shaped : alternation.Shaped) :
    alternation.nextBranch.Shaped := by
  refine ⟨fun branch member => ?_, fun _ member => absurd member List.not_mem_nil⟩
  exact branch_of_mem_allBranches shaped branch (by rw [allBranches, List.mem_reverse]; exact member)

/-- No group has opened before anything is read. -/
@[simp] theorem indices_empty : Alternation.empty.indices = [] := rfl

/-- The groups of a finished element come behind those before it. -/
@[simp] theorem indices_push (alternation : Alternation) (node : Node) :
    (alternation.push node).indices = alternation.indices ++ node.indices := by
  simp [indices, push]

/-- The groups of an alternation are those of its branches, in order. -/
@[simp] theorem flatMap_indices_allBranches (alternation : Alternation) :
    alternation.allBranches.flatMap Node.indices = alternation.indices := by
  simp [indices, allBranches]

/-- Ending a branch opens no group. -/
@[simp] theorem indices_nextBranch (alternation : Alternation) :
    alternation.nextBranch.indices = alternation.indices := by
  simp [indices, nextBranch]

end Alternation

/-! ## Drafts -/

namespace Draft

/-- What is left unfinished is an element, as far as it is read. -/
def Focus.Shaped : Focus → Prop
  | .atom _ node => Unanchored node
  | _ => True

/-- The groups of what is left unfinished. -/
def Focus.indices : Focus → List Nat
  | .atom _ node => node.indices
  | _ => []

/-- The groups around the innermost alternation, and those before it in the alternations around it,
in the order in which they opened. -/
def outerIndices : List OpenGroup → List Nat
  | [] => []
  | opened :: enclosing => outerIndices enclosing ++ opened.outside.indices ++ [opened.index]

/-- The groups of a draft in the order in which they opened. -/
def indices (draft : Draft) : List Nat :=
  outerIndices draft.enclosing ++ draft.alternation.indices ++ draft.focus.indices

/-- Everything read so far is of the shape that patterns have, and its groups are numbered in the
order in which they opened. -/
structure Sound (draft : Draft) : Prop where
  /-- The innermost alternation is of that shape. -/
  alternation : draft.alternation.Shaped
  /-- So are those around it. -/
  enclosing : ∀ opened ∈ draft.enclosing, opened.outside.Shaped
  /-- So is what is left unfinished. -/
  focus : draft.focus.Shaped
  /-- The groups are numbered from one on. -/
  numbered : draft.indices = List.range' 1 draft.groupCount

/-- A draft of which nothing is read is sound. -/
theorem sound_empty : Draft.empty.Sound :=
  ⟨Alternation.shaped_empty, fun _ member => absurd member List.not_mem_nil, trivial, rfl⟩

/-- A draft may be left with another focus that holds the same groups. -/
theorem Sound.withFocus {draft : Draft} (sound : draft.Sound) {focus : Focus}
    (shaped : focus.Shaped) (same : focus.indices = draft.focus.indices) :
    ({ draft with focus } : Draft).Sound := by
  refine ⟨sound.alternation, sound.enclosing, shaped, ?_⟩
  rw [← sound.numbered, indices, indices, same]

/-- The unfinished element may be finished by an element with the same groups. -/
theorem Sound.push {draft : Draft} (sound : draft.Sound) {node : Node} (element : Element node)
    (same : node.indices = draft.focus.indices) : (draft.push node).Sound := by
  refine ⟨Alternation.shaped_push sound.alternation element, sound.enclosing, trivial, ?_⟩
  have numbered := sound.numbered
  rw [indices, ← same] at numbered
  simpa [indices, Draft.push, Focus.indices] using numbered

/-- A start anchor in front of an element makes an element. -/
theorem element_anchor {node : Node} (anchored : Bool) (element : Unanchored node) :
    Element (anchor anchored node) := by
  cases anchored with
  | false => exact .plain element
  | true => exact .startAnchor element

/-- A start anchor in front of a node holds the groups of the node. -/
theorem indices_anchor (anchored : Bool) (node : Node) :
    (anchor anchored node).indices = node.indices := by
  cases anchored with
  | false => rfl
  | true => exact indices_startAnchor node

/-- Finishing what is unfinished keeps a draft sound. -/
theorem Sound.settle {draft : Draft} (sound : draft.Sound) : draft.settle.Sound := by
  have shaped := sound.focus
  unfold Draft.settle
  split
  · rename_i unfinished
    exact sound.push .bareStartAnchor (by rw [unfinished]; rfl)
  · rename_i anchored node unfinished
    rw [unfinished] at shaped
    exact sound.push (element_anchor anchored shaped)
      (by rw [unfinished]; exact indices_anchor anchored node)
  · exact sound

/-- A node that a token writes matches one rune or refers to a group. -/
theorem unanchored_of_ofToken {token : Token} {node : Node} (written : Node.ofToken token = .ok node) :
    Unanchored node ∧ node.indices = [] := by
  unfold Node.ofToken at written
  split at written
  case h_7 rune =>
    unfold Node.ofEscaped at written
    split at written
    · cases written
      exact ⟨.rune rfl, rfl⟩
    · cases written
    · cases written
      exact ⟨.backreference _, rfl⟩
    · split at written
      · cases written
        exact ⟨.rune rfl, rfl⟩
      · cases written
  all_goals cases written
  all_goals exact ⟨.rune rfl, rfl⟩

/-- Closing a group makes it the unfinished element of the alternation around it. -/
theorem Sound.closeGroup {draft next : Draft} {offset : Nat} (sound : draft.Sound)
    (between : draft.focus = .element) (closed : draft.closeGroup offset = .ok next) :
    next.Sound := by
  unfold Draft.closeGroup at closed
  split at closed
  · cases closed
  · rename_i opened enclosing inside
    cases closed
    have outer : ∀ other ∈ opened :: enclosing, other.outside.Shaped := inside ▸ sound.enclosing
    refine ⟨outer opened List.mem_cons_self, fun other member =>
      outer other (List.mem_cons_of_mem _ member), ?_, ?_⟩
    · exact .group opened.index (Alternation.branch_of_mem_allBranches sound.alternation)
    · have numbered := sound.numbered
      rw [indices, inside, between] at numbered
      simpa [indices, outerIndices, Focus.indices] using numbered

/-- Anchoring the latest element at its end leaves it an element. -/
theorem Sound.anchorEnd {draft next : Draft} {offset : Nat} (sound : draft.Sound)
    (anchored : draft.anchorEnd offset = .ok next) : next.Sound := by
  unfold Draft.anchorEnd at anchored
  split at anchored
  · cases anchored
  · rename_i latest earlier finished
    cases anchored
    have elements : ∀ node ∈ latest :: earlier, Element node := finished ▸ sound.alternation.elements
    refine ⟨⟨sound.alternation.branches, fun node member => ?_⟩, sound.enclosing, sound.focus, ?_⟩
    · rcases List.mem_cons.1 member with rfl | old
      · exact .endAnchor (elements latest List.mem_cons_self)
      · exact elements node (List.mem_cons_of_mem _ old)
    · rw [← sound.numbered]
      simp [indices, Alternation.indices, finished]

/-- Beginning an element keeps a draft sound: a group gets the next number. -/
theorem Sound.readAtom {draft next : Draft} {anchored : Bool} {offset : Nat} {token : Token}
    (sound : draft.Sound) (ready : draft.focus.indices = [])
    (begun : draft.readAtom anchored offset token = .ok next) : next.Sound := by
  unfold Draft.readAtom at begun
  split at begun
  · cases begun
    refine ⟨Alternation.shaped_empty, fun opened member => ?_, trivial, ?_⟩
    · rcases List.mem_cons.1 member with rfl | old
      · exact sound.alternation
      · exact sound.enclosing opened old
    · have before := sound.numbered
      rw [indices, ready, List.append_nil] at before
      simp [indices, outerIndices, Focus.indices, before, List.range'_concat, Nat.add_comm]
  · cases begun
    exact sound.withFocus trivial ready.symm
  · split at begun
    · rename_i node written
      cases begun
      have ⟨element, nothing⟩ := unanchored_of_ofToken written
      exact sound.withFocus element (nothing.trans ready.symm)
    · cases begun

/-- A token between elements keeps a draft sound. -/
theorem Sound.readElement {draft next : Draft} {offset : Nat} {token : Token} (sound : draft.Sound)
    (between : draft.focus = .element) (read : draft.readElement offset token = .ok next) :
    next.Sound := by
  unfold Draft.readElement at read
  split at read
  · exact sound.closeGroup between read
  · cases read
    refine ⟨Alternation.shaped_nextBranch sound.alternation, sound.enclosing, sound.focus, ?_⟩
    rw [← sound.numbered]
    simp [indices]
  · exact sound.anchorEnd read
  · split at read
    · cases read
      exact sound.withFocus trivial (by rw [between]; rfl)
    · cases read
  · exact sound.readAtom (by rw [between]; rfl) read

/-- Settling leaves nothing unfinished, except in the middle of a set. -/
theorem settle_focus {draft : Draft}
    (noSet : draft.focus = .anchor ∨ ∃ anchored node, draft.focus = .atom anchored node) :
    draft.settle.focus = .element := by
  unfold Draft.settle
  rcases noSet with unfinished | ⟨anchored, node, unfinished⟩
  · rw [unfinished]
    rfl
  · rw [unfinished]
    rfl

/-- Finishing what is unfinished leaves the same groups open. -/
theorem settle_enclosing (draft : Draft) : draft.settle.enclosing = draft.enclosing := by
  unfold Draft.settle
  split <;> rfl

/-- Finishing what is unfinished opens no group. -/
theorem settle_groupCount (draft : Draft) : draft.settle.groupCount = draft.groupCount := by
  unfold Draft.settle
  split <;> rfl

/-- Settling leaves no group unfinished. -/
theorem indices_settle_focus (draft : Draft) : draft.settle.focus.indices = [] := by
  unfold Draft.settle
  split
  · rfl
  · rfl
  · rename_i noAnchor noAtom
    cases unfinished : draft.focus with
    | atom anchored node => exact absurd unfinished (noAtom anchored node)
    | _ => rfl

/-- A quantified node is an element with the groups of the node, which are none. -/
theorem unanchored_apply {node : Node} (quantifier : Quantifier)
    (single : node.isQuantifiable = true) : Unanchored (quantifier.apply node) := by
  cases quantifier with
  | question => exact .optional single
  | plus => exact .onceOrMore single

/-- A quantified node holds the groups of the node. -/
theorem indices_apply (quantifier : Quantifier) (node : Node) :
    (quantifier.apply node).indices = node.indices := by
  cases quantifier with
  | question => exact indices_repetition node 0 (some 1)
  | plus => exact indices_repetition node 1 none

/-- A token after an element keeps a draft sound, whether it quantifies the element or not. -/
theorem Sound.readQuantifier {draft next : Draft} {anchored : Bool} {node : Node} {offset : Nat}
    {token : Token} (sound : draft.Sound) (unfinished : draft.focus = .atom anchored node)
    (read : draft.readQuantifier anchored node offset token = .ok next) : next.Sound := by
  unfold Draft.readQuantifier at read
  split at read
  · rename_i quantifier _
    split at read
    · rename_i single
      cases read
      refine sound.push (element_anchor anchored (unanchored_apply quantifier single)) ?_
      rw [indices_anchor, indices_apply, unfinished]
      rfl
    · cases read
  · exact sound.settle.readElement (settle_focus (.inr ⟨anchored, node, unfinished⟩)) read

/-- A token inside a set keeps a draft sound: what is written is a node that matches one rune. -/
theorem Sound.readMember {draft next : Draft} {anchored negated : Bool} {opened : Nat}
    {members : List SetMember} {token : Token} (sound : draft.Sound)
    (ready : draft.focus.indices = [])
    (read : draft.readMember anchored opened negated members token = .ok next) : next.Sound := by
  unfold Draft.readMember at read
  split at read
  · split at read
    · cases read
    · cases read
      exact sound.withFocus (.rune rfl) ready.symm
  · split at read
    · cases read
      exact sound.withFocus trivial ready.symm
    · cases read

/-- Every token keeps a draft sound. -/
theorem Sound.read {draft next : Draft} {token : Nat × Token} (sound : draft.Sound)
    (taken : draft.read token = .ok next) : next.Sound := by
  obtain ⟨offset, token⟩ := token
  rw [Draft.read] at taken
  split at taken
  · rename_i between
    exact sound.readElement between taken
  · rename_i unfinished
    split at taken
    · exact sound.settle.readElement (settle_focus (.inl unfinished)) taken
    · exact sound.readAtom (by rw [unfinished]; rfl) taken
  · rename_i unfinished
    exact sound.readQuantifier unfinished taken
  · rename_i unfinished
    split at taken
    · cases taken
      exact sound.withFocus trivial (by rw [unfinished]; rfl)
    · exact sound.readMember (by rw [unfinished]; rfl) taken
  · rename_i unfinished
    exact sound.readMember (by rw [unfinished]; rfl) taken

/-- So do tokens one after another. -/
theorem Sound.readAll {draft final : Draft} {tokens : List (Nat × Token)} (sound : draft.Sound)
    (taken : draft.readAll tokens = .ok final) : final.Sound := by
  induction tokens generalizing draft with
  | nil =>
    cases taken
    exact sound
  | cons token rest ih =>
    rw [Draft.readAll, List.foldlM_cons] at taken
    cases first : draft.read token with
    | error mistake =>
      rw [first] at taken
      cases taken
    | ok next =>
      rw [first] at taken
      exact ih (sound.read first) taken

/-- The branches of a whole pattern make a tree of the shape that patterns have. -/
theorem compiled_root {alternation : Alternation} (shaped : alternation.Shaped) :
    Compiled (root alternation) := by
  have each := Alternation.branch_of_mem_allBranches shaped
  unfold root
  split
  · rename_i branch only
    exact .branch (each branch (by rw [only]; exact List.mem_singleton_self branch))
  · rename_i notOne
    refine .alternation ?_ each
    cases branches : alternation.allBranches with
    | nil => simp [Alternation.allBranches] at branches
    | cons branch rest =>
      cases rest with
      | nil => exact absurd branches (notOne branch)
      | cons => simp

/-- The groups of a whole pattern, the group of a top-level alternation aside. -/
theorem indices_root (alternation : Alternation) :
    (root alternation).indices = alternation.indices ∨
      (root alternation).indices = 0 :: alternation.indices := by
  have all := Alternation.flatMap_indices_allBranches alternation
  unfold root
  split
  · rename_i branch only
    rw [only, List.flatMap_singleton] at all
    exact .inl all
  · rw [indices_group, all]
    exact .inr rfl

/-- A finished draft is a tree of the shape that patterns have, with its groups numbered. -/
theorem Sound.finish {draft : Draft} {tree : Node} {count : Nat} (sound : draft.Sound)
    (finished : draft.finish = .ok (tree, count)) :
    Compiled tree ∧
      (tree.indices = List.range' 1 count ∨ tree.indices = 0 :: List.range' 1 count) := by
  unfold Draft.finish at finished
  split at finished
  · cases finished
  · cases finished
  · rename_i noOpened noSet
    split at finished
    · cases finished
    · rename_i outermost
      cases finished
      have settled := sound.settle
      have same : draft.settle.alternation.indices = List.range' 1 draft.groupCount := by
        have numbered := settled.numbered
        rw [indices, indices_settle_focus, settle_enclosing, settle_groupCount, outermost] at numbered
        simpa [outerIndices] using numbered
      refine ⟨compiled_root settled.alternation, ?_⟩
      rw [← same]
      exact indices_root draft.settle.alternation

end Draft

namespace Pattern

/-- Reading a text gives a tree of the shape that patterns have, with its groups numbered. -/
theorem parse_sound {source : Text} {tree : Node} {count : Nat}
    (parsed : parse source = .ok (tree, count)) :
    Compiled tree ∧
      (tree.indices = List.range' 1 count ∨ tree.indices = 0 :: List.range' 1 count) := by
  unfold parse at parsed
  cases read : Draft.empty.readAll (Token.scan source) with
  | error mistake =>
    rw [read] at parsed
    cases parsed
  | ok draft =>
    rw [read] at parsed
    exact (Draft.sound_empty.readAll read).finish parsed

/-- What a compiled pattern consists of is what reading its text gave. -/
theorem parse_of_compile {source : Text} {pattern : Pattern}
    (compiled : compile source = .ok pattern) :
    parse source = .ok (pattern.root, pattern.groupCount) := by
  unfold compile at compiled
  cases parsed : parse source with
  | error mistake =>
    rw [parsed] at compiled
    cases compiled
  | ok found =>
    rw [parsed] at compiled
    cases compiled
    rfl

/-- The tree of a compiled pattern is of the shape that patterns have. -/
theorem compile_compiled {source : Text} {pattern : Pattern}
    (compiled : compile source = .ok pattern) : Compiled pattern.root :=
  (parse_sound (parse_of_compile compiled)).1

/-- The groups of a compiled pattern are numbered from one on in preorder; only the group of a
top-level alternation stands before them, with index zero. -/
theorem compile_indices {source : Text} {pattern : Pattern}
    (compiled : compile source = .ok pattern) :
    pattern.root.indices = List.range' 1 pattern.groupCount ∨
      pattern.root.indices = 0 :: List.range' 1 pattern.groupCount :=
  (parse_sound (parse_of_compile compiled)).2

end Pattern
end PatternSearch
