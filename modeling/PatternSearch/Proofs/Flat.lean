import Mathlib.Order.Bounds.Basic
import PatternSearch.Proofs.Capturing
import PatternSearch.Proofs.Finding

/-!
# Flat patterns

A flat pattern is a row of items, each a node that matches one rune, taken once or with a quantifier,
perhaps between two anchors. What it matches is said by counts: how often each item is taken, one
after another (`Spells`).

The engine does not try all counts. It takes every item as often as it can, and gives back for the
next item only. Main statement: where no rune can be taken both by a quantified item and by what may
come next, this loses nothing (`find_isLeast_isGreatest`). The search finds a match when there is
one, at the least start, and with the greatest end from there.

The reason is that giving back never helps. A round that is given back leaves a rune which none of
the next items accepts, up to the first one that has to be taken (`Rejects`). So the first item
fails there as well, and counts below the greatest one spell a match only if nothing has to follow.
-/
namespace PatternSearch

open Attempt Node

/-- An item of a flat pattern: a node that matches one rune, and its quantifier. -/
structure Flat.Item where
  /-- The node. -/
  matcher : Node
  /-- It matches one rune. -/
  single : matcher.isQuantifiable = true
  /-- Its quantifier; an item without one is taken once. -/
  quantifier : Option Quantifier

/-- A flat pattern. -/
structure Flat where
  /-- Its items. -/
  items : List Flat.Item
  /-- There are some. -/
  nonempty : items ≠ []
  /-- Whether a start anchor stands before the first one. -/
  atStart : Bool
  /-- Whether an end anchor stands after the last one. -/
  atEnd : Bool

namespace Flat

/-- The node of an item with its quantifier. -/
def Item.node (item : Item) : Node :=
  match item.quantifier with
  | none => item.matcher
  | some quantifier => quantifier.apply item.matcher

/-- Whether an item may be taken so many times. -/
def Item.Allows (item : Item) (count : Nat) : Prop :=
  match item.quantifier with
  | none => count = 1
  | some .question => count ≤ 1
  | some .plus => 1 ≤ count

/-- The node of an item with the anchors around it. -/
def Item.anchored (atStart atEnd : Bool) (item : Item) : Node :=
  if atEnd then .endAnchor (Draft.anchor atStart item.node) else Draft.anchor atStart item.node

/-- The nodes of items in a row, between the anchors. -/
def nodes (atEnd : Bool) : (atStart : Bool) → List Item → List Node
  | _, [] => []
  | atStart, item :: rest =>
    item.anchored atStart (rest.isEmpty && atEnd) :: nodes atEnd false rest

/-- The tree of a flat pattern. -/
def root (flat : Flat) : Node := .sequence (nodes flat.atEnd flat.atStart flat.items)

/-- An item accepts so many runes from an offset on. -/
def Item.Takes (subject : Array Char) (item : Item) (start count : Nat) : Prop :=
  ∀ offset, start ≤ offset → offset < start + count →
    ∃ rune, subject[offset]? = some rune ∧ item.matcher.accepts rune = true

/-- Items in a row, each taken as often as it allows, lead from one offset to another. -/
def Spells (subject : Array Char) : List Item → Nat → Nat → Prop
  | [], start, stop => start = stop
  | item :: rest, start, stop =>
    ∃ count, item.Allows count ∧ item.Takes subject start count ∧
      Spells subject rest (start + count) stop

/-- A flat pattern matches between two offsets of a subject. -/
structure Matches (flat : Flat) (subject : Array Char) (start stop : Nat) : Prop where
  /-- It begins inside the subject. -/
  start_le : start ≤ subject.size
  /-- A start anchor holds. -/
  atStart : flat.atStart = true → start = 0
  /-- The items are taken one after another. -/
  spells : Spells subject flat.items start stop
  /-- An end anchor holds. -/
  atEnd : flat.atEnd = true → stop = subject.size

/-- No rune can be taken both by a quantified item and by a later one, where all items in between may
be left out. -/
def Unambiguous (items : List Item) : Prop :=
  ∀ before first between later after, items = before ++ first :: (between ++ later :: after) →
    first.quantifier ≠ none → (∀ item ∈ between, item.quantifier = some .question) →
    ∀ rune, ¬ (first.matcher.accepts rune = true ∧ later.matcher.accepts rune = true)

/-! ## Runes that no next item accepts -/

/-- No item accepts a rune, up to the first one that has to be taken. -/
def Rejects (rune : Char) : List Item → Prop
  | [] => True
  | item :: rest =>
    item.matcher.accepts rune = false ∧ (item.quantifier = some .question → Rejects rune rest)

/-- A rune is rejected when no item accepts it that only items to be left out stand before. -/
theorem rejects_iff {rune : Char} {items : List Item} :
    Rejects rune items ↔ ∀ between later after, items = between ++ later :: after →
      (∀ item ∈ between, item.quantifier = some .question) → later.matcher.accepts rune = false := by
  induction items with
  | nil => simp [Rejects]
  | cons item rest ih =>
    rw [Rejects, ih]
    constructor
    · intro ⟨here, further⟩ between later after same leftOut
      cases between with
      | nil =>
        cases same
        exact here
      | cons first between =>
        cases same
        exact further (leftOut item List.mem_cons_self) between later after rfl
          fun other member => leftOut other (List.mem_cons_of_mem _ member)
    · intro each
      refine ⟨each [] item rest rfl fun _ member => absurd member List.not_mem_nil,
        fun optional between later after same leftOut => ?_⟩
      refine each (item :: between) later after (by rw [same]; rfl) fun other member => ?_
      rcases List.mem_cons.1 member with first | inside
      · rw [first]
        exact optional
      · exact leftOut other inside

/-- A sequence without items is unambiguous. -/
theorem unambiguous_nil : Unambiguous [] := by
  intro before first between later after same
  cases before <;> cases same

/-- A row is unambiguous when the items after its first one are, and reject what the first one accepts
if it is quantified. -/
theorem unambiguous_cons {item : Item} {rest : List Item} :
    Unambiguous (item :: rest) ↔
      (item.quantifier ≠ none → ∀ rune, item.matcher.accepts rune = true → Rejects rune rest) ∧
        Unambiguous rest := by
  constructor
  · intro unambiguous
    refine ⟨fun quantified rune accepted => rejects_iff.2 fun between later after same leftOut => ?_,
      fun before first between later after same => ?_⟩
    · have other :=
        unambiguous [] item between later after (by rw [same]; rfl) quantified leftOut rune
      cases accepts : later.matcher.accepts rune with
      | false => rfl
      | true => exact absurd ⟨accepted, accepts⟩ other
    · exact unambiguous (item :: before) first between later after (by rw [same]; rfl)
  · intro ⟨rejects, further⟩ before first between later after same quantified leftOut rune both
    cases before with
    | nil =>
      cases same
      have refused := rejects_iff.1 (rejects quantified rune both.1) between later after rfl leftOut
      rw [both.2] at refused
      cases refused
    | cons earlier before =>
      cases same
      exact further before first between later after rfl quantified leftOut rune both

variable {subject : Array Char}

/-- From a rejected rune on only items that are all left out spell anything. -/
theorem spells_of_rejects {rune : Char} {items : List Item} {start stop : Nat}
    (present : subject[start]? = some rune) (rejects : Rejects rune items)
    (spells : Spells subject items start stop) :
    stop = start ∧ ∀ item ∈ items, item.quantifier = some .question := by
  induction items with
  | nil => exact ⟨spells.symm, fun _ member => absurd member List.not_mem_nil⟩
  | cons item rest ih =>
    have ⟨count, allowed, takes, later⟩ := spells
    have nothing : count = 0 := by
      by_contra positive
      have ⟨found, here, accepted⟩ := takes start (Nat.le_refl _) (by omega)
      rw [present] at here
      cases here
      rw [rejects.1] at accepted
      cases accepted
    rw [nothing] at allowed later
    have optional : item.quantifier = some .question := by
      unfold Item.Allows at allowed
      split at allowed
      · cases allowed
      · assumption
      · omega
    have ⟨same, leftOut⟩ := ih (rejects.2 optional) later
    refine ⟨same, fun other member => ?_⟩
    rcases List.mem_cons.1 member with first | inside
    · rw [first]
      exact optional
    · exact leftOut other inside

/-- Items that may all be left out spell nothing. -/
theorem spells_nothing {items : List Item}
    (optional : ∀ item ∈ items, item.quantifier = some .question) (start : Nat) :
    Spells subject items start start := by
  induction items with
  | nil => rfl
  | cons item rest ih =>
    have allowed : item.Allows 0 := by
      unfold Item.Allows
      rw [optional item List.mem_cons_self]
      exact Nat.zero_le 1
    refine ⟨0, allowed, fun offset low high => by omega, ?_⟩
    exact ih fun other member => optional other (List.mem_cons_of_mem _ member)

/-! ## Attempts of items -/

/-- Where an item takes as many runes as it can. -/
structure Item.Greedy (subject : Array Char) (item : Item) (start count : Nat) : Prop where
  /-- It takes them. -/
  takes : item.Takes subject start count
  /-- It may take so many. -/
  allows : item.Allows count
  /-- It cannot take more. -/
  most : ∀ other, item.Takes subject start other → item.Allows other → other ≤ count

/-- What takes some runes takes fewer as well. -/
theorem Item.Takes.fewer {item : Item} {start count fewer : Nat}
    (takes : item.Takes subject start count) (less : fewer ≤ count) :
    item.Takes subject start fewer :=
  fun offset low high => takes offset low (by omega)

/-- Runes are taken inside the subject. -/
theorem Item.Takes.inside {item : Item} {start count : Nat} (takes : item.Takes subject start count)
    (begins : start ≤ subject.size) : start + count ≤ subject.size := by
  by_cases empty : count = 0
  · omega
  · have ⟨rune, present, _⟩ := takes (start + count - 1) (by omega) (by omega)
    have ⟨inside, _⟩ := Array.getElem?_eq_some_iff.1 present
    omega

/-- The matcher of an item matches where it accepts the rune. -/
theorem Item.matcher_attempt (item : Item) (subject : Array Char) (rollback : Rollback)
    (state : State) :
    (item.Takes subject state.offset 1 ∧
      item.matcher.attemptWith rollback subject state =
        ⟨.ok (.consuming 1), state.at (state.offset + 1)⟩) ∨
    (¬ item.Takes subject state.offset 1 ∧ ∃ mismatch,
      item.matcher.attemptWith rollback subject state = ⟨.error mismatch, state⟩) := by
  rw [attemptWith_of_isQuantifiable item.single]
  cases tried : rune subject item.matcher.accepts state with
  | mk result next =>
    cases result with
    | ok outcome =>
      have ⟨found, present, accepted, consumed, moved⟩ := rune_eq_ok.1 tried
      subst consumed moved
      refine .inl ⟨fun offset low high => ?_, rfl⟩
      have here : offset = state.offset := by omega
      exact ⟨found, here ▸ present, accepted⟩
    | error mismatch =>
      have ⟨same, refused⟩ := rune_eq_error tried
      rw [same]
      refine .inr ⟨fun takes => ?_, mismatch, by cases rollback <;> rfl⟩
      have ⟨found, present, accepted⟩ := takes state.offset (Nat.le_refl _) (Nat.lt_succ_self _)
      rw [refused found present] at accepted
      cases accepted

/-- A repetition of the matcher takes runes until there is one that it does not accept, or its rounds
are used up. -/
theorem Item.repeated_matcher (item : Item) (subject : Array Char) (rollback : Rollback) (rounds : Nat)
    (state : State) :
    ∃ count, repeated (item.matcher.attemptWith rollback subject) rounds state =
        (List.replicate count 1, state.at (state.offset + count)) ∧
      count ≤ rounds ∧ item.Takes subject state.offset count ∧
      (count < rounds → ¬ item.Takes subject state.offset (count + 1)) := by
  induction rounds generalizing state with
  | zero => exact ⟨0, rfl, Nat.le_refl 0, fun offset low high => by omega, fun less => by omega⟩
  | succ rounds ih =>
    rcases item.matcher_attempt subject rollback state with
      ⟨takes, tried⟩ | ⟨refuses, mismatch, tried⟩
    · have ⟨count, later, few, takesLater, ended⟩ := ih (state.at (state.offset + 1))
      have whole : ∀ {more}, item.Takes subject (state.offset + 1) more ↔
          item.Takes subject state.offset (more + 1) := by
        intro more
        constructor
        · intro rest offset low high
          by_cases first : offset = state.offset
          · exact takes offset low (by omega)
          · exact rest offset (by omega) (by omega)
        · intro all offset low high
          exact all offset (by omega) (by omega)
      refine ⟨count + 1, ?_, by omega, whole.1 takesLater, fun less more => ?_⟩
      · simp only [repeated, tried, Outcome.consuming, later, State.at_offset, State.at_at]
        rw [if_neg (by omega), List.replicate_succ, Nat.add_assoc, Nat.add_comm 1]
      · exact ended (by omega) (whole.2 more)
    · refine ⟨0, ?_, Nat.zero_le _, fun offset low high => by omega, fun _ => refuses⟩
      simp only [repeated, tried]
      rfl

/-- Rounds of one rune each consume as many runes as there are rounds. -/
theorem totalLength_replicate (count : Nat) : totalLength (List.replicate count 1) = count := by
  induction count with
  | zero => rfl
  | succ count ih => rw [List.replicate_succ, totalLength, ih, Nat.add_comm]

/-- A repetition of the matcher of an item: how often, and where it may give back to. -/
theorem Item.repetition_attempt (item : Item) (subject : Array Char) (rollback : Rollback)
    (least : Nat) (max : Option Nat) (state : State) :
    ∃ count, count ≤ rounds (subject.size - state.offset) max ∧
      item.Takes subject state.offset count ∧
      (count < rounds (subject.size - state.offset) max →
        ¬ item.Takes subject state.offset (count + 1)) ∧
      (count < least → ∀ outcome final,
        (repetition item.matcher least max).attemptWith rollback subject state ≠
          ⟨.ok outcome, final⟩) ∧
      (least ≤ count → ∃ outcome,
        (repetition item.matcher least max).attemptWith rollback subject state =
          ⟨.ok outcome, state.at (state.offset + count)⟩ ∧ outcome.consumed = count ∧
        ∀ stop ∈ Preceding.shorterEnds ⟨state.offset, outcome⟩,
          state.offset ≤ stop ∧ stop < state.offset + count) := by
  have ⟨count, repeats, few, takes, ended⟩ := item.repeated_matcher subject rollback
    (rounds (subject.size - state.offset) max) state
  refine ⟨count, few, takes, ended, fun less outcome final found => ?_, fun enough => ?_⟩
  · have ⟨lengths, others, reached, _⟩ := repetition_eq_ok.1 found
    rw [repeats] at others
    cases others
    rw [List.length_replicate] at reached
    omega
  · refine ⟨_, repetition_eq_ok.2 ⟨_, repeats, by rwa [List.length_replicate], rfl⟩,
      totalLength_replicate count, fun stop shorter => ?_⟩
    have ⟨kept, _, fewer, reached⟩ := Preceding.mem_shorterEnds.1 shorter
    simp only [List.length_replicate, List.take_replicate, totalLength_replicate] at fewer reached
    rw [Nat.min_eq_left (Nat.le_of_lt fewer)] at reached
    omega

/-- An item takes as many runes as it can, and fails where it may not take any number that it can. -/
theorem Item.attempt (item : Item) (rollback : Rollback) {state : State}
    (inside : state.offset ≤ subject.size) :
    (∃ count outcome, item.Greedy subject state.offset count ∧
      item.node.attemptWith rollback subject state =
        ⟨.ok outcome, state.at (state.offset + count)⟩ ∧ outcome.consumed = count ∧
      ∀ stop ∈ Preceding.shorterEnds ⟨state.offset, outcome⟩,
        item.quantifier ≠ none ∧ state.offset ≤ stop ∧ stop < state.offset + count) ∨
    ((∀ count, item.Takes subject state.offset count → ¬ item.Allows count) ∧
      ∀ outcome final, item.node.attemptWith rollback subject state ≠ ⟨.ok outcome, final⟩) := by
  cases kind : item.quantifier with
  | none =>
    have node : item.node = item.matcher := by rw [Item.node, kind]
    have once : ∀ {count}, item.Allows count ↔ count = 1 := by
      intro count
      rw [Item.Allows, kind]
    rw [node]
    rcases item.matcher_attempt subject rollback state with ⟨takes, tried⟩ | ⟨refuses, mismatch, tried⟩
    · refine .inl ⟨1, .consuming 1, ⟨takes, once.2 rfl, fun other _ allowed => ?_⟩, tried, rfl, ?_⟩
      · rw [once.1 allowed]
      · intro stop shorter
        rw [Preceding.shorterEnds_eq_nil rfl] at shorter
        cases shorter
    · refine .inr ⟨fun count takes allowed => ?_, fun outcome final found => ?_⟩
      · rw [once.1 allowed] at takes
        exact refuses takes
      · rw [tried] at found
        cases found
  | some quantifier =>
    cases quantifier with
    | question =>
      have node : item.node = .repetition item.matcher 0 (some 1) := by
        rw [Item.node, kind]
        rfl
      have allows : ∀ {count}, item.Allows count ↔ count ≤ 1 := by
        intro count
        rw [Item.Allows, kind]
      have ⟨count, few, takes, ended, _, matched⟩ :=
        item.repetition_attempt subject rollback 0 (some 1) state
      have ⟨outcome, found, consumed, shorter⟩ := matched (Nat.zero_le _)
      simp only [rounds] at few ended
      rw [node]
      refine .inl ⟨count, outcome, ⟨takes, allows.2 (by omega), fun other more allowed => ?_⟩,
        found, consumed, fun stop member => ⟨by simp, shorter stop member⟩⟩
      have atMost := allows.1 allowed
      by_contra greater
      exact ended (by omega) (more.fewer (by omega))
    | plus =>
      have node : item.node = .repetition item.matcher 1 none := by
        rw [Item.node, kind]
        rfl
      have allows : ∀ {count}, item.Allows count ↔ 1 ≤ count := by
        intro count
        rw [Item.Allows, kind]
      have ⟨count, _, takes, ended, failed, matched⟩ :=
        item.repetition_attempt subject rollback 1 none state
      have stays := takes.inside inside
      have most : ∀ other, item.Takes subject state.offset other → other ≤ count := by
        intro other more
        by_contra greater
        exact ended (by simp only [rounds]; omega) (more.fewer (by omega))
      rw [node]
      by_cases taken : 1 ≤ count
      · have ⟨outcome, found, consumed, shorter⟩ := matched taken
        exact .inl ⟨count, outcome, ⟨takes, allows.2 taken, fun other more _ => most other more⟩,
          found, consumed, fun stop member => ⟨by simp, shorter stop member⟩⟩
      · refine .inr ⟨fun other more allowed => ?_, failed (by omega)⟩
        have reached := most other more
        have least := allows.1 allowed
        omega

variable {rollback : Rollback} {state final : State} {outcome : Outcome}

/-- An item that matches, perhaps before an end anchor, takes as many runes as it can. -/
theorem Item.anchored_eq_ok {item : Item} {last : Bool} (inside : state.offset ≤ subject.size)
    (found : (item.anchored false last).attemptWith rollback subject state =
      ⟨.ok outcome, final⟩) :
    ∃ count, item.Greedy subject state.offset count ∧ final = state.at (state.offset + count) ∧
      outcome.consumed = count ∧ (last = true → state.offset + count = subject.size) ∧
      ∀ stop ∈ Preceding.shorterEnds ⟨state.offset, outcome⟩,
        item.quantifier ≠ none ∧ state.offset ≤ stop ∧ stop < state.offset + count := by
  rcases item.attempt rollback inside with
    ⟨count, own, greedy, matched, consumed, shorter⟩ | ⟨_, failed⟩
  · cases last with
    | false =>
      have same := matched.symm.trans found
      cases same
      exact ⟨count, greedy, rfl, consumed, fun isLast => (nomatch isLast), shorter⟩
    | true =>
      have ⟨inner, reached, ended, taken⟩ := endAnchor_eq_ok.1 found
      have same := matched.symm.trans reached
      cases same
      have stays := greedy.takes.inside inside
      rw [taken]
      refine ⟨count, greedy, rfl, consumed, fun _ => Nat.le_antisymm stays ended, fun stop member => ?_⟩
      rw [Preceding.shorterEnds_eq_nil rfl] at member
      cases member
  · cases last with
    | false => exact absurd found (failed outcome final)
    | true =>
      have ⟨inner, reached, _⟩ := endAnchor_eq_ok.1 found
      exact absurd reached (failed inner final)

/-- An item matches where it can take runes, and before an end anchor if they reach the end. -/
theorem Item.anchored_matches {item : Item} {last : Bool} {count : Nat} (rollback : Rollback)
    (inside : state.offset ≤ subject.size) (greedy : item.Greedy subject state.offset count)
    (ended : last = true → state.offset + count = subject.size) :
    ∃ outcome final, (item.anchored false last).attemptWith rollback subject state =
      ⟨.ok outcome, final⟩ := by
  rcases item.attempt rollback inside with
    ⟨most, own, greediest, matched, _⟩ | ⟨refuses, _⟩
  · cases last with
    | false => exact ⟨own, _, matched⟩
    | true =>
      have reached := greediest.most count greedy.takes greedy.allows
      have all := ended rfl
      refine ⟨_, _, endAnchor_eq_ok.2 ⟨own, matched, ?_, rfl⟩⟩
      rw [State.at_offset]
      omega
  · exact absurd greedy.allows (refuses count greedy.takes)

/-- Giving rounds back for an item is useless where each leaves a rune that the item rejects. -/
theorem Item.orAfterGiveback_eq_ok {item : Item} {rest : List Item} {last : Bool}
    {preceding : Option Preceding} (inside : state.offset ≤ subject.size)
    (blocked : ∀ latest ∈ preceding, ∀ stop ∈ latest.shorterEnds,
      ∃ rune, subject[stop]? = some rune ∧ Rejects rune (item :: rest)) :
    orAfterGiveback ((item.anchored false last).attemptWith rollback subject) preceding state =
        ⟨.ok outcome, final⟩ ↔
      (item.anchored false last).attemptWith rollback subject state = ⟨.ok outcome, final⟩ := by
  refine orAfterGiveback_eq_ok_of_useless fun start first next tried found => ?_
  rcases tried with same | ⟨latest, isLatest, shorter⟩
  · have ⟨count, greedy, _, _, ended, _⟩ := anchored_eq_ok (same ▸ inside) found
    rw [same] at greedy ended
    exact anchored_matches rollback inside greedy ended
  · have ⟨rune, present, rejected, _⟩ := blocked latest isLatest _ shorter
    have ⟨within, _⟩ := Array.getElem?_eq_some_iff.1 present
    have ⟨count, greedy, _, _, ended, _⟩ := anchored_eq_ok (Nat.le_of_lt within) found
    -- the item can take no rune there, so it may be left out, and it may be left out here as well
    have nothing : count = 0 := by
      by_contra positive
      have ⟨other, here, accepted⟩ := greedy.takes start.offset (Nat.le_refl _) (by omega)
      rw [present] at here
      cases here
      rw [rejected] at accepted
      cases accepted
    have notLast : last = false := by
      cases last with
      | false => rfl
      | true =>
        have all := ended rfl
        omega
    rcases item.attempt rollback inside with ⟨most, own, greediest, _⟩ | ⟨refuses, _⟩
    · rw [notLast]
      exact anchored_matches rollback inside greediest fun isLast => (nomatch isLast)
    · have allowed : item.Allows 0 := nothing ▸ greedy.allows
      exact absurd allowed (refuses 0 fun offset low high => by omega)

/-! ## Attempts of rows -/

/-- The ends of items in a row that begin at an offset, before an end anchor or not. -/
def ends (subject : Array Char) (atEnd : Bool) (items : List Item) (start : Nat) : Set Nat :=
  {stop | Spells subject items start stop ∧ (atEnd = true → stop = subject.size)}

/-- Taking as many runes as an item can reaches every end of the row, except ends before the place
that this reaches; and then the rest may be left out there. -/
theorem ends_of_greedy {atEnd : Bool} {item : Item} {rest : List Item} {start count stop : Nat}
    (unambiguous : Unambiguous (item :: rest)) (greedy : item.Greedy subject start count)
    (reached : stop ∈ ends subject atEnd (item :: rest) start) :
    stop ∈ ends subject atEnd rest (start + count) ∨
      (stop < start + count ∧ start + count ∈ ends subject atEnd rest (start + count)) := by
  have ⟨⟨fewer, allowed, takes, later⟩, ended⟩ := reached
  have most := greedy.most fewer takes allowed
  by_cases all : fewer = count
  · rw [all] at later
    exact .inl ⟨later, ended⟩
  · have ⟨rune, present, accepted⟩ := greedy.takes (start + fewer) (by omega) (by omega)
    have ⟨within, _⟩ := Array.getElem?_eq_some_iff.1 present
    have quantified : item.quantifier ≠ none := by
      intro once
      have allowedToo := greedy.allows
      simp only [Item.Allows, once] at allowed allowedToo
      omega
    have ⟨same, leftOut⟩ := spells_of_rejects present
      ((unambiguous_cons.1 unambiguous).1 quantified rune accepted) later
    refine .inr ⟨by omega, spells_nothing leftOut _, fun isAtEnd => ?_⟩
    have whole := ended isAtEnd
    omega

/-- From a state the engine takes a row to its greatest end, and fails only where the row has none. -/
structure Exhausts (rollback : Rollback) (subject : Array Char) (began : Nat) (atEnd : Bool)
    (preceding : Option Preceding) (items : List Item) (state : State) : Prop where
  /-- Where it succeeds it has reached the greatest end. -/
  greatest : ∀ outcome final,
    attemptSequence rollback subject began preceding (nodes atEnd false items) state =
      ⟨.ok outcome, final⟩ →
    IsGreatest (ends subject atEnd items state.offset) final.offset
  /-- Where there is an end it succeeds. -/
  complete : (ends subject atEnd items state.offset).Nonempty →
    ∃ outcome final, attemptSequence rollback subject began preceding (nodes atEnd false items)
      state = ⟨.ok outcome, final⟩

/-- An item before an end anchor that has an end there takes all the runes up to it. -/
theorem end_of_greedy {atEnd : Bool} {item : Item} {rest : List Item} {start count stop : Nat}
    (unambiguous : Unambiguous (item :: rest)) (greedy : item.Greedy subject start count)
    (reached : stop ∈ ends subject atEnd (item :: rest) start)
    (isLast : (rest.isEmpty && atEnd) = true) : start + count = subject.size := by
  have ⟨isEmpty, isAtEnd⟩ := Bool.and_eq_true_iff.1 isLast
  have none : rest = [] := List.isEmpty_iff.1 isEmpty
  subst none
  rcases ends_of_greedy unambiguous greedy reached with ⟨same, ended⟩ | ⟨_, _, ended⟩
  · rw [Spells] at same
    rw [same]
    exact ended isAtEnd
  · exact ended isAtEnd

/-- The engine exhausts a row if it exhausts the rest from wherever the first item matches. -/
theorem Exhausts.cons {began : Nat} {atEnd : Bool} {preceding : Option Preceding} {item : Item}
    {rest : List Item} (unambiguous : Unambiguous (item :: rest))
    (inside : state.offset ≤ subject.size)
    (blocked : ∀ latest ∈ preceding, ∀ stop ∈ latest.shorterEnds,
      ∃ rune, subject[stop]? = some rune ∧ Rejects rune (item :: rest))
    (onward : ∀ inner next, (item.anchored false (rest.isEmpty && atEnd)).attemptWith rollback
        subject state = ⟨.ok inner, next⟩ →
      Exhausts rollback subject began atEnd (some ⟨next.offset - inner.consumed, inner⟩) rest next) :
    Exhausts rollback subject began atEnd preceding (item :: rest) state where
  greatest outcome final found := by
    have ⟨inner, next, matched, later⟩ := attemptSequence_cons_eq_ok.1 found
    rw [Item.orAfterGiveback_eq_ok inside blocked] at matched
    have ⟨count, greedy, moved, _⟩ := Item.anchored_eq_ok inside matched
    have ⟨reached, upper⟩ := (onward inner next matched).greatest outcome final later
    rw [moved, State.at_offset] at reached upper
    refine ⟨⟨⟨count, greedy.allows, greedy.takes, reached.1⟩, reached.2⟩, fun stop ends => ?_⟩
    rcases ends_of_greedy unambiguous greedy ends with further | ⟨less, shortest⟩
    · exact upper further
    · exact Nat.le_trans (Nat.le_of_lt less) (upper shortest)
  complete := by
    intro ⟨stop, reached⟩
    have takes : ∃ inner next, (item.anchored false (rest.isEmpty && atEnd)).attemptWith rollback
        subject state = ⟨.ok inner, next⟩ := by
      rcases item.attempt rollback inside with ⟨count, _, greedy, _⟩ | ⟨refuses, _⟩
      · exact Item.anchored_matches rollback inside greedy
          (end_of_greedy unambiguous greedy reached)
      · have ⟨⟨count, allowed, runes, _⟩, _⟩ := reached
        exact absurd allowed (refuses count runes)
    have ⟨inner, next, matched⟩ := takes
    have ⟨count, greedy, moved, _⟩ := Item.anchored_eq_ok inside matched
    have further : (ends subject atEnd rest next.offset).Nonempty := by
      rw [moved, State.at_offset]
      rcases ends_of_greedy unambiguous greedy reached with further | ⟨_, shortest⟩
      · exact ⟨stop, further⟩
      · exact ⟨_, shortest⟩
    have ⟨outcome, final, later⟩ := (onward inner next matched).complete further
    refine ⟨outcome, final, attemptSequence_cons_eq_ok.2 ⟨inner, next, ?_, later⟩⟩
    rw [Item.orAfterGiveback_eq_ok inside blocked]
    exact matched

/-- The engine exhausts an unambiguous row, wherever the row stands, as long as the repetition before
it leaves only runes that the row rejects. -/
theorem exhausts_row {began : Nat} {atEnd : Bool} (items : List Item)
    (unambiguous : Unambiguous items) (preceding : Option Preceding) (state : State)
    (inside : state.offset ≤ subject.size)
    (ended : items = [] → atEnd = true → state.offset = subject.size)
    (blocked : ∀ latest ∈ preceding, ∀ stop ∈ latest.shorterEnds,
      ∃ rune, subject[stop]? = some rune ∧ Rejects rune items) :
    Exhausts rollback subject began atEnd preceding items state := by
  induction items generalizing preceding state with
  | nil =>
    refine ⟨fun outcome final found => ?_, fun _ => ⟨_, state, rfl⟩⟩
    rw [nodes, attemptSequence, success_eq_ok] at found
    rw [← found.2]
    exact ⟨⟨rfl, ended rfl⟩, fun stop ⟨same, _⟩ => Nat.le_of_eq same.symm⟩
  | cons item rest ih =>
    refine Exhausts.cons unambiguous inside blocked fun inner next matched => ?_
    have ⟨count, greedy, moved, consumed, atLast, shorter⟩ := Item.anchored_eq_ok inside matched
    have begins : next.offset - inner.consumed = state.offset := by
      rw [moved, consumed, State.at_offset, Nat.add_sub_cancel]
    refine ih (unambiguous_cons.1 unambiguous).2 _ next ?_ ?_ ?_
    · rw [moved]
      exact greedy.takes.inside inside
    · intro empty isAtEnd
      rw [moved]
      exact atLast (by rw [empty, isAtEnd]; rfl)
    · intro latest isLatest stop member
      cases isLatest
      rw [begins] at member
      have ⟨quantified, low, high⟩ := shorter stop member
      have ⟨rune, present, accepted⟩ := greedy.takes stop low high
      exact ⟨rune, present, (unambiguous_cons.1 unambiguous).1 quantified rune accepted⟩

/-! ## Searches -/

/-- A start anchor before an item adds that the item begins where the subject begins. -/
theorem Item.anchored_start_eq_ok {item : Item} {last : Bool} :
    (item.anchored true last).attemptWith rollback subject state = ⟨.ok outcome, final⟩ ↔
      state.offset = 0 ∧
        (item.anchored false last).attemptWith rollback subject state = ⟨.ok outcome, final⟩ := by
  cases last with
  | false => exact startAnchor_eq_ok
  | true =>
    show (endAnchor (startAnchor item.node)).attemptWith rollback subject state = _ ↔
      _ ∧ (endAnchor item.node).attemptWith rollback subject state = _
    simp only [endAnchor_eq_ok, startAnchor_eq_ok]
    constructor
    · intro ⟨inner, ⟨first, matched⟩, others⟩
      exact ⟨first, inner, matched, others⟩
    · intro ⟨first, inner, matched, others⟩
      exact ⟨inner, ⟨first, matched⟩, others⟩

/-- The tree of a flat pattern is attempted as its row, where a start anchor allows it. -/
theorem root_eq_ok (flat : Flat) :
    flat.root.attemptWith rollback subject state = ⟨.ok outcome, final⟩ ↔
      (flat.atStart = true → state.offset = 0) ∧
        attemptSequence rollback subject state.offset none (nodes flat.atEnd false flat.items) state
          = ⟨.ok outcome, final⟩ := by
  rw [root, sequence_eq_ok]
  cases row : flat.items with
  | nil => exact absurd row flat.nonempty
  | cons item rest =>
    cases flat.atStart with
    | false => simp
    | true =>
      simp only [nodes, attemptSequence_cons_eq_ok, orAfterGiveback_none_eq_ok,
        Item.anchored_start_eq_ok]
      constructor
      · intro ⟨inner, next, ⟨first, matched⟩, later⟩
        exact ⟨fun _ => first, inner, next, matched, later⟩
      · intro ⟨first, inner, next, matched, later⟩
        exact ⟨inner, next, ⟨first trivial, matched⟩, later⟩

/-- The matches of a flat pattern that begin at an offset are the ends of its row. -/
theorem matches_iff (flat : Flat) {start stop : Nat} (inside : start ≤ subject.size) :
    flat.Matches subject start stop ↔
      (flat.atStart = true → start = 0) ∧ stop ∈ ends subject flat.atEnd flat.items start := by
  constructor
  · intro matched
    exact ⟨matched.atStart, matched.spells, matched.atEnd⟩
  · intro ⟨atStart, spells, atEnd⟩
    exact ⟨inside, atStart, spells, atEnd⟩

/-- At an offset a flat pattern matches up to the greatest end, or not at all. -/
theorem matchAt?_isGreatest (flat : Flat) (rollback : Rollback)
    (unambiguous : Unambiguous flat.items) {start : Nat} (inside : start ≤ subject.size) :
    (∀ found, Pattern.matchAt? rollback flat.root subject start = some found →
      IsGreatest {stop | flat.Matches subject start stop} found.stop) ∧
    (Pattern.matchAt? rollback flat.root subject start = none →
      ∀ stop, ¬ flat.Matches subject start stop) := by
  have row : Exhausts rollback subject start flat.atEnd none flat.items ⟨start, .empty⟩ :=
    exhausts_row flat.items unambiguous none ⟨start, .empty⟩ inside
      (fun empty => absurd empty flat.nonempty) (by simp)
  constructor
  · intro found isFound
    have ⟨outcome, final, attempted, shown⟩ := (Pattern.matchAt?_eq_some inside).1 isFound
    have ⟨first, matched⟩ := flat.root_eq_ok.1 attempted
    have ⟨reached, upper⟩ := row.greatest outcome final matched
    rw [shown]
    exact ⟨(flat.matches_iff inside).2 ⟨first, reached⟩,
      fun stop other => upper ((flat.matches_iff inside).1 other).2⟩
  · intro nothing stop matched
    have ⟨first, reached⟩ := (flat.matches_iff inside).1 matched
    have ⟨outcome, final, found⟩ := row.complete ⟨stop, reached⟩
    have ⟨mismatch, state, failed⟩ := Pattern.matchAt?_eq_none.1 nothing
    rw [flat.root_eq_ok.2 ⟨first, found⟩] at failed
    cases failed

/-- A search for an unambiguous flat pattern finds something exactly when the pattern matches
somewhere, and then it finds the match with the least start and the greatest end from there. -/
theorem find_isLeast_isGreatest (pattern : Pattern) (flat : Flat) (isFlat : pattern.root = flat.root)
    (unambiguous : Unambiguous flat.items) (subject : Text) :
    ((pattern.find subject).isSome = true ↔
      ∃ start stop, flat.Matches subject.toArray start stop) ∧
    ∀ found, pattern.find subject = some found →
      IsLeast {start | ∃ stop, flat.Matches subject.toArray start stop} found.start ∧
      IsGreatest {stop | flat.Matches subject.toArray found.start stop} found.stop := by
  have best : ∀ found, pattern.find subject = some found →
      IsLeast {start | ∃ stop, flat.Matches subject.toArray start stop} found.start ∧
      IsGreatest {stop | flat.Matches subject.toArray found.start stop} found.stop := by
    intro found isFound
    have ⟨within, here, nothing⟩ := Pattern.findWith_eq_some.1 isFound
    rw [← List.size_toArray] at within
    rw [isFlat] at here nothing
    have greatest := (flat.matchAt?_isGreatest .offset unambiguous within).1 found here
    refine ⟨⟨⟨found.stop, greatest.1⟩, fun start ⟨stop, matched⟩ => ?_⟩, greatest⟩
    by_contra earlier
    exact (flat.matchAt?_isGreatest .offset unambiguous matched.start_le).2
      (nothing start (by omega)) stop matched
  refine ⟨?_, best⟩
  cases isFound : pattern.find subject with
  | some found =>
    have ⟨_, matched, _⟩ := best found isFound
    exact ⟨fun _ => ⟨found.start, found.stop, matched⟩, fun _ => rfl⟩
  | none =>
    have nothing := Pattern.findWith_eq_none.1 isFound
    rw [isFlat] at nothing
    refine ⟨fun isSome => (nomatch isSome), fun ⟨start, stop, matched⟩ => ?_⟩
    have within := matched.start_le
    rw [List.size_toArray] at within
    exact absurd matched ((flat.matchAt?_isGreatest .offset unambiguous matched.start_le).2
      (nothing start within) stop)

/-- The pattern `^a+b?ca$` is flat and unambiguous, though both ends of it accept the same rune, and
finds all of `aaca`. -/
theorem find_isGreatest_of_anchored :
    ∃ (pattern : Pattern) (flat : Flat), Pattern.compile "^a+b?ca$".toList = .ok pattern ∧
      pattern.root = flat.root ∧ Unambiguous flat.items ∧
      IsLeast {start | ∃ stop, flat.Matches "aaca".toList.toArray start stop} 0 ∧
      IsGreatest {stop | flat.Matches "aaca".toList.toArray 0 stop} 4 := by
  let flat : Flat := ⟨[⟨.literal 'a', rfl, some .plus⟩, ⟨.literal 'b', rfl, some .question⟩,
    ⟨.literal 'c', rfl, none⟩, ⟨.literal 'a', rfl, none⟩], by simp, true, true⟩
  let pattern : Pattern := ⟨"^a+b?ca$".toList, flat.root, 0⟩
  have unambiguous : Unambiguous flat.items := by
    simp [flat, unambiguous_cons, unambiguous_nil, Rejects, accepts]
  have ⟨_, best⟩ := find_isLeast_isGreatest pattern flat rfl unambiguous "aaca".toList
  have ⟨least, greatest⟩ := best ⟨0, 4, "aaca".toList, .empty⟩ rfl
  exact ⟨pattern, flat, rfl, rfl, unambiguous, least, greatest⟩

end Flat
end PatternSearch
