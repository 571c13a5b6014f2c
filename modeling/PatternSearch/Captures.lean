import PatternSearch.Text

/-!
# Captured texts

While a pattern is matched, every group records the text it matched last under its index. A table
keeps one text for an index, in ascending order of the indices, so two tables that answer every
look-up alike are equal (`ext_get?`). `get?_record` says what recording does to look-ups.
-/
namespace PatternSearch

/-- The texts captured by groups, by group index. -/
structure Captures where
  /-- The indices with their texts. -/
  entries : List (Nat × Text)
  /-- Indices ascend, so each occurs once. -/
  ascending : entries.Pairwise fun earlier later => earlier.1 < later.1
  deriving DecidableEq

namespace Captures

/-- The table without entries. -/
def empty : Captures := ⟨[], .nil⟩

/-- Whether no group has captured a text. -/
def isEmpty (captures : Captures) : Bool := captures.entries.isEmpty

/-- The text captured under an index. -/
def get? (captures : Captures) (index : Nat) : Option Text := captures.entries.lookup index

/-- The entry for an index, put in its place among ascending entries instead of an earlier one. -/
def place (index : Nat) (text : Text) : List (Nat × Text) → List (Nat × Text)
  | [] => [(index, text)]
  | entry :: rest =>
    if index < entry.1 then (index, text) :: entry :: rest
    else if index = entry.1 then (index, text) :: rest
    else entry :: place index text rest

/-- An index of a table after placing an entry is that of the entry or one from before. -/
theorem mem_place {index : Nat} {text : Text} {entries : List (Nat × Text)} {entry : Nat × Text}
    (member : entry ∈ place index text entries) : entry = (index, text) ∨ entry ∈ entries := by
  induction entries with
  | nil => simpa [place] using member
  | cons head rest ih =>
    simp only [place] at member
    split at member
    · simpa using member
    · split at member
      · rcases List.mem_cons.1 member with same | old
        · exact .inl same
        · exact .inr (List.mem_cons_of_mem _ old)
      · rcases List.mem_cons.1 member with same | old
        · exact .inr (same ▸ List.mem_cons_self)
        · exact (ih old).imp_right (List.mem_cons_of_mem _)

/-- Placing an entry keeps the indices ascending. -/
theorem pairwise_place {entries : List (Nat × Text)} (index : Nat) (text : Text)
    (ascending : entries.Pairwise fun earlier later => earlier.1 < later.1) :
    (place index text entries).Pairwise fun earlier later => earlier.1 < later.1 := by
  induction entries with
  | nil => simp [place]
  | cons head rest ih =>
    obtain ⟨below, later⟩ := List.pairwise_cons.1 ascending
    simp only [place]
    split
    · rename_i before
      refine List.pairwise_cons.2 ⟨fun entry member => ?_, ascending⟩
      rcases List.mem_cons.1 member with rfl | old
      · exact before
      · exact Nat.lt_trans before (below entry old)
    · split
      · rename_i same
        exact List.pairwise_cons.2 ⟨fun entry member => same ▸ below entry member, later⟩
      · refine List.pairwise_cons.2 ⟨fun entry member => ?_, ih later⟩
        rcases mem_place member with rfl | old
        · show head.1 < index
          omega
        · exact below entry old

/-- The table with a text recorded as the latest one of an index. -/
def record (captures : Captures) (index : Nat) (text : Text) : Captures :=
  ⟨place index text captures.entries, pairwise_place index text captures.ascending⟩

/-- No text is captured in the empty table. -/
@[simp] theorem get?_empty (index : Nat) : empty.get? index = none := rfl

/-- A look-up below the first index of ascending entries finds nothing. -/
theorem lookup_eq_none {entries : List (Nat × Text)} {index : Nat}
    (above : ∀ entry ∈ entries, index < entry.1) : entries.lookup index = none := by
  induction entries with
  | nil => rfl
  | cons head rest ih =>
    have : index < head.1 := above head List.mem_cons_self
    rw [show head = (head.1, head.2) from rfl, List.lookup_cons,
      beq_eq_false_iff_ne.2 (Nat.ne_of_lt this)]
    exact ih fun entry member => above entry (List.mem_cons_of_mem _ member)

/-- A look-up among entries with one of them placed. -/
theorem lookup_place {entries : List (Nat × Text)} (index : Nat) (text : Text) (other : Nat)
    (ascending : entries.Pairwise fun earlier later => earlier.1 < later.1) :
    (place index text entries).lookup other =
      if other = index then some text else entries.lookup other := by
  induction entries with
  | nil =>
    by_cases same : other = index
    · simp [place, same]
    · simp [place, List.lookup_cons, same, beq_eq_false_iff_ne.2 same]
  | cons head rest ih =>
    obtain ⟨first, own⟩ := head
    obtain ⟨below, later⟩ := List.pairwise_cons.1 ascending
    simp only [place]
    split
    · by_cases same : other = index
      · simp [same]
      · simp [List.lookup_cons, same, beq_eq_false_iff_ne.2 same]
    · split
      · rename_i same'
        by_cases same : other = index
        · simp [same]
        · have : (other == first) = false := beq_eq_false_iff_ne.2 (same' ▸ same)
          simp [List.lookup_cons, same, beq_eq_false_iff_ne.2 same, this]
      · rename_i notSame
        by_cases found : other = first
        · have : other ≠ index := fun same => notSame (same ▸ found)
          simp [found, found ▸ this]
        · rw [List.lookup_cons, List.lookup_cons, beq_eq_false_iff_ne.2 found]
          exact ih later

/-- Recording a text changes the look-up of its index alone. -/
@[simp] theorem get?_record (captures : Captures) (index : Nat) (text : Text) (other : Nat) :
    (captures.record index text).get? other =
      if other = index then some text else captures.get? other :=
  lookup_place index text other captures.ascending

/-- Ascending entries are determined by the look-ups they answer. -/
theorem entries_eq_of_lookup {left right : List (Nat × Text)}
    (leftAscending : left.Pairwise fun earlier later => earlier.1 < later.1)
    (rightAscending : right.Pairwise fun earlier later => earlier.1 < later.1)
    (same : ∀ index, left.lookup index = right.lookup index) : left = right := by
  induction left generalizing right with
  | nil =>
    cases right with
    | nil => rfl
    | cons head rest =>
      obtain ⟨first, own⟩ := head
      simpa using same first
  | cons head rest ih =>
    obtain ⟨first, own⟩ := head
    cases right with
    | nil => simpa using same first
    | cons head' rest' =>
      obtain ⟨first', own'⟩ := head'
      obtain ⟨below, later⟩ := List.pairwise_cons.1 leftAscending
      obtain ⟨below', later'⟩ := List.pairwise_cons.1 rightAscending
      have firsts : first = first' := by
        rcases Nat.lt_trichotomy first first' with before | equal | after
        · have := same first
          rw [List.lookup_cons_self, lookup_eq_none] at this
          · simp at this
          · intro entry member
            rcases List.mem_cons.1 member with rfl | old
            · exact before
            · exact Nat.lt_trans before (below' entry old)
        · exact equal
        · have := same first'
          rw [List.lookup_cons_self, lookup_eq_none] at this
          · simp at this
          · intro entry member
            rcases List.mem_cons.1 member with rfl | old
            · exact after
            · exact Nat.lt_trans after (below entry old)
      subst firsts
      have owns : own = own' := by simpa using same first
      subst owns
      congr 1
      refine ih later later' fun index => ?_
      by_cases atHead : index = first
      · subst atHead
        rw [lookup_eq_none fun entry member => below entry member,
          lookup_eq_none fun entry member => below' entry member]
      · have := same index
        rwa [List.lookup_cons, List.lookup_cons, beq_eq_false_iff_ne.2 atHead] at this

/-- Tables that answer every look-up alike are equal. -/
theorem ext_get? {left right : Captures} (same : ∀ index, left.get? index = right.get? index) :
    left = right := by
  obtain ⟨entries, ascending⟩ := left
  obtain ⟨entries', ascending'⟩ := right
  have := entries_eq_of_lookup ascending ascending' same
  subst this
  rfl

end Captures
end PatternSearch
