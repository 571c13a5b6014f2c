/-!
# Tables of code points

A set of code points is written as the inclusive ranges it consists of, in ascending order, as the
Unicode character database writes its properties. A table carries the proof of that order, so membership
may stop at the first range that begins past the code point: `contains_iff` says that it is membership
in some range.
-/
namespace PatternSearch

/-- An inclusive range of code points: the first one and the last one. -/
abbrev CodeRange := Nat × Nat

/-- The ranges follow one another: each is nonempty and ends before the next one begins. -/
def Ascending : List CodeRange → Prop
  | [] => True
  | [(first, last)] => first ≤ last
  | (first, last) :: (next, stop) :: rest =>
    first ≤ last ∧ last < next ∧ Ascending ((next, stop) :: rest)

namespace Ascending

/-- Whether ranges follow one another can be checked range by range. -/
def decide : (ranges : List CodeRange) → Decidable (Ascending ranges)
  | [] => isTrue trivial
  | [(first, last)] => inferInstanceAs (Decidable (first ≤ last))
  | (first, last) :: (next, stop) :: rest =>
    have : Decidable (Ascending ((next, stop) :: rest)) := decide ((next, stop) :: rest)
    inferInstanceAs
      (Decidable (first ≤ last ∧ last < next ∧ Ascending ((next, stop) :: rest)))

/-- So it can be decided whether they do. -/
instance (ranges : List CodeRange) : Decidable (Ascending ranges) := decide ranges

/-- Each of ascending ranges begins no earlier than the first one. -/
theorem first_le {head : CodeRange} {rest : List CodeRange} (ascending : Ascending (head :: rest)) :
    ∀ range ∈ head :: rest, head.1 ≤ range.1 := by
  induction rest generalizing head with
  | nil => simp
  | cons next rest ih =>
    obtain ⟨nonempty, apart, later⟩ := ascending
    intro range member
    rcases List.mem_cons.1 member with rfl | member
    · exact Nat.le_refl _
    · have := ih later range member
      omega

/-- The ranges after the first one are ascending. -/
theorem tail {head : CodeRange} {rest : List CodeRange} (ascending : Ascending (head :: rest)) :
    Ascending rest := by
  cases rest with
  | nil => trivial
  | cons next rest => exact ascending.2.2

end Ascending

/-- Inclusive ranges of code points, in ascending order. -/
structure RangeTable where
  /-- The ranges. -/
  ranges : List CodeRange
  /-- They follow one another. -/
  ascending : Ascending ranges

namespace RangeTable

/-- Whether one of ascending ranges holds a code point. -/
def anyContains : List CodeRange → Nat → Bool
  | [], _ => false
  | (first, last) :: rest, point =>
    if point < first then false else point ≤ last || anyContains rest point

/-- Whether some range of the table holds a code point. -/
def contains (table : RangeTable) (point : Nat) : Bool := anyContains table.ranges point

/-- The set of code points that the ranges of the table make up. -/
def Holds (table : RangeTable) (point : Nat) : Prop :=
  ∃ range ∈ table.ranges, range.1 ≤ point ∧ point ≤ range.2

/-- Ascending ranges are searched as far as they may hold a code point. -/
theorem anyContains_iff {ranges : List CodeRange} (ascending : Ascending ranges) (point : Nat) :
    anyContains ranges point = true ↔ ∃ range ∈ ranges, range.1 ≤ point ∧ point ≤ range.2 := by
  induction ranges with
  | nil => simp [anyContains]
  | cons head rest ih =>
    have lowest := ascending.first_le
    simp only [anyContains]
    split
    · rename_i before
      simp only [Bool.false_eq_true, false_iff, not_exists, not_and]
      intro range member inside
      have := lowest range member
      omega
    · rename_i within
      simp only [Bool.or_eq_true, decide_eq_true_eq, ih ascending.tail, List.mem_cons,
        exists_eq_or_imp]
      constructor
      · rintro (inside | found)
        · exact .inl ⟨by omega, inside⟩
        · exact .inr found
      · rintro (⟨_, inside⟩ | found)
        · exact .inl inside
        · exact .inr found

/-- A table contains a code point exactly when one of its ranges holds it. -/
theorem contains_iff {table : RangeTable} {point : Nat} :
    table.contains point = true ↔ table.Holds point :=
  anyContains_iff table.ascending point

end RangeTable
end PatternSearch
