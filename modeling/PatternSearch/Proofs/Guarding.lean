import Mathlib.Algebra.Ring.Nat
import PatternSearch.Proofs.Scanning

/-!
# Guarded steps

A machine counts in words below a limit. A sum that reaches the limit, a difference below zero, and a
move or a slice outside of a text stop it. The steps of this module have no result where the machine is
stopped, so to say that it never is, one shows that a guarded computation has a result.

A cursor stands inside its text, so where the length of the text is a word, advancing and reading a
token never stop (`advance_eq_some`, `readToken_eq_some`).
-/
namespace PatternSearch

namespace Guarded

/-- The sum of two words, unless it reaches the limit. -/
def plus? (limit first second : Nat) : Option Nat :=
  if first + second < limit then some (first + second) else none

/-- The difference of two words, unless it would be below zero. -/
def minus? (first second : Nat) : Option Nat :=
  if second ≤ first then some (first - second) else none

/-- The sum of words, added up from the left, unless it reaches the limit on the way. -/
def sum? (limit : Nat) (words : List Nat) : Option Nat := words.foldlM (plus? limit) 0

/-- So many words from the front of a list, unless it has fewer. -/
def front? (words : List Nat) (count : Nat) : Option (List Nat) :=
  if count ≤ words.length then some (words.take count) else none

variable {limit first second : Nat}

/-- A sum below the limit is a word. -/
theorem plus?_eq_some (below : first + second < limit) :
    plus? limit first second = some (first + second) :=
  if_pos below

/-- The difference from a smaller word is a word. -/
theorem minus?_eq_some (enough : second ≤ first) : minus? first second = some (first - second) :=
  if_pos enough

/-- A list has any smaller number of words in front. -/
theorem front?_eq_some {words : List Nat} {count : Nat} (enough : count ≤ words.length) :
    front? words count = some (words.take count) :=
  if_pos enough

/-- Words are added up when their sum is below the limit: the sums on the way are smaller. -/
theorem sum?_eq_some {words : List Nat} (below : words.sum < limit) :
    sum? limit words = some words.sum := by
  have added : ∀ start, start + words.sum < limit →
      words.foldlM (plus? limit) start = some (start + words.sum) := by
    induction words with
    | nil => exact fun start _ => rfl
    | cons word later ih =>
      intro start within
      rw [List.sum_cons] at within below ⊢
      have first : plus? limit start word = some (start + word) := plus?_eq_some (by omega)
      rw [List.foldlM_cons, first]
      have rest := ih (by omega) (start + word) (by omega)
      rw [Nat.add_assoc] at rest
      exact rest
  have total := added 0 (by omega)
  rw [Nat.zero_add] at total
  exact total

/-- The rune in front of a cursor, if there is one, and the cursor past it, whose offset is a word. -/
def advance (limit : Nat) (cursor : Cursor) : Option (Option (Char × Cursor)) :=
  match cursor.advance? with
  | none => some none
  | some (rune, next) => do
    let _ ← plus? limit cursor.offset 1
    return some (rune, next)

/-- The token in front of a cursor, if there is one, and the cursor past it. -/
def readToken (limit : Nat) (cursor : Cursor) : Option (Option (Token × Cursor)) := do
  match ← advance limit cursor with
  | none => return none
  | some ('\\', next) =>
    match ← advance limit next with
    | none => return some (.danglingEscape, next)
    | some (rune, next) => return some (.escaped rune, next)
  | some (rune, next) => return some (.plain rune, next)

variable {cursor : Cursor}

/-- A cursor over a text whose length is a word is never stopped when it advances. -/
theorem advance_eq_some (short : cursor.runes.size < limit) :
    advance limit cursor = some cursor.advance? := by
  unfold advance Cursor.advance?
  by_cases inside : cursor.offset < cursor.runes.size
  · have word : cursor.offset + 1 < limit := by omega
    rw [dif_pos inside]
    simp only [plus?_eq_some word]
    rfl
  · rw [dif_neg inside]

/-- Neither is it when it reads a token. -/
theorem readToken_eq_some (short : cursor.runes.size < limit) :
    readToken limit cursor = some cursor.readToken? := by
  unfold readToken Cursor.readToken?
  rw [advance_eq_some short]
  cases advanced : cursor.advance? with
  | none => rfl
  | some step =>
    have same : step.2.runes = cursor.runes := (Cursor.rest_of_some advanced).2.1
    have further : advance limit step.2 = some step.2.advance? := advance_eq_some (same ▸ short)
    cases step with
    | mk rune next =>
      by_cases backslash : rune = '\\'
      · subst backslash
        simp only [further, Option.bind_eq_bind, Option.bind_some]
        cases next.advance? <;> rfl
      · simp only [Option.bind_eq_bind, Option.bind_some]
        rfl

end Guarded
end PatternSearch
