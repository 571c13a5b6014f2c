import PatternSearch.Pattern
import PatternSearch.Proofs.Descending
import PatternSearch.Proofs.Mirroring

/-!
# Unstopped

A pattern and a subject whose lengths are words do not stop the machine: the pattern is read to a tree
or to an error, and the tree is tried at every place of the subject, wherever it comes from.
-/
namespace PatternSearch.Pattern

open Guarded

variable {limit : Nat}

/-- Compile a pattern text by descent. -/
def guardedCompile (limit : Nat) (source : Text) : Option (Except PatternError Pattern) :=
  (descend? limit source).map fun read => do
    let (root, groupCount) ← read
    return ⟨source, root, groupCount⟩

/-- Try a tree at each of some start offsets, with nothing captured, until it matches. -/
def guardedFirst (limit : Nat) (root : Node) : (starts : List Nat) → Cursor → Option (Option Match)
  | [], _ => some none
  | start :: later, cursor => do
    let cursor ← cursor.reset? start
    match ← root.guarded limit ⟨cursor, .empty⟩ with
    | (.ok outcome, reached) =>
      let stop ← plus? limit start outcome.consumed
      let text ← reached.cursor.slice? start stop
      return some ⟨start, stop, text, reached.captures⟩
    | (.error _, failed) => guardedFirst limit root later failed.cursor

/-- Find the leftmost match of a pattern in a subject. -/
def guardedFind (limit : Nat) (pattern : Pattern) (subject : Text) : Option (Option Match) :=
  guardedFirst limit pattern.root (List.range (subject.length + 1)) (.ofText subject)

/-- Whether a pattern matches anywhere in a subject. -/
def guardedOccursIn (limit : Nat) (pattern : Pattern) (subject : Text) : Option Bool :=
  (guardedFind limit pattern subject).map Option.isSome

/-- The start offsets are in the subject, and the text of a match lies in it as well. -/
theorem guardedFirst_eq_some {root : Node} {starts : List Nat} {subject : Array Char} {cursor : Cursor}
    (short : subject.size < limit) (inText : cursor.runes = subject)
    (inside : ∀ start ∈ starts, start ≤ subject.size) :
    guardedFirst limit root starts cursor =
      some (starts.findSome? (matchAt? .offset root subject)) := by
  induction starts generalizing cursor with
  | nil => rfl
  | cons start later ih =>
    have here : start ≤ subject.size := inside start List.mem_cons_self
    have there := fun other member => inside other (List.mem_cons_of_mem start member)
    have moved : cursor.reset? start = some ⟨subject, start, here⟩ := by
      subst inText
      exact dif_pos here
    have mirrors := Node.mirrors_guarded short root ⟨⟨subject, start, here⟩, .empty⟩ rfl
    rw [guardedFirst, List.findSome?_cons, matchAt?]
    simp only [moved, Option.bind_eq_bind, Option.bind_some]
    rcases mirrors.cases with
      ⟨outcome, reached, isRan, matched, inText'⟩ | ⟨mismatch, failed, isRan, matched, inText'⟩
    · have accounts := Node.accounts_of_attemptWith root here matched
      have within : start + outcome.consumed ≤ subject.size := accounts.stop_eq ▸ accounts.stop_le
      have stop : plus? limit start outcome.consumed = some (start + outcome.consumed) :=
        plus?_eq_some (by omega)
      have text : reached.cursor.slice? start (start + outcome.consumed) =
          some (subject.extract start (start + outcome.consumed)).toList := by
        rw [Cursor.slice?, inText', if_pos ⟨Nat.le_add_right _ _, within⟩]
      rw [isRan, show root.attemptWith .offset subject ⟨start, .empty⟩ = _ from matched]
      simp only [stop, text, Option.bind_some]
      rfl
    · rw [isRan, show root.attemptWith .offset subject ⟨start, .empty⟩ = _ from matched]
      exact ih inText' there

/-- A guarded search is nowhere stopped, and finds the leftmost match. -/
theorem guardedFind_eq_some {pattern : Pattern} {subject : Text} (short : subject.length < limit) :
    guardedFind limit pattern subject = some (pattern.find subject) := by
  have first := @guardedFirst_eq_some limit pattern.root (List.range (subject.length + 1))
    subject.toArray (.ofText subject) short rfl fun start member => by
      have := List.mem_range.1 member
      rw [List.size_toArray]
      omega
  rw [guardedFind, first, find, findWith, List.size_toArray]

/-- Where the lengths of texts are words, no pattern text and no subject stops the machine. Reading a
pattern text comes to the tree or the error that a draft comes to. A tree of any shape, tried at any
offset of a subject with any captured texts, comes to the result, the offset and the captured texts of
an attempt. So a pattern is found where its leftmost match is. -/
theorem unstopped (limit : Nat) :
    (∀ source : Text, source.length + 1 < limit →
      descend? limit source = some (parse source) ∧
        guardedCompile limit source = some (compile source)) ∧
    (∀ subject : Array Char, subject.size < limit →
      ∀ (node : Node) (offset : Nat) (inside : offset ≤ subject.size) (captures : Captures),
        ∃ reached : Standing,
          node.guarded limit ⟨⟨subject, offset, inside⟩, captures⟩ =
              some ((node.attempt subject ⟨offset, captures⟩).result, reached) ∧
            reached.cursor.runes = subject ∧
            reached.state = (node.attempt subject ⟨offset, captures⟩).state) ∧
    ∀ subject : Text, subject.length < limit → ∀ pattern : Pattern,
      guardedFind limit pattern subject = some (pattern.find subject) ∧
        guardedOccursIn limit pattern subject = some (pattern.occursIn subject) := by
  refine ⟨?reading, ?attempting, ?finding⟩
  case reading =>
    intro source short
    have reads : descend? limit source = some (parse source) := descend_eq_parse short
    exact ⟨reads, by rw [guardedCompile, reads, Option.map_some, compile]⟩
  case attempting =>
    intro subject short node offset inside captures
    exact Node.mirrors_guarded short node ⟨⟨subject, offset, inside⟩, captures⟩ rfl
  case finding =>
    intro subject short pattern
    have finds : guardedFind limit pattern subject = some (pattern.find subject) :=
      guardedFind_eq_some short
    exact ⟨finds, by rw [guardedOccursIn, finds, Option.map_some, occursIn]⟩

/-- In words of 64 bits, a pattern text that ends in a backslash is read to an error; a repetition of
empty rounds that has to be taken more often than it may be fails at the end of the subject `a`; and
`a+a` is found in the subject `aa` after a round is given back. -/
theorem unstopped_in_long_words :
    descend? (2 ^ 64) ['(', 'a', '\\'] = some (.error ⟨2, .danglingEscape⟩) ∧
    (∃ reached : Standing,
      (Node.repetition (.repetition (.literal 'b') 0 none) 2 (some 1)).guarded (2 ^ 64)
          ⟨⟨#['a'], 1, Nat.le_refl 1⟩, .empty⟩ =
        some (.error .tooFewRepetitions, reached) ∧ reached.state = ⟨1, .empty⟩) ∧
    guardedFind (2 ^ 64) ⟨['a', '+', 'a'], .sequence [.repetition (.literal 'a') 1 none, .literal 'a'], 0⟩
      ['a', 'a'] = some (some ⟨0, 2, ['a', 'a'], .empty⟩) := by
  have ⟨reading, attempting, finding⟩ := unstopped (2 ^ 64)
  have reads := (reading ['(', 'a', '\\'] (by decide)).1
  have ⟨reached, isRan, _, stands⟩ := attempting #['a'] (by decide)
    (.repetition (.repetition (.literal 'b') 0 none) 2 (some 1)) 1 (Nat.le_refl 1) .empty
  have finds := (finding ['a', 'a'] (by decide)
    ⟨['a', '+', 'a'], .sequence [.repetition (.literal 'a') 1 none, .literal 'a'], 0⟩).1
  exact ⟨reads, ⟨reached, isRan, stands⟩, finds⟩

end PatternSearch.Pattern
