import PatternSearch.Proofs.Alternatives

/-!
# Patterns one behind the other

The text of a sequence behind the text of another one makes the pattern of all their elements. Nothing is
read again at the seam: a spelling of elements behind a spelling of elements is a spelling of all of them,
whatever the one ends with and the other begins with, and the elements may stand in one row
(`row_append`). Two things have to be kept out. An element that begins with a `^` may only stand first
(`Piece.later_of_spelledBy`), and a `^` that anchors nothing would anchor what comes behind it.

The groups of the second text are read behind those of the first one, so their indices grow by the number
of groups before them. What backreferences name is written in the text and stays (`compile_append`).
-/
namespace PatternSearch

namespace Node

variable {nodes others : List Node} {text : Text}

/-- An element that is not written with a `^` at its beginning may stand behind others. -/
theorem Piece.later_of_spelledBy :
    {first : Bool} → {node : Node} → Piece first node → {text : Text} → node.SpelledBy text →
      text.head? ≠ some '^' → Piece false node
  | _, _, .operand element, _, _, _ => .operand element
  | _, _, .startAnchor _, text, spelled, noCaret => by
    obtain ⟨inside, _, same⟩ := spelled
    rw [same] at noCaret
    exact absurd rfl noCaret
  | _, _, .bareStartAnchor, text, spelled, noCaret => by
    obtain ⟨inside, _, same⟩ := spelled
    rw [same] at noCaret
    exact absurd rfl noCaret
  | _, _, .endAnchor piece, text, spelled, noCaret => by
    obtain ⟨inside, here, same⟩ := spelled
    have noCaretInside : inside.head? ≠ some '^' := by
      intro caret
      rw [same, List.head?_append, caret] at noCaret
      exact noCaret rfl
    exact .endAnchor (piece.later_of_spelledBy here noCaretInside)

/-- All elements of a branch may stand behind others if its text does not begin with a `^`. -/
theorem later_of_row (row : Row (.sequence nodes)) (spelled : RowSpelledBy nodes text)
    (noCaret : text.head? ≠ some '^') : ∀ node ∈ nodes, Piece false node := by
  cases row with
  | empty => exact fun _ none => absurd none List.not_mem_nil
  | @cons head rest first last later =>
    obtain ⟨front, behind, here, _, same⟩ := spelled
    have noCaretInFront : front.head? ≠ some '^' := by
      intro caret
      rw [same, List.head?_append, caret] at noCaret
      exact noCaret rfl
    intro node member
    rcases List.mem_cons.1 member with isHead | isLater
    · rw [isHead]
      exact first.later_of_spelledBy here noCaretInFront
    · exact later node isLater

/-- Elements that may stand behind others may stand behind every branch but the one in which a `^`
anchors nothing. -/
theorem row_append (row : Row (.sequence nodes)) (anchors : nodes ≠ [.startAnchor (.sequence [])])
    (behind : Row (.sequence others)) (later : ∀ node ∈ others, Piece false node) :
    Row (.sequence (nodes ++ others)) := by
  cases row with
  | empty => exact behind
  | @cons head rest first last inside =>
    apply Row.cons first
    · intro bare
      rw [bare, last bare] at anchors
      exact absurd rfl anchors
    · intro node member
      rcases List.mem_append.1 member with isInside | isBehind
      · exact inside node isInside
      · exact later node isBehind

/-- Only a lone `^` writes a `^` that anchors nothing, and no more. -/
theorem eq_caret_of_rowSpelledBy (spelled : RowSpelledBy [.startAnchor (.sequence [])] text) :
    text = ['^'] := by
  obtain ⟨inside, nothing, same⟩ := rowSpelledBy_singleton.1 spelled
  rw [same, show inside = [] from nothing]

/-- A sequence behind a sequence is written by their texts one behind the other. The groups of the second
one are numbered behind those of the first one. -/
theorem Written.append {count further : Nat} {first second : Text}
    (before : Written [.sequence nodes] count first) (behind : Written [.sequence others] further second)
    (anchors : first ≠ ['^']) (noCaret : second.head? ≠ some '^') :
    Written [.sequence (nodes ++ others.map (relabel (count + ·)))] (count + further)
      (first ++ second) := by
  have row : Row (.sequence nodes) := before.rows _ (List.mem_singleton_self _)
  have ⟨_, rows, spelled⟩ := behind.relabeled (count + ·)
  rw [List.map_singleton, relabel_sequence] at rows spelled
  have row' : Row (.sequence (others.map (relabel (count + ·)))) := rows _ (List.mem_singleton_self _)
  constructor
  case nonempty => exact List.cons_ne_nil _ _
  case rows =>
    intro branch member
    rw [List.mem_singleton.1 member]
    refine row_append row (fun bare => ?_) row' (later_of_row row' spelled noCaret)
    have written : RowSpelledBy nodes first := before.spelled
    rw [bare] at written
    exact anchors (eq_caret_of_rowSpelledBy written)
  case spelled => exact rowSpelledBy_append.2 ⟨first, second, before.spelled, spelled, rfl⟩
  case numbered =>
    have numbered := before.numbered
    have numbered' := behind.numbered
    have split := @List.range'_append 1 count further 1
    rw [Nat.one_mul, Nat.add_comm 1 count] at split
    rw [List.flatMap_singleton, indices_sequence] at numbered numbered' ⊢
    rw [List.flatMap_append, flatMap_indices_relabel, numbered, numbered', List.map_add_range', split]

end Node

namespace Pattern

open Node

/-- Texts of two sequences make, one behind the other, a pattern of the elements of both. The indices of
the groups in the second text grow by the number of groups in the first one, and what its backreferences
name stays. The second text must not begin with a `^`, and the first one must not be a lone `^`. -/
theorem compile_append (first second : Text) (left right : Pattern) (nodes others : List Node)
    (compiledFirst : compile first = .ok left) (compiledSecond : compile second = .ok right)
    (isRow : left.root = .sequence nodes) (isRow' : right.root = .sequence others)
    (anchors : first ≠ ['^']) (noCaret : second.head? ≠ some '^') :
    compile (first ++ second) = .ok ⟨first ++ second,
      .sequence (nodes ++ others.map (relabel (left.groupCount + ·))),
      left.groupCount + right.groupCount⟩ := by
  have before := written_of_compile compiledFirst
  have behind := written_of_compile compiledSecond
  rw [isRow] at before
  rw [isRow'] at behind
  exact compile_of_written_sequence (before.append behind anchors noCaret)

/-- The `0` behind `\1` is an element of its own. The groups of the second text become the second and the
third one, while its backreference still names the first one. -/
theorem compile_append_behind_backreference :
    ∃ left right, compile "^(a)$b+\\1".toList = .ok left ∧ compile "0?((c)\\1|)$".toList = .ok right ∧
      compile ("^(a)$b+\\1".toList ++ "0?((c)\\1|)$".toList) =
        .ok ⟨"^(a)$b+\\10?((c)\\1|)$".toList, .sequence
          [.endAnchor (.startAnchor (.group 1 [.sequence [.literal 'a']])), .onceOrMore (.literal 'b'),
            .backreference 1, .optional (.literal '0'),
            .endAnchor (.group 2 [.sequence [.group 3 [.sequence [.literal 'c']], .backreference 1],
              .sequence []])], 3⟩ := by
  let left : Pattern := ⟨"^(a)$b+\\1".toList, .sequence
    [.endAnchor (.startAnchor (.group 1 [.sequence [.literal 'a']])), .onceOrMore (.literal 'b'),
      .backreference 1], 1⟩
  let right : Pattern := ⟨"0?((c)\\1|)$".toList, .sequence
    [.optional (.literal '0'),
      .endAnchor (.group 1 [.sequence [.group 2 [.sequence [.literal 'c']], .backreference 1],
        .sequence []])], 2⟩
  have compiledLeft : compile "^(a)$b+\\1".toList = .ok left := rfl
  have compiledRight : compile "0?((c)\\1|)$".toList = .ok right := rfl
  exact ⟨left, right, compiledLeft, compiledRight, compile_append _ _ left right _ _ compiledLeft
    compiledRight rfl rfl (by decide) (by decide)⟩

end Pattern
end PatternSearch
