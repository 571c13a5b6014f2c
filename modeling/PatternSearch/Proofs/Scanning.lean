import PatternSearch.Cursor

/-!
# Tokens of a text, one by one

A text is scanned from its front. Every token but a backslash at the very end is whole: it is found
wherever its spelling stands, whatever comes after (`scanFrom_spelling_append`). Proofs about what is
read go through a text token by token with this law, and `scanFrom_append` extends it to texts of whole
tokens. A cursor that reads token after token finds the same ones (`Cursor.scanFrom_rest_of_some`).
-/
namespace PatternSearch

namespace Token

/-- A token that is the same whatever text comes after it. -/
def Whole : Token → Prop
  | .plain rune => rune ≠ '\\'
  | .escaped _ => True
  | .danglingEscape => False

/-- Whether a token is whole is a matter of the token. -/
instance : DecidablePred Whole
  | .plain rune => inferInstanceAs (Decidable (rune ≠ '\\'))
  | .escaped _ => .isTrue trivial
  | .danglingEscape => .isFalse id

/-- The spelling of a whole token at the front of a text is its first token. -/
theorem scanFrom_spelling_append {token : Token} (whole : token.Whole) (offset : Nat) (rest : Text) :
    scanFrom offset (token.spelling ++ rest) =
      (offset, token) :: scanFrom (offset + token.spelling.length) rest := by
  cases token with
  | plain rune =>
    show scanFrom offset (rune :: rest) = (offset, .plain rune) :: scanFrom (offset + 1) rest
    rw [scanFrom]
    · intro same
      exact absurd same whole
    · intro _ _ same
      exact absurd same whole
  | escaped rune =>
    show scanFrom offset ('\\' :: rune :: rest) = (offset, .escaped rune) :: scanFrom (offset + 2) rest
    rw [scanFrom]
  | danglingEscape => exact whole.elim

/-- Only a backslash at the very end of a text is a token that is not whole. -/
theorem whole_of_mem_scanFrom {offset : Nat} {text : Text} {place : Nat × Token}
    (member : place ∈ scanFrom offset text) : place.2.Whole ∨ place.2 = .danglingEscape := by
  fun_induction scanFrom offset text with
  | case1 => cases member
  | case2 offset =>
    rw [List.mem_singleton.1 member]
    exact .inr rfl
  | case3 offset rune rest ih =>
    rcases List.mem_cons.1 member with same | later
    · rw [same]
      exact .inl trivial
    · exact ih later
  | case4 offset first rest notLast notEscape ih =>
    rcases List.mem_cons.1 member with same | later
    · rw [same]
      refine .inl fun backslash => ?_
      cases rest with
      | nil => exact notLast backslash rfl
      | cons next rest => exact notEscape next rest backslash rfl
    · exact ih later

/-- Behind a text of whole tokens scanning goes on as if it began there. -/
theorem scanFrom_append {offset : Nat} {text : Text}
    (whole : ∀ place ∈ scanFrom offset text, place.2.Whole) (rest : Text) :
    scanFrom offset (text ++ rest) =
      scanFrom offset text ++ scanFrom (offset + text.length) rest := by
  fun_induction scanFrom offset text with
  | case1 offset => rfl
  | case2 offset => exact (whole _ List.mem_cons_self).elim
  | case3 offset rune behind ih =>
    have later := ih fun place member => whole place (List.mem_cons_of_mem _ member)
    have here := scanFrom_spelling_append (show (Token.escaped rune).Whole from trivial) offset
      (behind ++ rest)
    have length : offset + ('\\' :: rune :: behind).length = offset + 2 + behind.length := by
      simp only [List.length_cons]
      omega
    rw [length]
    exact here.trans (congrArg (List.cons _) later)
  | case4 offset first behind notLast notEscape ih =>
    have later := ih fun place member => whole place (List.mem_cons_of_mem _ member)
    have here := scanFrom_spelling_append (whole (offset, .plain first) List.mem_cons_self) offset
      (behind ++ rest)
    have length : offset + (first :: behind).length = offset + 1 + behind.length := by
      simp only [List.length_cons]
      omega
    rw [length]
    exact here.trans (congrArg (List.cons _) later)

/-- A text consists of whole tokens, or of whole tokens and a backslash behind them. -/
theorem exists_whole_front (offset : Nat) (text : Text) :
    ∃ front, (∀ place ∈ scanFrom offset front, place.2.Whole) ∧
      (text = front ∨ text = front ++ ['\\']) := by
  fun_induction scanFrom offset text with
  | case1 offset =>
    refine ⟨[], ?_, .inl rfl⟩
    intro place member
    rw [scanFrom] at member
    cases member
  | case2 offset =>
    refine ⟨[], ?_, .inr rfl⟩
    intro place member
    rw [scanFrom] at member
    cases member
  | case3 offset rune behind ih =>
    obtain ⟨front, whole, same⟩ := ih
    refine ⟨'\\' :: rune :: front, fun place member => ?_, ?_⟩
    · rw [scanFrom] at member
      rcases List.mem_cons.1 member with first | later
      · rw [first]
        trivial
      · exact whole place later
    · rcases same with same | same
      · exact .inl (by rw [← same])
      · exact .inr (by rw [same]; rfl)
  | case4 offset first behind notLast notEscape ih =>
    obtain ⟨front, whole, same⟩ := ih
    have plain : first ≠ '\\' := by
      intro backslash
      cases behind with
      | nil => exact notLast backslash rfl
      | cons next rest => exact notEscape next rest backslash rfl
    have scanned : scanFrom offset (first :: front) =
        (offset, .plain first) :: scanFrom (offset + 1) front :=
      scanFrom_spelling_append (show (Token.plain first).Whole from plain) offset front
    refine ⟨first :: front, fun place member => ?_, ?_⟩
    · rw [scanned] at member
      rcases List.mem_cons.1 member with here | later
      · rw [here]
        exact plain
      · exact whole place later
    · rcases same with same | same
      · exact .inl (by rw [← same])
      · exact .inr (by rw [same]; rfl)

end Token

namespace Cursor

/-- The text in front of a cursor. -/
def rest (cursor : Cursor) : Text := cursor.runes.toList.drop cursor.offset

variable {cursor next : Cursor} {rune : Char} {token : Token}

/-- A cursor that cannot advance has nothing in front of it. -/
theorem rest_of_none (ended : cursor.advance? = none) : cursor.rest = [] := by
  unfold advance? at ended
  split at ended
  · cases ended
  · rename_i outside
    have past : cursor.runes.toList.length ≤ cursor.offset := by
      rw [Array.length_toList]
      exact Nat.le_of_not_lt outside
    exact List.drop_eq_nil_of_le past

/-- A cursor advances past the first rune in front of it. -/
theorem rest_of_some (advanced : cursor.advance? = some (rune, next)) :
    cursor.rest = rune :: next.rest ∧ next.runes = cursor.runes ∧ next.offset = cursor.offset + 1 := by
  unfold advance? at advanced
  split at advanced
  · rename_i inside
    cases advanced
    refine ⟨?_, rfl, rfl⟩
    rw [rest, List.drop_eq_getElem_cons (by simpa using inside), Array.getElem_toList]
    rfl
  · cases advanced

/-- A cursor that has no token in front of it is at the end of its text. -/
theorem rest_of_readToken?_eq_none (ended : cursor.readToken? = none) : cursor.rest = [] := by
  unfold readToken? at ended
  split at ended
  · rename_i stopped
    exact rest_of_none stopped
  · split at ended <;> cases ended
  · cases ended

/-- The token that a cursor reads is the first one of the text in front of it, and what comes after it is
the text in front of the cursor past it. -/
theorem scanFrom_rest_of_some (read : cursor.readToken? = some (token, next)) :
    Token.scanFrom cursor.offset cursor.rest =
        (cursor.offset, token) :: Token.scanFrom next.offset next.rest ∧
      next.runes = cursor.runes ∧ cursor.offset < next.offset := by
  unfold readToken? at read
  split at read
  · cases read
  · rename_i behind advanced
    have ⟨front, same, moved⟩ := rest_of_some advanced
    split at read
    · rename_i ended
      cases read
      rw [front, rest_of_none ended]
      exact ⟨rfl, same, by omega⟩
    · rename_i escaped last further
      cases read
      have ⟨front', same', moved'⟩ := rest_of_some further
      rw [front, front', moved', moved]
      exact ⟨rfl, same'.trans same, by omega⟩
  · rename_i plain behind notBackslash advanced
    cases read
    have ⟨front, same, moved⟩ := rest_of_some advanced
    have whole : (Token.plain plain).Whole := notBackslash
    rw [front, moved]
    exact ⟨Token.scanFrom_spelling_append whole cursor.offset next.rest, same, by omega⟩

/-- A cursor in the same text moves back. -/
theorem reset?_of_runes_eq {moved : Cursor} (same : moved.runes = cursor.runes) :
    moved.reset? cursor.offset = some cursor := by
  unfold reset?
  rw [dif_pos (same ▸ cursor.offset_le)]
  cases cursor
  cases moved
  cases same
  rfl

end Cursor
end PatternSearch
