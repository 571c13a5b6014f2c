import Mathlib.Algebra.Ring.Parity
import Mathlib.Data.List.DropRight
import PatternSearch.Proofs.Scanning

/-!
# Texts and their tokens

A cursor that reads token after token, until there is none in front of it, divides the text into tokens
(`Cursor.readAll`). These are the tokens that scanning finds (`Cursor.readAll_eq`).

Every text is the spelling of whole tokens, with a backslash behind them or not
(`Token.exists_whole_tokens`), and whole tokens are found again where they are spelled
(`Token.map_scanFrom_append`). So texts and lists of tokens determine each other, where the tokens are
such as a text can have: no rune that stands for itself is a backslash, and only the last token may be a
backslash that escapes nothing (`Cursor.readAll_of_text_and_tokens`).
-/
namespace PatternSearch

namespace Token

variable {tokens : List Token}

/-- A token that is the same whatever comes after it is no backslash alone, in either way. -/
theorem whole_iff {token : Token} :
    token.Whole ↔ token ≠ .plain '\\' ∧ token ≠ .danglingEscape := by
  cases token <;> simp [Whole]

/-- Whole tokens are found again where they are spelled one after another, whatever text comes after. -/
theorem map_scanFrom_append (whole : ∀ token ∈ tokens, token.Whole) (offset : Nat) (rest : Text) :
    (scanFrom offset (tokens.flatMap spelling ++ rest)).map (·.2) =
      tokens ++ (scanFrom (offset + (tokens.flatMap spelling).length) rest).map (·.2) := by
  induction tokens generalizing offset with
  | nil => rfl
  | cons token later ih =>
    have first : token.Whole := whole token List.mem_cons_self
    have others := ih (fun other member => whole other (List.mem_cons_of_mem _ member))
      (offset + token.spelling.length)
    rw [List.flatMap_cons, List.append_assoc, scanFrom_spelling_append first, List.map_cons, others,
      List.length_append, Nat.add_assoc]
    rfl

/-- A text is the spelling of whole tokens, or of whole tokens and a backslash behind them. -/
theorem exists_whole_tokens (text : Text) :
    ∃ tokens : List Token, (∀ token ∈ tokens, token.Whole) ∧
      (text = tokens.flatMap spelling ∨ text = tokens.flatMap spelling ++ ['\\']) := by
  obtain ⟨front, whole, same⟩ := exists_whole_front 0 text
  have spelled : ((scanFrom 0 front).map (·.2)).flatMap spelling = front := by
    rw [List.flatMap_map]
    exact flatMap_spelling_scanFrom 0 front
  refine ⟨(scanFrom 0 front).map (·.2), fun token member => ?_, ?_⟩
  · obtain ⟨place, scanned, rfl⟩ := List.mem_map.1 member
    exact whole place scanned
  · rw [spelled]
    exact same

/-! ## Backslashes at the end -/

/-- The number of backslashes at the end of a text. -/
def backslashesAtEnd (text : Text) : Nat := (text.rtakeWhile (· == '\\')).length

/-- A further backslash is one more, and any other rune leaves none. -/
theorem backslashesAtEnd_concat (text : Text) (rune : Char) :
    backslashesAtEnd (text ++ [rune]) = if rune = '\\' then backslashesAtEnd text + 1 else 0 := by
  by_cases backslash : rune = '\\' <;> simp [backslashesAtEnd, backslash]

/-- Whole tokens end in an even number of backslashes: the last one of them is escaped. -/
theorem even_backslashesAtEnd (whole : ∀ token ∈ tokens, token.Whole) :
    Even (backslashesAtEnd (tokens.flatMap spelling)) := by
  induction tokens using List.reverseRecOn with
  | nil => exact Even.zero
  | append_singleton earlier last ih =>
    have before := ih fun token member => whole token (List.mem_append_left _ member)
    have lastWhole := whole last (List.mem_append_right _ List.mem_cons_self)
    rw [List.flatMap_append, List.flatMap_singleton]
    cases last with
    | plain rune =>
      have notBackslash : rune ≠ '\\' := lastWhole
      rw [spelling, backslashesAtEnd_concat, if_neg notBackslash]
      exact Even.zero
    | escaped rune =>
      rw [spelling, List.append_cons, backslashesAtEnd_concat, backslashesAtEnd_concat, if_pos rfl]
      split
      · exact before.add (even_iff_two_dvd.2 (Nat.dvd_refl 2))
      · exact Even.zero
    | danglingEscape => exact lastWhole.elim

/-! ## The tokens of a text -/

/-- The tokens are such as a text can have. -/
structure Divide (tokens : List Token) : Prop where
  /-- No rune that stands for itself is a backslash. -/
  plain : .plain '\\' ∉ tokens
  /-- Only the last token may be a backslash that escapes nothing. -/
  dangling : .danglingEscape ∉ tokens.dropLast

/-- Such tokens are whole, or whole tokens with a backslash behind them. -/
theorem divide_iff :
    Divide tokens ↔ (∀ token ∈ tokens, token.Whole) ∨
      ∃ front, (∀ token ∈ front, token.Whole) ∧ tokens = front ++ [.danglingEscape] := by
  constructor
  · intro ⟨notPlain, dangling⟩
    rcases List.eq_nil_or_concat' tokens with rfl | ⟨front, last, rfl⟩
    · exact .inl fun token member => absurd member List.not_mem_nil
    · rw [List.dropLast_concat] at dangling
      have whole : ∀ token ∈ front, token.Whole := fun token member => whole_iff.2
        ⟨fun same => notPlain (same ▸ List.mem_append_left _ member), fun same => dangling (same ▸ member)⟩
      by_cases isDangling : last = .danglingEscape
      · exact .inr ⟨front, whole, by rw [isDangling]⟩
      · refine .inl fun token member => ?_
        rcases List.mem_append.1 member with earlier | isLast
        · exact whole token earlier
        · rw [List.mem_singleton.1 isLast]
          exact whole_iff.2 ⟨fun same => notPlain (by simp [same]), isDangling⟩
  · rintro (whole | ⟨front, whole, rfl⟩)
    · exact ⟨fun member => (whole_iff.1 (whole _ member)).1 rfl,
        fun member => (whole_iff.1 (whole _ (List.dropLast_subset _ member))).2 rfl⟩
    · refine ⟨fun member => ?_, fun member => ?_⟩
      · have earlier : Token.plain '\\' ∈ front := by simpa using member
        exact (whole_iff.1 (whole _ earlier)).1 rfl
      · rw [List.dropLast_concat] at member
        exact (whole_iff.1 (whole _ member)).2 rfl

/-- Such tokens are found again where they are spelled. -/
theorem Divide.map_scanFrom (divide : Divide tokens) (offset : Nat) :
    (scanFrom offset (tokens.flatMap spelling)).map (·.2) = tokens := by
  rcases divide_iff.1 divide with whole | ⟨front, whole, rfl⟩
  · have found := map_scanFrom_append whole offset []
    rwa [List.append_nil, scanFrom, List.map_nil, List.append_nil] at found
  · rw [List.flatMap_append, List.flatMap_singleton]
    exact map_scanFrom_append whole offset ['\\']

/-- The tokens of a text are such. The last one is a backslash that escapes nothing where the text ends in
an odd number of backslashes. -/
theorem divide_scanFrom (offset : Nat) (text : Text) :
    Divide ((scanFrom offset text).map (·.2)) ∧
      (Token.danglingEscape ∈ (scanFrom offset text).map (·.2) ↔ Odd (backslashesAtEnd text)) := by
  obtain ⟨tokens, whole, rfl | rfl⟩ := exists_whole_tokens text
  · have divide := divide_iff.2 (.inl whole)
    have notDangling : Token.danglingEscape ∉ tokens := fun member => whole _ member
    rw [divide.map_scanFrom]
    refine ⟨divide, iff_of_false notDangling ?_⟩
    rw [Nat.not_odd_iff_even]
    exact even_backslashesAtEnd whole
  · have divide := divide_iff.2 (.inr ⟨tokens, whole, rfl⟩)
    have spelled : tokens.flatMap spelling ++ ['\\'] =
        (tokens ++ [Token.danglingEscape]).flatMap spelling := by
      rw [List.flatMap_append, List.flatMap_singleton]
      rfl
    rw [spelled, divide.map_scanFrom, ← spelled, backslashesAtEnd_concat, if_pos rfl]
    refine ⟨divide, iff_of_true (by simp) ?_⟩
    exact (even_backslashesAtEnd whole).add_one

end Token

namespace Cursor

variable {cursor : Cursor}

/-- The tokens that a cursor reads, one after another, until there is none in front of it. -/
def readAll (cursor : Cursor) : List Token :=
  match _read : cursor.readToken? with
  | none => []
  | some (token, next) => token :: next.readAll
termination_by cursor.runes.size - cursor.offset
decreasing_by
  obtain ⟨-, same, further⟩ := scanFrom_rest_of_some _read
  have inside := next.offset_le
  rw [same] at inside ⊢
  omega

/-- Read the token in front of a cursor, if there is one, and move back to where the cursor stood. -/
def lookAhead? (cursor : Cursor) : Option (Option Token × Cursor) :=
  match cursor.readToken? with
  | none => (cursor.reset? cursor.offset).map fun back => (none, back)
  | some (token, next) => (next.reset? cursor.offset).map fun back => (some token, back)

/-- A cursor reads the tokens that scanning finds in the text in front of it. -/
theorem readAll_eq (cursor : Cursor) :
    cursor.readAll = (Token.scanFrom cursor.offset cursor.rest).map (·.2) := by
  fun_induction readAll cursor with
  | case1 cursor ended =>
    rw [rest_of_readToken?_eq_none ended]
    rfl
  | case2 cursor token next read ih =>
    rw [(scanFrom_rest_of_some read).1, List.map_cons, ← ih]

/-- In front of a text a cursor reads the tokens of the text. -/
theorem readAll_ofText (text : Text) : (ofText text).readAll = (Token.scanFrom 0 text).map (·.2) :=
  readAll_eq (ofText text)

/-- Looking ahead finds the token that is read next, and leaves the cursor where it stands. -/
theorem lookAhead?_eq (cursor : Cursor) : cursor.lookAhead? = some (cursor.peekToken?, cursor) := by
  unfold lookAhead? peekToken?
  cases read : cursor.readToken? with
  | none => simp only [reset?_of_runes_eq rfl, Option.map_some, Option.map_none]
  | some step =>
    have same := (scanFrom_rest_of_some read).2.1
    simp only [reset?_of_runes_eq same, Option.map_some]

/-- No token is in front of a cursor exactly at the end of its text. -/
theorem peekToken?_eq_none_iff : cursor.peekToken? = none ↔ cursor.offset = cursor.runes.size := by
  rw [peekToken?, Option.map_eq_none_iff]
  constructor
  · intro ended
    have nothing := congrArg List.length (rest_of_readToken?_eq_none ended)
    rw [rest, List.length_drop, Array.length_toList, List.length_nil] at nothing
    have inside := cursor.offset_le
    omega
  · intro atEnd
    cases read : cursor.readToken? with
    | none => rfl
    | some step =>
      obtain ⟨-, same, further⟩ := scanFrom_rest_of_some read
      have inside := step.2.offset_le
      rw [same] at inside
      omega

/-- Reading token after token divides a text into tokens whose spellings make it up. No rune among them is
a backslash, and at most the last token is a backslash that escapes nothing: it is one exactly when the
text ends in an odd number of backslashes. Such tokens, and only such, are read where they are spelled.
Wherever a cursor stands, looking ahead finds the token that is read next, none exactly at the end of the
text, and does not move the cursor. -/
theorem readAll_of_text_and_tokens :
    (∀ text : Text, (ofText text).readAll.flatMap Token.spelling = text ∧
      .plain '\\' ∉ (ofText text).readAll ∧
      .danglingEscape ∉ (ofText text).readAll.dropLast ∧
      (.danglingEscape ∈ (ofText text).readAll ↔ Odd (Token.backslashesAtEnd text))) ∧
    (∀ tokens : List Token, (ofText (tokens.flatMap Token.spelling)).readAll = tokens ↔
      .plain '\\' ∉ tokens ∧ .danglingEscape ∉ tokens.dropLast) ∧
    ∀ cursor : Cursor, cursor.lookAhead? = some (cursor.peekToken?, cursor) ∧
      cursor.peekToken? = cursor.readToken?.map (·.1) ∧
      (cursor.peekToken? = none ↔ cursor.offset = cursor.runes.size) := by
  refine ⟨fun text => ?text, fun tokens => ⟨fun read => ?only, fun ⟨plain, dangling⟩ => ?such⟩,
    fun cursor => ⟨cursor.lookAhead?_eq, rfl, peekToken?_eq_none_iff⟩⟩
  case text =>
    obtain ⟨divide, atEnd⟩ := Token.divide_scanFrom 0 text
    rw [readAll_ofText]
    refine ⟨?_, divide.plain, divide.dangling, atEnd⟩
    rw [List.flatMap_map]
    exact Token.flatMap_spelling_scanFrom 0 text
  case only =>
    have divide := (Token.divide_scanFrom 0 (tokens.flatMap Token.spelling)).1
    rw [← readAll_ofText, read] at divide
    exact ⟨divide.plain, divide.dangling⟩
  case such =>
    rw [readAll_ofText]
    exact Token.Divide.map_scanFrom ⟨plain, dangling⟩ 0

/-- Backslashes escape in pairs from the left, and the third one of three is left alone. -/
example : (ofText ['a', '\\', 'd', '\\', '\\', '\\']).readAll =
    [.plain 'a', .escaped 'd', .escaped '\\', .danglingEscape] := by cbv

end Cursor
end PatternSearch
