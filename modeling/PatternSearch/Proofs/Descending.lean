import PatternSearch.Proofs.Continuing
import PatternSearch.Proofs.Descent

/-!
# Descending

The descent comes to the same tree or error as a draft that takes one token after the other
(`descend_eq_parse`), so reading a pattern text never stops the machine.

A reader that stands somewhere in the text is tied to the draft of what is read (`Stands`): the rest of
the text leads from that draft to what the whole text comes to. Each parser either ends with an error
that the whole text comes to, or with a reader that stands further on (`Comes`).
-/
namespace PatternSearch

/-! ## What a parser comes to -/

namespace Parsing

open Guarded

variable {Value Result : Type} {whole : Except PatternError (Node × Nat)} {reader : Reader}

/-- A parser, begun by a reader, is not stopped. It ends with an error that is what the whole text comes
to, or with a value and a reader of which the condition holds. -/
def Comes (whole : Except PatternError (Node × Nat)) (parsing : Parsing Value) (reader : Reader)
    (post : Value → Reader → Prop) : Prop :=
  match (parsing reader).run with
  | none => False
  | some (.error error) => whole = .error error
  | some (.ok (value, next)) => post value next

/-- A value for which the condition holds may be returned. -/
theorem comes_pure {value : Value} {post : Value → Reader → Prop} (holds : post value reader) :
    Comes whole (pure value) reader post :=
  holds

/-- An error that the whole text comes to may be thrown. -/
theorem comes_throw {error : PatternError} {post : Value → Reader → Prop}
    (same : whole = .error error) : Comes whole (throw error) reader post :=
  same

/-- A parser and what follows it run one after the other, unless the first one is stopped or ends with
an error. -/
theorem run_bind (parsing : Parsing Value) (follow : Value → Parsing Result) (reader : Reader) :
    ((parsing >>= follow) reader).run =
      match (parsing reader).run with
      | none => none
      | some (.error error) => some (.error error)
      | some (.ok (value, next)) => (follow value next).run := by
  show Option.bind (parsing reader).run _ = _
  cases (parsing reader).run with
  | none => rfl
  | some result => cases result <;> rfl

/-- The condition may be weakened. -/
theorem comes_mono {parsing : Parsing Value} {middle post : Value → Reader → Prop}
    (first : Comes whole parsing reader middle)
    (weaker : ∀ value next, middle value next → post value next) :
    Comes whole parsing reader post := by
  unfold Comes at first ⊢
  generalize (parsing reader).run = ran at first ⊢
  cases ran with
  | none => exact first
  | some result =>
    cases result with
    | error error => exact first
    | ok found => exact weaker found.1 found.2 first

/-- What comes of a parser and then of what follows it. -/
theorem comes_bind {parsing : Parsing Value} {follow : Value → Parsing Result}
    {middle : Value → Reader → Prop} {post : Result → Reader → Prop}
    (first : Comes whole parsing reader middle)
    (second : ∀ value next, middle value next → Comes whole (follow value) next post) :
    Comes whole (parsing >>= follow) reader post := by
  unfold Comes at first ⊢
  rw [run_bind]
  generalize (parsing reader).run = ran at first ⊢
  cases ran with
  | none => exact first
  | some result =>
    cases result with
    | error error => exact first
    | ok found => exact second found.1 found.2 first

/-- A parser that is known to end with a value and a reader goes on from there. -/
theorem comes_bind_of_eq {parsing : Parsing Value} {follow : Value → Parsing Result} {value : Value}
    {next : Reader} {post : Result → Reader → Prop}
    (ran : (parsing reader).run = some (.ok (value, next)))
    (second : Comes whole (follow value) next post) :
    Comes whole (parsing >>= follow) reader post := by
  have first : Comes whole parsing reader fun other last => other = value ∧ last = next := by
    unfold Comes
    rw [ran]
    exact ⟨rfl, rfl⟩
  refine comes_bind first fun other last same => ?_
  rw [same.1, same.2]
  exact second

/-! ## Steps of a reader -/

variable {runes : Array Char} {limit : Nat} {draft taken : Draft} {next : Token}
  {error : PatternError}

/-- The text in front of a cursor, read into a draft to its end. -/
def onward (draft : Draft) (cursor : Cursor) : Except PatternError (Node × Nat) :=
  draft.readToEnd cursor.offset cursor.rest

/-- Where no token is left, the draft is finished. -/
theorem onward_of_none {cursor : Cursor} (ended : cursor.readToken? = none) :
    onward draft cursor = draft.finish := by
  rw [onward, Cursor.rest_of_readToken?_eq_none ended]
  rfl

/-- Where a token is left, the draft takes it and goes on behind it. -/
theorem onward_of_some {cursor behind : Cursor} (read : cursor.readToken? = some (next, behind)) :
    onward draft cursor = draft.read (cursor.offset, next) >>= fun taken => onward taken behind := by
  rw [onward, Draft.readToEnd, (Cursor.scanFrom_rest_of_some read).1, Draft.readAll,
    List.foldlM_cons, bind_assoc]
  rfl

/-- Drafts that are finished alike and take the next token alike lead on alike. -/
theorem onward_congr {first second : Draft} {cursor : Cursor} (finish : first.finish = second.finish)
    (reads : ∀ next, cursor.peekToken? = some next →
      first.read (cursor.offset, next) = second.read (cursor.offset, next)) :
    onward first cursor = onward second cursor := by
  cases read : cursor.readToken? with
  | none => rw [onward_of_none read, onward_of_none read, finish]
  | some step =>
    have front : cursor.peekToken? = some step.1 := by rw [Cursor.peekToken?, read, Option.map_some]
    rw [onward_of_some read, onward_of_some read, reads step.1 front]

/-- A reader stands in a text of which so much is read into a draft, and the rest of the text leads from
there to what the whole text comes to. -/
structure Stands (whole : Except PatternError (Node × Nat)) (runes : Array Char) (draft : Draft)
    (reader : Reader) : Prop where
  /-- The reader is in the text. -/
  runes_eq : reader.cursor.runes = runes
  /-- The next group is numbered behind those that have opened. -/
  nextGroup_eq : reader.nextGroup = draft.groupCount + 1
  /-- No more groups have opened than runes are read. -/
  groupCount_le : draft.groupCount ≤ reader.cursor.offset
  /-- The rest of the text leads to what the whole text comes to. -/
  leads : onward draft reader.cursor = whole

/-- The number of runes in front of a reader. -/
def left (reader : Reader) : Nat := reader.cursor.runes.size - reader.cursor.offset

/-- The offset is read without moving. -/
theorem run_offset (reader : Reader) :
    (offset reader).run = some (.ok (reader.cursor.offset, reader)) :=
  rfl

/-- Reading a token in front of a reader moves it past the token. -/
theorem run_token {cursor : Cursor} (short : reader.cursor.runes.size < limit)
    (read : reader.cursor.readToken? = some (next, cursor)) :
    (token limit reader).run = some (.ok (some next, { reader with cursor })) := by
  show (readToken limit reader.cursor).map _ = _
  rw [readToken_eq_some short, read]
  rfl

/-- Reading a token at the end of the text does not move the reader. -/
theorem run_token_of_none (short : reader.cursor.runes.size < limit)
    (ended : reader.cursor.readToken? = none) :
    (token limit reader).run = some (.ok (none, reader)) := by
  show (readToken limit reader.cursor).map _ = _
  rw [readToken_eq_some short, ended]
  rfl

/-- Looking at the next token does not move a reader. -/
theorem run_peek (short : reader.cursor.runes.size < limit) :
    (peek limit reader).run = some (.ok (reader.cursor.peekToken?, reader)) := by
  have returned : ∀ moved : Cursor, moved.runes = reader.cursor.runes →
      (reset reader.cursor.offset { reader with cursor := moved }).run = some (.ok ((), reader)) := by
    intro moved same
    show (moved.reset? reader.cursor.offset).map _ = _
    rw [Cursor.reset?_of_runes_eq same]
    rfl
  rw [peek, run_bind]
  show ((token limit >>= _) reader).run = _
  rw [run_bind]
  unfold Cursor.peekToken?
  cases read : reader.cursor.readToken? with
  | none =>
    rw [run_token_of_none short read]
    simp only
    rw [run_bind, returned reader.cursor rfl]
    rfl
  | some step =>
    have same := (Cursor.scanFrom_rest_of_some read).2.1
    rw [run_token short read]
    simp only
    rw [run_bind, returned step.2 same]
    rfl

/-- At the end of the text the draft is finished. -/
theorem Stands.finish_eq (stands : Stands whole runes draft reader)
    (ended : reader.cursor.peekToken? = none) : draft.finish = whole := by
  rw [← onward_of_none (Option.map_eq_none_iff.1 ended)]
  exact stands.leads

/-- The next token is read and taken into the draft, and the text behind it leads on. -/
theorem Stands.token (stands : Stands whole runes draft reader) (short : runes.size + 1 < limit)
    (front : reader.cursor.peekToken? = some next) :
    ∃ cursor, (token limit reader).run = some (.ok (some next, { reader with cursor })) ∧
      cursor.runes = runes ∧ reader.cursor.offset < cursor.offset ∧
      (draft.read (reader.cursor.offset, next) >>= fun taken => onward taken cursor) = whole := by
  have ⟨step, read, isNext⟩ := Option.map_eq_some_iff.1 front
  have isStep : reader.cursor.readToken? = some (next, step.2) := by rw [read, ← isNext]
  have ⟨_, same, after⟩ := Cursor.scanFrom_rest_of_some isStep
  have word : reader.cursor.runes.size < limit := by
    rw [stands.runes_eq]
    omega
  refine ⟨step.2, run_token word isStep, same.trans stands.runes_eq, after, ?_⟩
  rw [← onward_of_some isStep]
  exact stands.leads

/-- A reader past some runes has fewer of them in front of it. -/
theorem left_lt {cursor : Cursor} (same : cursor.runes = reader.cursor.runes)
    (after : reader.cursor.offset < cursor.offset) :
    left { reader with cursor } < left reader := by
  have inside := cursor.offset_le
  unfold left
  rw [same] at inside ⊢
  simp only
  omega

/-- A token that the draft takes is read. -/
theorem Stands.take (stands : Stands whole runes draft reader) (short : runes.size + 1 < limit)
    (front : reader.cursor.peekToken? = some next)
    (read : draft.read (reader.cursor.offset, next) = .ok taken)
    (same : taken.groupCount = draft.groupCount) :
    ∃ last, (Parsing.token limit reader).run = some (.ok (some next, last)) ∧
      Stands whole runes taken last ∧ left last < left reader := by
  have ⟨cursor, ran, inText, after, leads⟩ := stands.token short front
  have few := stands.groupCount_le
  rw [read] at leads
  refine ⟨_, ran, ⟨inText, ?_, ?_, leads⟩, left_lt (inText.trans stands.runes_eq.symm) after⟩
  · rw [same]
    exact stands.nextGroup_eq
  · rw [same]
    exact Nat.le_trans few (Nat.le_of_lt after)

/-- A token that the draft refuses is read, and the whole text comes to the error. -/
theorem Stands.refuse (stands : Stands whole runes draft reader) (short : runes.size + 1 < limit)
    (front : reader.cursor.peekToken? = some next)
    (read : draft.read (reader.cursor.offset, next) = .error error) :
    (∃ last, (Parsing.token limit reader).run = some (.ok (some next, last))) ∧
      whole = .error error := by
  have ⟨cursor, ran, _, _, leads⟩ := stands.token short front
  rw [read] at leads
  exact ⟨⟨_, ran⟩, leads.symm⟩

/-- A reader in a text whose length is a word may look at the next token. -/
theorem Stands.peek (stands : Stands whole runes draft reader) (short : runes.size + 1 < limit) :
    (Parsing.peek limit reader).run = some (.ok (reader.cursor.peekToken?, reader)) := by
  apply run_peek
  rw [stands.runes_eq]
  omega

/-- At the end of the text no token is read. -/
theorem Stands.token_of_none (stands : Stands whole runes draft reader)
    (short : runes.size + 1 < limit) (ended : reader.cursor.peekToken? = none) :
    (Parsing.token limit reader).run = some (.ok (none, reader)) := by
  refine run_token_of_none ?_ (Option.map_eq_none_iff.1 ended)
  rw [stands.runes_eq]
  omega

/-! ## Sets -/

section

variable {opened rounds bound : Nat} {anchored negated : Bool}

/-- In a set, a token other than its bracket is a member, or the text ends in it. -/
theorem readMember_of_ne {earlier : List SetMember} (notBracket : next ≠ .plain ']') :
    draft.readMember anchored opened negated earlier next =
      match SetMember.ofToken? next with
      | some member =>
        .ok { draft with focus := .set anchored opened negated (member :: earlier) }
      | none => .error ⟨opened, .unterminatedSet⟩ := by
  unfold Draft.readMember
  split
  · exact absurd rfl notBracket
  · rfl

/-- A reader stands in a set that opened at an offset, behind some members. -/
structure InSet (whole : Except PatternError (Node × Nat)) (runes : Array Char) (draft : Draft)
    (anchored : Bool) (opened : Nat) (negated : Bool) (earlier : List SetMember) (reader : Reader) :
    Prop extends Stands whole runes draft reader where
  /-- The next token is taken as a member or the bracket. -/
  reads : ∀ next, reader.cursor.peekToken? = some next →
    draft.read (reader.cursor.offset, next) = draft.readMember anchored opened negated earlier next
  /-- The text may not end here. -/
  unfinished : draft.finish = .error ⟨opened, .unterminatedSet⟩

/-- The members of a set are read up to its bracket. Then the set is an unfinished element, or it has no
members and the text is refused. -/
theorem comes_members {earlier : List SetMember} (short : runes.size + 1 < limit)
    (inSet : InSet whole runes draft anchored opened negated earlier reader)
    (enough : left reader < rounds) :
    Comes whole (members limit opened rounds earlier) reader fun all last =>
      (all = [] → whole = .error ⟨opened, .emptySet⟩) ∧
        (all ≠ [] → Stands whole runes
            { draft with focus := .atom anchored (.set all negated) } last ∧
          left last < left reader) := by
  induction rounds generalizing draft earlier reader with
  | zero => omega
  | succ rounds ih =>
    have stands := inSet.toStands
    rw [members]
    cases front : reader.cursor.peekToken? with
    | none =>
      refine comes_bind_of_eq (stands.token_of_none short front) (comes_throw ?_)
      rw [← stands.finish_eq front]
      exact inSet.unfinished
    | some next =>
      have reads := inSet.reads next front
      by_cases bracket : next = .plain ']'
      · subst bracket
        cases earlier with
        | nil =>
          have ⟨⟨last, ran⟩, refused⟩ := stands.refuse short front reads
          refine comes_bind_of_eq ran (comes_pure ⟨fun _ => refused, fun some => absurd rfl some⟩)
        | cons member earlier =>
          have ⟨last, ran, after, fewer⟩ := stands.take short front reads rfl
          refine comes_bind_of_eq ran (comes_pure ⟨fun none => ?_, fun _ => ⟨after, fewer⟩⟩)
          exact absurd none (by simp)
      · rw [readMember_of_ne bracket] at reads
        cases isMember : SetMember.ofToken? next with
        | none =>
          rw [isMember] at reads
          have ⟨⟨last, ran⟩, refused⟩ := stands.refuse short front reads
          refine comes_bind_of_eq ran ?_
          simp only [if_neg bracket, isMember]
          exact comes_throw refused
        | some member =>
          rw [isMember] at reads
          have ⟨last, ran, after, fewer⟩ := stands.take short front reads rfl
          refine comes_bind_of_eq ran ?_
          simp only [if_neg bracket, isMember]
          refine comes_mono (ih ⟨after, fun _ _ => rfl, rfl⟩ (by omega)) fun all final holds => ?_
          refine ⟨holds.1, fun some => ?_⟩
          have ⟨ended, further⟩ := holds.2 some
          exact ⟨ended, Nat.lt_trans further fewer⟩

/-- A `^` right behind the bracket negates a set. -/
theorem comes_negation (short : runes.size + 1 < limit)
    (stands : Stands whole runes draft reader) (focus : draft.focus = .openedSet anchored opened) :
    Comes whole (negation limit) reader fun negated last =>
      left last ≤ left reader ∧ ∃ begun,
        InSet whole runes begun anchored opened negated [] last ∧
        ∀ all, { begun with focus := .atom anchored (.set all negated) } =
          { draft with focus := .atom anchored (.set all negated) } := by
  rw [negation]
  refine comes_bind_of_eq (stands.peek short) ?_
  by_cases caret : reader.cursor.peekToken? = some (.plain '^')
  · have reads : draft.read (reader.cursor.offset, .plain '^') =
        .ok { draft with focus := .set anchored opened true [] } := by
      rw [Draft.read, focus]
      rfl
    obtain ⟨last, ran, after, fewer⟩ := stands.take short caret reads rfl
    rw [if_pos caret]
    refine comes_bind_of_eq ran (comes_pure ⟨Nat.le_of_lt fewer, _, ⟨after, ?_, rfl⟩, fun _ => rfl⟩)
    exact fun _ _ => rfl
  · rw [if_neg caret]
    refine comes_pure ⟨Nat.le_refl _, draft, ⟨stands, fun next front => ?_, ?_⟩, fun _ => rfl⟩
    · have notCaret : next ≠ .plain '^' := fun same => caret (same ▸ front)
      rw [Draft.read, focus]
      exact if_neg notCaret
    · rw [Draft.finish, focus]

/-- A set is read up to its bracket, and is an unfinished element. -/
theorem comes_set (short : runes.size + 1 < limit) (stands : Stands whole runes draft reader)
    (focus : draft.focus = .openedSet anchored opened) (enough : left reader < rounds) :
    Comes whole (set limit opened rounds) reader fun node last =>
      Stands whole runes { draft with focus := .atom anchored node } last ∧
        left last < left reader := by
  rw [set]
  refine comes_bind (comes_negation short stands focus) fun negated next holds => ?_
  have ⟨onward, begun, inSet, same⟩ := holds
  refine comes_bind (comes_members short inSet (by omega)) fun all last ended => ?_
  by_cases none : all = []
  · rw [if_pos none]
    exact comes_throw (ended.1 none)
  · rw [if_neg none]
    have ⟨after, fewer⟩ := ended.2 none
    rw [same all] at after
    exact comes_pure ⟨after, by omega⟩

/-! ## Elements -/

/-- Between two elements a token is taken as the first one of an element. -/
theorem read_eq_readElement (focus : draft.focus = .element) {offset : Nat} :
    draft.read (offset, next) = draft.readElement offset next := by
  rw [Draft.read, focus]

/-- A reader moves on in a text, from between two elements to between two elements of the same group. -/
structure MovesOn (whole : Except PatternError (Node × Nat)) (runes : Array Char) (draft final : Draft)
    (reader last : Reader) : Prop where
  /-- What is read leads to another draft. -/
  stands : Stands whole runes final last
  /-- No element is unfinished. -/
  focus_eq : final.focus = .element
  /-- The same groups are open. -/
  enclosing_eq : final.enclosing = draft.enclosing
  /-- The reader does not move back. -/
  left_le : left last ≤ left reader

/-- A reader may stay where it is. -/
theorem MovesOn.refl (stands : Stands whole runes draft reader) (focus : draft.focus = .element) :
    MovesOn whole runes draft draft reader reader :=
  ⟨stands, focus, rfl, Nat.le_refl _⟩

/-- A reader may move on twice. -/
theorem MovesOn.trans {first second third : Draft} {before between behind : Reader}
    (earlier : MovesOn whole runes first second before between)
    (later : MovesOn whole runes second third between behind) :
    MovesOn whole runes first third before behind :=
  ⟨later.stands, later.focus_eq, later.enclosing_eq.trans earlier.enclosing_eq,
    Nat.le_trans later.left_le earlier.left_le⟩

/-- A parser for the branches of a group: begun in front of the first one, by a reader that has fewer
runes in front of it than there are rounds, it reads branches up to a parenthesis or the end. -/
def Alternates (whole : Except PatternError (Node × Nat)) (runes : Array Char)
    (alternation : Parsing (List Node)) (rounds : Nat) : Prop :=
  ∀ draft reader, Stands whole runes draft reader → draft.focus = .element →
    draft.alternation = .empty → left reader < rounds →
    Comes whole alternation reader fun all last =>
      ∃ final, MovesOn whole runes draft final reader last ∧ final.alternation.allBranches = all ∧
        ∀ next, last.cursor.peekToken? = some next → next = .plain ')'

/-- A group is read up to its parenthesis, and is an unfinished element. -/
theorem comes_group {alternation : Parsing (List Node)} (short : runes.size + 1 < limit)
    (alternates : Alternates whole runes alternation rounds)
    (stands : Stands whole runes draft reader) (enough : left reader ≤ rounds)
    (front : reader.cursor.peekToken? = some (.plain '('))
    (reads : draft.read (reader.cursor.offset, .plain '(') =
      draft.readAtom anchored reader.cursor.offset (.plain '(')) :
    ∃ cursor, (token limit reader).run = some (.ok (some (.plain '('), { reader with cursor })) ∧
      Comes whole (group limit alternation reader.cursor.offset) { reader with cursor }
        fun node last => left last < left reader ∧ ∃ groupCount,
          Stands whole runes { draft with groupCount, focus := .atom anchored node } last := by
  have ⟨cursor, ran, inText, after, leads⟩ := stands.token short front
  have fewer : left ⟨cursor, reader.nextGroup + 1⟩ < left reader :=
    left_lt (inText.trans stands.runes_eq.symm) after
  have few := stands.groupCount_le
  have numbered := stands.nextGroup_eq
  have inside := cursor.offset_le
  rw [inText] at inside
  have allocated : (allocate limit { reader with cursor }).run =
      some (.ok (reader.nextGroup, ⟨cursor, reader.nextGroup + 1⟩)) := by
    have word : plus? limit reader.nextGroup 1 = some (reader.nextGroup + 1) :=
      plus?_eq_some (by omega)
    show (plus? limit reader.nextGroup 1).map _ = _
    rw [word]
    rfl
  let opened : Draft := ⟨draft.groupCount + 1,
    ⟨reader.cursor.offset, draft.groupCount + 1, anchored, draft.alternation⟩ :: draft.enclosing,
    .empty, .element⟩
  have begins : Stands whole runes opened ⟨cursor, reader.nextGroup + 1⟩ := by
    rw [reads] at leads
    exact ⟨inText, congrArg (· + 1) numbered, by simp only [opened]; omega, leads⟩
  refine ⟨cursor, ran, comes_bind_of_eq allocated ?_⟩
  refine comes_bind (alternates opened _ begins rfl rfl (Nat.lt_of_lt_of_le fewer enough))
    fun all next holds => ?_
  have ⟨final, moved, isAll, ends⟩ := holds
  cases front' : next.cursor.peekToken? with
  | none =>
    refine comes_bind_of_eq (moved.stands.token_of_none short front') (comes_throw ?_)
    rw [← moved.stands.finish_eq front', Draft.finish, moved.focus_eq, moved.enclosing_eq]
  | some behind =>
    have closing := ends behind front'
    subst closing
    have closes : final.read (next.cursor.offset, .plain ')') =
        .ok { draft with
          groupCount := final.groupCount
          focus := .atom anchored (.group reader.nextGroup all) } := by
      rw [read_eq_readElement moved.focus_eq]
      show final.closeGroup next.cursor.offset = _
      rw [Draft.closeGroup, moved.enclosing_eq, isAll, numbered]
    have ⟨last, ran', after', fewer'⟩ := moved.stands.take short front' closes rfl
    have onward := moved.left_le
    refine comes_bind_of_eq ran' ?_
    rw [if_pos rfl]
    exact comes_pure ⟨by omega, _, after'⟩

/-- An escaped digit but zero refers to the group with its number. -/
theorem ofEscaped_of_isDigit {rune : Char} (digit : rune.isDigit = true) (notZero : rune ≠ '0') :
    Node.ofEscaped rune = .ok (.backreference (rune.toNat - '0'.toNat)) := by
  have index : backreferenceIndex? rune = some (rune.toNat - '0'.toNat) := if_pos digit
  have ⟨small, same⟩ := Draft.digitChar_of_backreferenceIndex? index
  have written : ∀ index ≤ 9, index.digitChar ≠ '0' →
      Node.ofEscaped index.digitChar = .ok (.backreference index) := by decide
  have here := written _ small (same ▸ notZero)
  rwa [← same] at here

/-- The node of a token is found without stopping: no digit comes before zero. -/
theorem ofToken?_eq_some (token : Token) : ofToken? token = some (Node.ofToken token) := by
  unfold ofToken?
  split
  · rename_i rune
    split
    · rename_i isDigit
      have enough : '0'.toNat ≤ rune.toNat := by
        have digit := isDigit.1
        simp only [Char.isDigit, Bool.and_eq_true, decide_eq_true_eq] at digit
        exact digit.1
      rw [minus?_eq_some enough]
      exact congrArg some (ofEscaped_of_isDigit isDigit.1 isDigit.2).symm
    · rfl
  · rfl

/-- A token that opens nothing is an unfinished element by itself, or the text is refused. -/
theorem comes_leaf (short : runes.size + 1 < limit) (stands : Stands whole runes draft reader)
    (front : reader.cursor.peekToken? = some next)
    (reads : draft.read (reader.cursor.offset, next) =
      match Node.ofToken next with
      | .ok node => .ok { draft with focus := .atom anchored node }
      | .error reason => .error ⟨reader.cursor.offset, reason⟩) :
    ∃ last, (token limit reader).run = some (.ok (some next, last)) ∧
      Comes whole (leaf reader.cursor.offset next) last fun node last => left last < left reader ∧
        ∃ groupCount, Stands whole runes
          { draft with groupCount, focus := .atom anchored node } last := by
  have found : ∀ last, (guarded (ofToken? next) last).run = some (.ok (Node.ofToken next, last)) := by
    intro last
    rw [ofToken?_eq_some]
    rfl
  cases isNode : Node.ofToken next with
  | ok node =>
    rw [isNode] at reads
    have ⟨last, ran, after, fewer⟩ := stands.take short front reads rfl
    refine ⟨last, ran, comes_bind_of_eq (found last) ?_⟩
    rw [isNode]
    exact comes_pure ⟨fewer, _, after⟩
  | error reason =>
    rw [isNode] at reads
    have ⟨⟨last, ran⟩, refused⟩ := stands.refuse short front reads
    refine ⟨last, ran, comes_bind_of_eq (found last) ?_⟩
    rw [isNode]
    exact comes_throw refused

/-- An element is read without its quantifier. -/
theorem comes_atom {alternation : Parsing (List Node)} (short : runes.size + 1 < limit)
    (alternates : Alternates whole runes alternation bound)
    (stands : Stands whole runes draft reader) (deep : left reader ≤ bound)
    (enough : left reader ≤ rounds) (front : reader.cursor.peekToken? = some next)
    (reads : draft.read (reader.cursor.offset, next) =
      draft.readAtom anchored reader.cursor.offset next) :
    Comes whole (atom limit alternation rounds) reader fun node last => left last < left reader ∧
      ∃ groupCount, Stands whole runes
        { draft with groupCount, focus := .atom anchored node } last := by
  rw [atom]
  refine comes_bind_of_eq (run_offset reader) ?_
  by_cases isGroup : next = .plain '('
  · subst isGroup
    have ⟨cursor, ran, comes⟩ := comes_group short alternates stands deep front reads
    refine comes_bind_of_eq ran ?_
    simp only [↓reduceIte]
    exact comes
  · by_cases isSet : next = .plain '['
    · subst isSet
      have ⟨last, ran, after, fewer⟩ := stands.take short front reads rfl
      refine comes_bind_of_eq ran ?_
      simp only [if_neg isGroup, ↓reduceIte]
      refine comes_mono (comes_set short after rfl (by omega)) fun node final holds => ?_
      exact ⟨Nat.lt_trans holds.2 fewer, _, holds.1⟩
    · have alone : draft.readAtom anchored reader.cursor.offset next =
          match Node.ofToken next with
          | .ok node => .ok { draft with focus := .atom anchored node }
          | .error reason => .error ⟨reader.cursor.offset, reason⟩ := by
        unfold Draft.readAtom
        split
        · exact absurd rfl isGroup
        · exact absurd rfl isSet
        · rfl
      rw [alone] at reads
      have ⟨last, ran, comes⟩ := comes_leaf short stands front reads
      refine comes_bind_of_eq ran ?_
      simp only [if_neg isGroup, if_neg isSet]
      exact comes

/-- An element without a quantifier is finished by the token behind it, which is not one. -/
theorem Stands.push {node : Node} {groupCount : Nat}
    (stands : Stands whole runes { draft with groupCount, focus := .atom anchored node } reader)
    (plain : reader.cursor.peekToken?.bind Quantifier.ofToken? = none) :
    Stands whole runes
      { draft with
        groupCount, alternation := draft.alternation.push (Draft.anchor anchored node),
        focus := .element } reader := by
  refine ⟨stands.runes_eq, stands.nextGroup_eq, stands.groupCount_le, ?_⟩
  rw [← stands.leads]
  refine onward_congr rfl fun next front => ?_
  rw [front] at plain
  show _ = Draft.readQuantifier _ anchored node reader.cursor.offset next
  rw [Draft.readQuantifier, show Quantifier.ofToken? next = none from plain]
  rfl

/-- An element is read with its quantifier, and is finished. -/
theorem comes_element {alternation : Parsing (List Node)} (short : runes.size + 1 < limit)
    (alternates : Alternates whole runes alternation bound)
    (stands : Stands whole runes draft reader) (deep : left reader ≤ bound)
    (enough : left reader ≤ rounds) (front : reader.cursor.peekToken? = some next)
    (reads : draft.read (reader.cursor.offset, next) =
      draft.readAtom anchored reader.cursor.offset next) :
    Comes whole (element limit alternation rounds) reader fun node last =>
      left last < left reader ∧ ∃ groupCount, Stands whole runes
        { draft with
          groupCount, alternation := draft.alternation.push (Draft.anchor anchored node),
          focus := .element } last := by
  rw [element]
  refine comes_bind (comes_atom short alternates stands deep enough front reads)
    fun node behind holds => ?_
  obtain ⟨fewer, groupCount, stands'⟩ := holds
  refine comes_bind_of_eq (run_offset behind) (comes_bind_of_eq (stands'.peek short) ?_)
  cases quantified : behind.cursor.peekToken?.bind Quantifier.ofToken? with
  | none => exact comes_pure ⟨fewer, groupCount, stands'.push quantified⟩
  | some quantifier =>
    obtain ⟨mark, front', isMark⟩ := Option.bind_eq_some_iff.1 quantified
    have reads' : Draft.read { draft with groupCount, focus := .atom anchored node }
        (behind.cursor.offset, mark) =
      if node.isQuantifiable = true then
        .ok { draft with
          groupCount
          alternation := draft.alternation.push (Draft.anchor anchored (quantifier.apply node))
          focus := .element }
      else .error ⟨behind.cursor.offset, .unquantifiable quantifier node.description⟩ := by
      show Draft.readQuantifier _ anchored node behind.cursor.offset mark = _
      rw [Draft.readQuantifier, isMark]
      rfl
    by_cases single : node.isQuantifiable = true
    · rw [if_pos single] at reads'
      obtain ⟨last, ran, after, fewer'⟩ := stands'.take short front' reads' rfl
      refine comes_bind_of_eq ran ?_
      simp only [if_pos single]
      exact comes_pure ⟨Nat.lt_trans fewer' fewer, groupCount, after⟩
    · rw [if_neg single] at reads'
      obtain ⟨⟨last, ran⟩, refused⟩ := stands'.refuse short front' reads'
      refine comes_bind_of_eq ran ?_
      simp only [if_neg single]
      exact comes_throw refused

/-- Behind a start anchor an element is read, or it anchors nothing. -/
theorem comes_anchored {alternation : Parsing (List Node)} (short : runes.size + 1 < limit)
    (alternates : Alternates whole runes alternation bound)
    (stands : Stands whole runes draft reader) (focus : draft.focus = .anchor)
    (deep : left reader ≤ bound) (enough : left reader ≤ rounds) :
    Comes whole (Parsing.anchored limit alternation rounds) reader fun inner last =>
      left last ≤ left reader ∧ ∃ groupCount, Stands whole runes
        { draft with
          groupCount, alternation := draft.alternation.push (.startAnchor inner),
          focus := .element } last := by
  rw [Parsing.anchored]
  refine comes_bind_of_eq (stands.peek short) ?_
  by_cases ends : reader.cursor.peekToken?.all Draft.endsAnchor = true
  · rw [if_pos ends]
    refine comes_pure ⟨Nat.le_refl _, draft.groupCount, stands.runes_eq, stands.nextGroup_eq,
      stands.groupCount_le, ?_⟩
    have settled : draft.settle = draft.push (.startAnchor (.sequence [])) := by
      rw [Draft.settle, focus]
    rw [← stands.leads]
    refine onward_congr ?_ fun next front => ?_
    · rw [Draft.finish, Draft.finish, focus, settled]
      rfl
    · rw [front] at ends
      rw [Draft.Outside.read_of_ends (.inr focus) ends, settled]
      rfl
  · rw [if_neg ends]
    cases front : reader.cursor.peekToken? with
    | none =>
      rw [front] at ends
      exact absurd rfl ends
    | some next =>
      rw [front] at ends
      have notEnds : Draft.endsAnchor next ≠ true := ends
      have reads : draft.read (reader.cursor.offset, next) =
          draft.readAtom true reader.cursor.offset next := by
        rw [Draft.read, focus]
        exact if_neg notEnds
      refine comes_mono (comes_element short alternates stands deep enough front reads)
        fun inner last holds => ?_
      exact ⟨Nat.le_of_lt holds.1, holds.2⟩

/-! ## Branches -/

/-- Between elements, a token that ends no branch and anchors nothing begins an element. -/
theorem read_of_element (focus : draft.focus = .element)
    (notEnd : ¬ (next = .plain ')' ∨ next = .plain '|')) (notDollar : next ≠ .plain '$')
    (notCaret : ¬ (next = .plain '^' ∧ draft.alternation.elements = [])) (offset : Nat) :
    draft.read (offset, next) = draft.readAtom false offset next := by
  rw [read_eq_readElement focus]
  unfold Draft.readElement
  split
  · exact absurd (.inl rfl) notEnd
  · exact absurd (.inr rfl) notEnd
  · exact absurd rfl notDollar
  · have behind : draft.alternation.elements ≠ [] := fun isEmpty => notCaret ⟨rfl, isEmpty⟩
    rw [if_neg fun empty => behind (List.isEmpty_iff.1 empty)]
    rfl
  · rfl

/-- A branch is read up to the token that ends it. -/
theorem comes_sequence {alternation : Parsing (List Node)} {elements : List Node}
    (short : runes.size + 1 < limit) (alternates : Alternates whole runes alternation bound)
    (stands : Stands whole runes draft reader) (focus : draft.focus = .element)
    (read : draft.alternation.elements = elements) (deep : left reader ≤ bound)
    (enough : left reader < rounds) :
    Comes whole (sequence limit alternation rounds elements) reader fun node last =>
      ∃ final, MovesOn whole runes draft final reader last ∧
        final.alternation.branches = draft.alternation.branches ∧
        node = .sequence final.alternation.elements.reverse ∧
        ∀ next, last.cursor.peekToken? = some next → next = .plain ')' ∨ next = .plain '|' := by
  induction rounds generalizing draft reader elements with
  | zero => omega
  | succ rounds ih =>
    rw [sequence]
    refine comes_bind_of_eq (run_offset reader) (comes_bind_of_eq (stands.peek short) ?_)
    -- further elements are read into a draft with the same groups and branches
    have goesOn : ∀ {next : Draft} {behind : Reader}, MovesOn whole runes draft next reader behind →
        left behind < left reader → next.alternation.branches = draft.alternation.branches →
        Comes whole (sequence limit alternation rounds next.alternation.elements) behind
          fun node last => ∃ final, MovesOn whole runes draft final reader last ∧
            final.alternation.branches = draft.alternation.branches ∧
            node = .sequence final.alternation.elements.reverse ∧
            ∀ next, last.cursor.peekToken? = some next → next = .plain ')' ∨ next = .plain '|' := by
      intro next behind moved fewer branches
      refine comes_mono (ih moved.stands moved.focus_eq rfl (by omega) (by omega))
        fun node last holds => ?_
      have ⟨final, later, same, isNode, ends⟩ := holds
      exact ⟨final, moved.trans later, same.trans branches, isNode, ends⟩
    cases front : reader.cursor.peekToken? with
    | none =>
      refine comes_pure ⟨draft, .refl stands focus, rfl, by rw [read], ?_⟩
      intro next isNext
      rw [front] at isNext
      cases isNext
    | some next =>
      by_cases isEnd : next = .plain ')' ∨ next = .plain '|'
      · simp only [if_pos isEnd]
        refine comes_pure ⟨draft, .refl stands focus, rfl, by rw [read], ?_⟩
        intro other isNext
        rw [front] at isNext
        cases isNext
        exact isEnd
      · by_cases isDollar : next = .plain '$'
        · subst isDollar
          simp only [if_neg isEnd, ↓reduceIte]
          have reads : draft.read (reader.cursor.offset, .plain '$') =
              draft.anchorEnd reader.cursor.offset := by
            rw [read_eq_readElement focus]
            rfl
          rw [Draft.anchorEnd, read] at reads
          cases elements with
          | nil =>
            have ⟨⟨last, ran⟩, refused⟩ := stands.refuse short front reads
            exact comes_bind_of_eq ran (comes_throw refused)
          | cons latest earlier =>
            have ⟨last, ran, after, fewer⟩ := stands.take short front reads rfl
            exact comes_bind_of_eq ran (goesOn ⟨after, focus, rfl, Nat.le_of_lt fewer⟩ fewer rfl)
        · by_cases isCaret : next = .plain '^' ∧ elements = []
          · simp only [if_neg isEnd, if_neg isDollar, if_pos isCaret]
            have ⟨caret, isFirst⟩ := isCaret
            subst caret
            have reads : draft.read (reader.cursor.offset, .plain '^') =
                .ok { draft with focus := .anchor } := by
              rw [read_eq_readElement focus]
              exact if_pos (by rw [read, isFirst]; rfl)
            have ⟨behind, ran, after, fewer⟩ := stands.take short front reads rfl
            refine comes_bind_of_eq ran ?_
            refine comes_bind (comes_anchored short alternates after rfl (by omega) (by omega))
              fun inner last holds => ?_
            have ⟨further, groupCount, stands'⟩ := holds
            rw [← read]
            exact goesOn ⟨stands', rfl, rfl, by omega⟩ (by omega) rfl
          · simp only [if_neg isEnd, if_neg isDollar, if_neg isCaret]
            have reads := read_of_element focus isEnd isDollar (by rwa [read]) reader.cursor.offset
            refine comes_bind (comes_element short alternates stands deep (by omega) front reads)
              fun node last holds => ?_
            have ⟨fewer, groupCount, stands'⟩ := holds
            rw [← read]
            exact goesOn ⟨stands', rfl, rfl, Nat.le_of_lt fewer⟩ fewer rfl

/-- Branches are read up to a parenthesis or the end. -/
theorem comes_branches {alternation : Parsing (List Node)} {earlier : List Node}
    (short : runes.size + 1 < limit) (alternates : Alternates whole runes alternation bound)
    (stands : Stands whole runes draft reader) (focus : draft.focus = .element)
    (read : draft.alternation = ⟨earlier, []⟩) (deep : left reader ≤ bound)
    (enough : left reader < rounds) :
    Comes whole (branches limit alternation rounds earlier) reader fun all last =>
      ∃ final, MovesOn whole runes draft final reader last ∧ final.alternation.allBranches = all ∧
        ∀ next, last.cursor.peekToken? = some next → next = .plain ')' := by
  induction rounds generalizing draft reader earlier with
  | zero => omega
  | succ rounds ih =>
    rw [branches]
    refine comes_bind (comes_sequence short alternates stands focus (by rw [read]) deep enough)
      fun branch behind holds => ?_
    have ⟨final, moved, same, isBranch, ends⟩ := holds
    have further := moved.left_le
    have isEarlier : final.alternation.branches = earlier := by rw [same, read]
    refine comes_bind_of_eq (moved.stands.peek short) ?_
    by_cases bar : behind.cursor.peekToken? = some (.plain '|')
    · rw [if_pos bar]
      have reads : final.read (behind.cursor.offset, .plain '|') =
          .ok { final with alternation := ⟨branch :: earlier, []⟩ } := by
        rw [read_eq_readElement moved.focus_eq, isBranch, ← isEarlier]
        rfl
      have ⟨last, ran, after, fewer⟩ := moved.stands.take short bar reads rfl
      refine comes_bind_of_eq ran ?_
      refine comes_mono (ih after moved.focus_eq rfl (by omega) (by omega)) fun all ended holds' => ?_
      have ⟨final', later, isAll, ends'⟩ := holds'
      have toBar : MovesOn whole runes draft
          { final with alternation := ⟨branch :: earlier, []⟩ } reader last :=
        ⟨after, moved.focus_eq, moved.enclosing_eq, by omega⟩
      exact ⟨final', toBar.trans later, isAll, ends'⟩
    · rw [if_neg bar]
      refine comes_pure ⟨final, moved, ?_, fun next front => ?_⟩
      · rw [Alternation.allBranches, isBranch, isEarlier]
      · rcases ends next front with isEnd | isBar
        · exact isEnd
        · rw [front, isBar] at bar
          exact absurd rfl bar

/-- So are the branches of a group, with all groups in them. -/
theorem alternates_alternation (short : runes.size + 1 < limit) (rounds : Nat) :
    Alternates whole runes (alternation limit rounds) rounds := by
  induction rounds with
  | zero =>
    intro draft reader _ _ _ enough
    omega
  | succ rounds ih =>
    intro draft reader stands focus empty enough
    rw [alternation]
    exact comes_branches short ih stands focus empty (by omega) enough

/-- A whole pattern is read up to its end. -/
theorem comes_pattern (short : runes.size + 1 < limit)
    (stands : Stands whole runes .empty reader) (enough : left reader < rounds) :
    Comes whole (pattern limit rounds) reader fun value _ => whole = .ok value := by
  rw [pattern]
  refine comes_bind (alternates_alternation short rounds .empty reader stands rfl rfl enough)
    fun all last holds => ?_
  obtain ⟨final, moved, isAll, ends⟩ := holds
  refine comes_bind_of_eq (run_offset last) (comes_bind_of_eq (moved.stands.peek short) ?_)
  by_cases closing : last.cursor.peekToken? = some (.plain ')')
  · rw [if_pos closing]
    have reads : final.read (last.cursor.offset, .plain ')') =
        .error ⟨last.cursor.offset, .unmatchedParenthesis⟩ := by
      rw [read_eq_readElement moved.focus_eq]
      show final.closeGroup last.cursor.offset = _
      rw [Draft.closeGroup, moved.enclosing_eq]
      rfl
    exact comes_throw (moved.stands.refuse short closing reads).2
  · rw [if_neg closing]
    have ended : last.cursor.peekToken? = none := by
      cases front : last.cursor.peekToken? with
      | none => rfl
      | some next =>
        rw [front, ends next front] at closing
        exact absurd rfl closing
    have counted : (groupCount last).run = some (.ok (final.groupCount, last)) := by
      have numbered := moved.stands.nextGroup_eq
      show (minus? last.nextGroup 1).map _ = _
      rw [numbered, minus?_eq_some (Nat.le_add_left 1 _)]
      rfl
    have finished : final.finish = .ok (Draft.root final.alternation, final.groupCount) := by
      rw [Draft.finish_eq_ok, Draft.settle_of_element moved.focus_eq]
      exact ⟨.inl (.inl moved.focus_eq), moved.enclosing_eq, rfl, rfl⟩
    rw [moved.stands.finish_eq ended, Draft.root, isAll] at finished
    refine comes_bind_of_eq counted ?_
    cases all with
    | nil => exact comes_pure finished
    | cons branch rest => cases rest <;> exact comes_pure finished

end

end Parsing

/-- The descent comes to what a text is read as, in a machine whose words count the runes of the text and
one more. -/
theorem Pattern.descend_eq_parse {limit : Nat} {source : Text} (short : source.length + 1 < limit) :
    Pattern.descend? limit source = some (Pattern.parse source) := by
  have begins : Parsing.Stands (Pattern.parse source) source.toArray .empty ⟨.ofText source, 1⟩ :=
    ⟨rfl, rfl, Nat.le_refl 0, rfl⟩
  have word : source.toArray.size + 1 < limit := by rwa [List.size_toArray]
  have few : Parsing.left ⟨.ofText source, 1⟩ < source.length + 1 :=
    Nat.lt_succ_of_le (Nat.le_of_eq List.size_toArray)
  have comes := Parsing.comes_pattern word begins few
  unfold descend?
  unfold Parsing.Comes at comes
  generalize (Parsing.pattern limit (source.length + 1) ⟨.ofText source, 1⟩).run = ran at comes ⊢
  cases ran with
  | none => exact comes.elim
  | some result =>
    cases result with
    | error error => exact congrArg some comes.symm
    | ok found => exact congrArg some comes.symm

end PatternSearch
