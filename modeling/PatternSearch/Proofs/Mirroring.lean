import PatternSearch.Proofs.GuardedAttempt
import PatternSearch.Proofs.Remembering

/-!
# Mirroring

A guarded attempt ends as an attempt does, and is nowhere stopped in a subject whose length is a word
(`mirrors_guarded`): there is always a rune where a cursor advances, and always a text between the
offsets of a group. The numbers in an outcome agree with the offsets between which the attempt went
(`accounts_of_attemptWith`), so no sum of lengths passes the end of the subject, no round is given back
that was not made, and an element does not consume more than lies before the place where it ended.
-/
namespace PatternSearch

open Guarded

/-! ## Guarded steps do what steps do -/

section

variable {limit : Nat} {subject : Array Char} {guarded : GuardedStep} {step : State → Attempt}
  {start : Standing} {ran : GuardedAttempt} {attempt : Attempt}

/-- A guarded attempt is not stopped, and ends as an attempt does. -/
def Mirrors (subject : Array Char) (ran : GuardedAttempt) (attempt : Attempt) : Prop :=
  ∃ reached, ran = some (attempt.result, reached) ∧ reached.cursor.runes = subject ∧
    reached.state = attempt.state

/-- A guarded step is nowhere stopped in the subject, and ends as a step does. -/
def MirrorsStep (subject : Array Char) (guarded : GuardedStep) (step : State → Attempt) : Prop :=
  ∀ start, start.cursor.runes = subject → Mirrors subject (guarded start) (step start.state)

/-- A guarded attempt is not stopped. If it succeeds it ends as the attempt does, and if it fails with
the same mismatch and the same captured texts. -/
def Resembles (subject : Array Char) (ran : GuardedAttempt) (attempt : Attempt) : Prop :=
  (∃ outcome reached, ran = some (.ok outcome, reached) ∧ attempt = ⟨.ok outcome, reached.state⟩ ∧
      reached.cursor.runes = subject) ∨
    ∃ mismatch failed offset, ran = some (.error mismatch, failed) ∧
      attempt = ⟨.error mismatch, failed.state.at offset⟩ ∧ failed.cursor.runes = subject

/-- A guarded attempt that ends as an attempt does succeeds or fails with it. -/
theorem Mirrors.cases (mirrors : Mirrors subject ran attempt) :
    (∃ outcome reached, ran = some (.ok outcome, reached) ∧
        attempt = ⟨.ok outcome, reached.state⟩ ∧ reached.cursor.runes = subject) ∨
      ∃ mismatch failed, ran = some (.error mismatch, failed) ∧
        attempt = ⟨.error mismatch, failed.state⟩ ∧ failed.cursor.runes = subject := by
  have ⟨reached, isRan, same, stands⟩ := mirrors
  cases attempt with
  | mk result state =>
    have stands : reached.state = state := stands
    subst stands
    cases result with
    | ok outcome => exact .inl ⟨outcome, reached, isRan, rfl, same⟩
    | error mismatch => exact .inr ⟨mismatch, reached, isRan, rfl, same⟩

/-- A guarded attempt that ends as an attempt does, also in its offset, resembles it. -/
theorem Mirrors.resembles (mirrors : Mirrors subject ran attempt) : Resembles subject ran attempt := by
  rcases mirrors.cases with succeeds | ⟨mismatch, failed, isRan, same, inText⟩
  · exact .inl succeeds
  · exact .inr ⟨mismatch, failed, failed.cursor.offset, isRan, same, inText⟩

/-- A guarded step may succeed as a step does. -/
theorem mirrors_success {reached : Standing} (outcome : Outcome)
    (inText : reached.cursor.runes = subject) :
    Mirrors subject (some (.ok outcome, reached)) (.success outcome reached.state) :=
  ⟨reached, rfl, inText, rfl⟩

/-- A guarded step may fail as a step does. -/
theorem mirrors_failure {failed : Standing} (mismatch : Mismatch)
    (inText : failed.cursor.runes = subject) :
    Mirrors subject (some (.error mismatch, failed)) (.failure mismatch failed.state) :=
  ⟨failed, rfl, inText, rfl⟩

/-- A cursor stands inside the subject. -/
theorem Standing.inside (inText : start.cursor.runes = subject) :
    start.state.offset ≤ subject.size := by
  have inside := start.cursor.offset_le
  rwa [inText] at inside

/-- A move inside the subject is not stopped. -/
theorem Standing.reset?_eq_some {offset : Nat} (inText : start.cursor.runes = subject)
    (inside : offset ≤ subject.size) :
    ∃ moved, start.reset? offset = some moved ∧ moved.cursor.runes = subject ∧
      moved.state = start.state.at offset := by
  rw [← inText] at inside
  refine ⟨{ start with cursor := ⟨start.cursor.runes, offset, inside⟩ }, ?_, inText, rfl⟩
  rw [reset?, Cursor.reset?, dif_pos inside, Option.map_some]

/-- A failed attempt is put back to an offset in the subject without stopping. -/
theorem mirrors_returning (inText : start.cursor.runes = subject)
    (resembles : Resembles subject ran attempt) :
    Mirrors subject (ran.returning start) (.restoring .offset start.state attempt) := by
  unfold GuardedAttempt.returning
  rcases resembles with ⟨outcome, reached, isRan, same, inText'⟩ |
    ⟨mismatch, failed, offset, isRan, same, inText'⟩
  · rw [isRan, same]
    exact mirrors_success outcome inText'
  · have ⟨back, moved, inText'', stands⟩ := Standing.reset?_eq_some inText' (Standing.inside inText)
    rw [isRan, same]
    simp only [Option.bind_eq_bind, Option.bind_some]
    have isMoved : failed.reset? start.cursor.offset = some back := moved
    rw [isMoved]
    exact ⟨back, rfl, inText'', stands⟩

/-! ## Runes and texts -/

/-- Advancing in the subject gives its next rune. -/
theorem advance_eq (short : subject.size < limit) (inText : start.cursor.runes = subject) :
    (subject[start.cursor.offset]? = none ∧ advance limit start.cursor = some none) ∨
      ∃ found cursor, subject[start.cursor.offset]? = some found ∧
        advance limit start.cursor = some (some (found, cursor)) ∧ cursor.runes = subject ∧
        cursor.offset = start.cursor.offset + 1 := by
  have word : start.cursor.runes.size < limit := by rwa [inText]
  rw [advance_eq_some word]
  unfold Cursor.advance?
  by_cases inside : start.cursor.offset < start.cursor.runes.size
  · refine .inr ⟨_, _, ?_, congrArg some (dif_pos inside), inText, rfl⟩
    rw [← inText]
    exact Array.getElem?_eq_getElem inside
  · refine .inl ⟨?_, congrArg some (dif_neg inside)⟩
    rw [← inText]
    exact Array.getElem?_eq_none (Nat.le_of_not_lt inside)

/-- A rune is looked for without a stop. -/
theorem mirrors_rune (short : subject.size < limit) (wanted : Char → Bool) :
    MirrorsStep subject (GuardedStep.rune limit wanted) (Attempt.rune subject wanted) := by
  intro start inText
  have peeked : start.cursor.peek? = subject[start.cursor.offset]? := by
    rw [Cursor.peek?, inText]
  unfold GuardedStep.rune Attempt.rune
  rw [peeked]
  rcases advance_eq short inText with ⟨isNone, _⟩ | ⟨found, cursor, isSome, advanced, inText', moved⟩
  · rw [isNone, show subject[start.state.offset]? = none from isNone]
    exact mirrors_failure _ inText
  · rw [isSome, show subject[start.state.offset]? = some found from isSome]
    by_cases accepted : wanted found = true
    · simp only [if_pos accepted, advanced, Option.bind_eq_bind, Option.bind_some]
      refine ⟨{ start with cursor }, rfl, inText', ?_⟩
      exact congrArg₂ State.mk moved rfl
    · simp only [if_neg accepted]
      exact mirrors_failure _ inText

/-- A text is matched rune by rune as it is found in the subject. The cursor is inside the subject, so
counting the runes is not stopped. -/
theorem text_eq (short : subject.size < limit) (wanted : Text) {consumed : Nat}
    (inText : start.cursor.runes = subject) (few : consumed ≤ start.cursor.offset) :
    match Attempt.text.compare subject wanted start.cursor.offset with
    | .ok stop => ∃ reached, GuardedStep.text limit consumed wanted start =
        some (.ok (.consuming (consumed + wanted.length)), reached) ∧
        reached.cursor.runes = subject ∧ reached.state = start.state.at stop
    | .error mismatch => ∃ failed, GuardedStep.text limit consumed wanted start =
        some (.error mismatch, failed) ∧ failed.cursor.runes = subject ∧
        failed.captures = start.captures := by
  induction wanted generalizing start consumed with
  | nil => exact ⟨start, rfl, inText, rfl⟩
  | cons rune rest ih =>
    rw [Attempt.text.compare]
    simp only [GuardedStep.text]
    rcases advance_eq short inText with ⟨isNone, advanced⟩ |
      ⟨found, cursor, isSome, advanced, inText', moved⟩
    · rw [isNone, advanced]
      exact ⟨start, rfl, inText, rfl⟩
    · rw [isSome, advanced]
      simp only [Option.bind_eq_bind, Option.bind_some]
      by_cases same : found = rune
      · have inside := cursor.offset_le
        rw [inText', moved] at inside
        have word : plus? limit consumed 1 = some (consumed + 1) := plus?_eq_some (by omega)
        have later := @ih { start with cursor } (consumed + 1) inText' (by simp only; omega)
        simp only [moved] at later
        simp only [if_pos same, word, Option.bind_some]
        have length : consumed + (rune :: rest).length = consumed + 1 + rest.length := by
          rw [List.length_cons]
          omega
        rw [length]
        exact later
      · simp only [if_neg same]
        exact ⟨_, rfl, inText', rfl⟩

/-- A text is compared without a stop, though a mismatch is noticed further on. -/
theorem resembles_text (short : subject.size < limit) (inText : start.cursor.runes = subject)
    (captured : Text) :
    Resembles subject (GuardedStep.text limit 0 captured start)
      (Attempt.text subject captured start.state) := by
  have ran := text_eq short captured inText (Nat.zero_le _)
  unfold Attempt.text
  rw [show start.state.offset = start.cursor.offset from rfl]
  cases found : Attempt.text.compare subject captured start.cursor.offset with
  | ok stop =>
    rw [found] at ran
    have ⟨reached, isRan, inText', stands⟩ := ran
    refine .inl ⟨_, reached, isRan, ?_, inText'⟩
    rw [Nat.zero_add, stands]
    rfl
  | error mismatch =>
    rw [found] at ran
    have ⟨failed, isRan, inText', kept⟩ := ran
    refine .inr ⟨mismatch, failed, start.cursor.offset, isRan, ?_, inText'⟩
    exact congrArg (Attempt.mk _) (congrArg₂ State.mk rfl kept.symm)

/-! ## Rounds -/

/-- Rounds are taken until as many are made as are allowed, and each but the last one moves on, so
there is room for all of them. -/
theorem repeated_eq {max : Option Nat} {rounds room : Nat} {earlier : List Nat}
    (mirrors : MirrorsStep subject guarded step) (accounting : Node.Accounting subject step)
    (inText : start.cursor.runes = subject)
    (allowed : ∀ most, max = some most → earlier.length + rounds ≤ most)
    (enough : subject.size - start.cursor.offset + 1 ≤ rounds ∨ max = some (earlier.length + rounds))
    (roomy : subject.size - start.cursor.offset + 2 ≤ room) :
    ∃ reached, GuardedStep.repeated guarded max room earlier start =
        some (earlier.reverse ++ (Attempt.repeated step rounds start.state).1, reached) ∧
      reached.cursor.runes = subject ∧
      reached.state = (Attempt.repeated step rounds start.state).2 := by
  induction rounds generalizing room earlier start with
  | zero =>
    cases room with
    | zero => omega
    | succ room =>
      have isMax : max = some earlier.length := enough.resolve_left (by omega)
      have full : ¬ max.all (earlier.length < ·) = true := by simp [isMax]
      refine ⟨start, ?_, inText, rfl⟩
      rw [GuardedStep.repeated, if_neg full, Attempt.repeated, List.append_nil]
      rfl
  | succ rounds ih =>
    cases room with
    | zero => omega
    | succ room =>
      have further : max.all (earlier.length < ·) = true := by
        cases max with
        | none => rfl
        | some most =>
          have := allowed most rfl
          simp only [Option.all_some, decide_eq_true_eq]
          omega
      rw [GuardedStep.repeated, if_pos further]
      rcases (mirrors start inText).cases with ⟨outcome, next, isRan, stepped, inText'⟩ |
        ⟨mismatch, failed, isRan, stepped, inText'⟩
      · simp only [isRan, stepped, Attempt.repeated, Option.bind_eq_bind, Option.bind_some]
        by_cases empty : outcome.consumed = 0
        · simp only [if_pos empty]
          refine ⟨next, ?_, inText', rfl⟩
          rw [List.reverse_cons, empty]
          rfl
        · have accounts := accounting (Standing.inside inText) stepped
          have moved : next.cursor.offset = start.cursor.offset + outcome.consumed := accounts.stop_eq
          have inside : next.cursor.offset ≤ subject.size := accounts.stop_le
          have later := @ih next room (outcome.consumed :: earlier) inText'
            (fun most isMost => by
              have := allowed most isMost
              rw [List.length_cons]
              omega)
            (enough.imp (fun many => by omega) fun isMax => by
              rw [isMax, List.length_cons]
              congr 1
              omega)
            (by omega)
          simp only [if_neg empty]
          rw [List.reverse_cons, List.append_assoc] at later
          exact later
      · simp only [isRan, stepped, Attempt.repeated, Option.bind_eq_bind, Option.bind_some,
          List.append_nil]
        exact ⟨failed, rfl, inText', rfl⟩

/-- A repetition is nowhere stopped if what it repeats is not. -/
theorem mirrors_repetition {node : Node} (short : subject.size < limit)
    (mirrors : MirrorsStep subject guarded (node.attemptWith .offset subject)) (min : Nat)
    (max : Option Nat) :
    MirrorsStep subject (GuardedStep.repetition limit guarded min max)
      (Attempt.repetition subject (node.attemptWith .offset subject) min max) := by
  intro start inText
  have accounting : Node.Accounting subject (node.attemptWith .offset subject) :=
    Node.accounts_of_attemptWith node
  have enough : subject.size - start.cursor.offset + 1 ≤
        Attempt.rounds (subject.size - start.cursor.offset) max ∨
      max = some (0 + Attempt.rounds (subject.size - start.cursor.offset) max) := by
    cases max with
    | none => exact .inl (Nat.le_refl _)
    | some most =>
      rw [Attempt.rounds, Nat.zero_add, Option.some.injEq]
      omega
  have ⟨reached, isRan, inText', stands⟩ := @repeated_eq _ _ _ _ max
    (Attempt.rounds (subject.size - start.cursor.offset) max) (subject.size + 2) [] mirrors accounting
    inText
    (fun most isMost => by
      rw [List.length_nil, Nat.zero_add]
      exact Attempt.rounds_le _ isMost)
    enough (by omega)
  unfold GuardedStep.repetition Attempt.repetition
  rw [inText, isRan]
  rw [show start.state.offset = start.cursor.offset from rfl]
  cases repeats : Attempt.repeated (node.attemptWith .offset subject)
      (Attempt.rounds (subject.size - start.cursor.offset) max) start.state with
  | mk lengths final =>
    rw [repeats] at stands
    have ends := Node.accounts_of_repeated accounting repeats (Standing.inside inText)
    rw [Attempt.totalLength_eq_sum] at ends
    subst stands
    simp only [List.reverse_nil, List.nil_append, Option.bind_eq_bind, Option.bind_some]
    by_cases few : lengths.length < min
    · simp only [if_pos few]
      exact mirrors_failure _ inText'
    · have word : sum? limit lengths = some lengths.sum := sum?_eq_some (by omega)
      have spare : minus? lengths.length min = some (lengths.length - min) := minus?_eq_some (by omega)
      simp only [if_neg few, word, spare, Option.bind_some, Attempt.totalLength_eq_sum]
      exact mirrors_success _ inText'

/-! ## Giving rounds back -/

/-- Behind any front of the rounds a repetition has an offset in the subject, so a retry there is not
stopped. -/
theorem mirrors_behindRounds {preceding : Attempt.Preceding} {began stop : Nat}
    (short : subject.size < limit) (mirrors : MirrorsStep subject guarded step)
    (known : Node.Remembers subject began stop preceding) {kept : List Nat}
    (fewer : ∀ count ∈ kept, preceding.leastRounds ≤ count ∧
      count < preceding.outcome.repetitions.length)
    (inText : start.cursor.runes = subject) :
    Mirrors subject (GuardedStep.behindRounds limit guarded preceding stop kept start)
      (Attempt.atFirst step stop
        (kept.map fun count =>
          preceding.start + Attempt.totalLength (preceding.outcome.repetitions.take count))
        start.state) := by
  induction kept generalizing start with
  | nil =>
    obtain ⟨back, moved, inText', stands⟩ := Standing.reset?_eq_some inText known.accounts.stop_le
    rw [GuardedStep.behindRounds, moved, List.map_nil, Attempt.atFirst, ← stands]
    exact mirrors_failure _ inText'
  | cons count rest ih =>
    obtain ⟨least, given⟩ := fewer count List.mem_cons_self
    have between := Attempt.Preceding.shorterEnds_between known.accounts
      (Attempt.Preceding.mem_shorterEnds.2 ⟨count, least, given, rfl⟩)
    have inside := Nat.le_trans between.2 known.accounts.stop_le
    obtain ⟨behind, moved, inText', stands⟩ := Standing.reset?_eq_some inText inside
    have later := fun {failed : Standing} => @ih failed fun other member =>
      fewer other (List.mem_cons_of_mem _ member)
    rw [Attempt.totalLength_eq_sum] at inside moved stands
    have front : front? preceding.outcome.repetitions count =
        some (preceding.outcome.repetitions.take count) := front?_eq_some (by omega)
    have word : sum? limit (preceding.outcome.repetitions.take count) =
        some (preceding.outcome.repetitions.take count).sum := sum?_eq_some (by omega)
    have place : plus? limit preceding.start (preceding.outcome.repetitions.take count).sum =
        some (preceding.start + (preceding.outcome.repetitions.take count).sum) :=
      plus?_eq_some (by omega)
    rw [GuardedStep.behindRounds, List.map_cons, Attempt.atFirst, Attempt.totalLength_eq_sum, ← stands]
    simp only [front, word, place, moved, Option.bind_eq_bind, Option.bind_some]
    rcases (mirrors behind inText').cases with ⟨outcome, reached, isRan, stepped, inText''⟩ |
      ⟨mismatch, failed, isRan, stepped, inText''⟩
    · simp only [isRan, stepped, Option.bind_some]
      exact mirrors_success _ inText''
    · simp only [isRan, stepped, Option.bind_some]
      exact later inText''

/-- A step behind a remembered success that is tried again where rounds are given back is not
stopped. -/
theorem mirrors_orAfterGiveback {preceding : Option Attempt.Preceding} {began : Nat}
    (short : subject.size < limit) (mirrors : MirrorsStep subject guarded step)
    (back : ∀ mismatch failed, step start.state = ⟨.error mismatch, failed⟩ →
      failed.offset = start.state.offset)
    (inText : start.cursor.runes = subject)
    (remembered : ∀ latest ∈ preceding, Node.Remembers subject began start.state.offset latest) :
    Mirrors subject (GuardedStep.orAfterGiveback limit guarded preceding start)
      (Attempt.orAfterGiveback step preceding start.state) := by
  unfold GuardedStep.orAfterGiveback Attempt.orAfterGiveback
  rcases (mirrors start inText).cases with ⟨outcome, reached, isRan, stepped, inText'⟩ |
    ⟨mismatch, failed, isRan, stepped, inText'⟩
  · simp only [isRan, stepped, Option.bind_eq_bind, Option.bind_some]
    exact mirrors_success _ inText'
  · simp only [isRan, stepped, Option.bind_eq_bind, Option.bind_some]
    cases preceding with
    | none => exact mirrors_failure _ inText'
    | some latest =>
      by_cases gives : 0 < latest.outcome.giveback
      · have known := remembered latest rfl
        rw [← back mismatch failed.state stepped] at known
        have spare : minus? latest.outcome.repetitions.length latest.outcome.giveback =
            some latest.leastRounds := minus?_eq_some known.accounts.giveback_le
        simp only [if_pos gives]
        unfold GuardedStep.afterGiveback Attempt.afterGiveback
        rw [Attempt.Preceding.shorterEnds_eq_map]
        simp only [spare, Option.bind_eq_bind, Option.bind_some]
        exact mirrors_behindRounds short mirrors known
          (fun count member => by
            have := List.mem_range'_1.1 (List.mem_reverse.1 member)
            omega)
          inText'
      · simp only [if_neg gives]
        exact mirrors_failure _ inText'

end

namespace Node

variable {limit : Nat} {subject : Array Char}

mutual

/-- A guarded attempt of a tree is nowhere stopped in a subject whose length is a word. -/
theorem mirrors_guarded (short : subject.size < limit) :
    (node : Node) → MirrorsStep subject (node.guarded limit) (node.attemptWith .offset subject)
  | .literal own => fun start inText => by
    rw [guarded, attemptWith]
    exact mirrors_returning inText (mirrors_rune short _ start inText).resembles
  | .ofClass kind => fun start inText => by
    rw [guarded, attemptWith]
    exact mirrors_returning inText (mirrors_rune short _ start inText).resembles
  | .set members negated => fun start inText => by
    rw [guarded, attemptWith]
    exact mirrors_returning inText (mirrors_rune short _ start inText).resembles
  | .startAnchor node => fun start inText => by
    rw [guarded, attemptWith]
    refine mirrors_returning inText (Mirrors.resembles ?_)
    by_cases first : start.cursor.offset = 0
    · rw [if_pos first, if_pos (show start.state.offset = 0 from first)]
      exact mirrors_guarded short node start inText
    · rw [if_neg first, if_neg (show ¬ start.state.offset = 0 from first)]
      exact mirrors_failure _ inText
  | .endAnchor node => fun start inText => by
    rw [guarded, attemptWith]
    refine mirrors_returning inText (Mirrors.resembles ?_)
    rcases (mirrors_guarded short node start inText).cases with
      ⟨outcome, reached, isRan, matched, inText'⟩ | ⟨mismatch, failed, isRan, matched, inText'⟩
    · simp only [isRan, matched, Option.bind_eq_bind, Option.bind_some]
      have same : reached.cursor.atEnd = decide (subject.size ≤ reached.state.offset) := by
        rw [Cursor.atEnd, inText']
        rfl
      by_cases ended : subject.size ≤ reached.state.offset
      · simp only [same, ended, decide_true, if_true]
        exact mirrors_success _ inText'
      · simp only [same, ended, decide_false, if_false, Bool.false_eq_true]
        exact mirrors_failure _ inText'
    · simp only [isRan, matched, Option.bind_eq_bind, Option.bind_some]
      exact mirrors_failure _ inText'
  | .repetition node min max => fun start inText => by
    rw [guarded, attemptWith]
    exact mirrors_returning inText
      (mirrors_repetition short (mirrors_guarded short node) min max start inText).resembles
  | .group index branches => fun start inText => by
    rw [guarded, attemptWith]
    exact mirrors_returning inText (mirrors_guardedBranches short branches inText).resembles
  | .backreference index => fun start inText => by
    rw [guarded, attemptWith]
    refine mirrors_returning inText ?_
    rw [show start.state.captures = start.captures from rfl]
    cases start.captures.get? index with
    | none => exact (mirrors_failure _ inText).resembles
    | some captured => exact resembles_text short inText captured
  | .sequence nodes => fun start inText => by
    rw [guarded, attemptWith]
    exact mirrors_returning inText
      (mirrors_guardedSequence short nodes inText (Nat.le_refl _) (by simp)).resembles

/-- The branch of a group that matches ends behind where the group began, so the text of the group can
be recorded. -/
theorem mirrors_guardedBranches (short : subject.size < limit) {index : Nat} :
    (branches : List Node) → ∀ {start : Standing}, start.cursor.runes = subject →
      Mirrors subject (guardedBranches limit index start.cursor.offset branches start)
        (attemptBranches .offset subject index branches start.state)
  | [], start, inText => by
    rw [guardedBranches, attemptBranches]
    exact mirrors_failure _ inText
  | branch :: rest, start, inText => by
    rw [guardedBranches, attemptBranches]
    rcases (mirrors_guarded short branch start inText).cases with
      ⟨outcome, reached, isRan, matched, inText'⟩ | ⟨mismatch, failed, isRan, matched, inText'⟩
    · have accounts := accounts_of_attemptWith branch (Standing.inside inText) matched
      have onward : start.cursor.offset ≤ reached.cursor.offset := by
        have : reached.cursor.offset = start.cursor.offset + outcome.consumed := accounts.stop_eq
        omega
      have text : reached.cursor.slice? start.cursor.offset reached.cursor.offset =
          some (subject.extract start.cursor.offset reached.cursor.offset).toList := by
        rw [Cursor.slice?, if_pos ⟨onward, reached.cursor.offset_le⟩, inText']
      simp only [isRan, matched, text, Option.bind_eq_bind, Option.bind_some]
      exact ⟨_, rfl, inText', rfl⟩
    · have back : failed.cursor.offset = start.cursor.offset := offset_of_attemptWith_error matched
      simp only [isRan, matched, Option.bind_eq_bind, Option.bind_some]
      rw [← back]
      exact @mirrors_guardedBranches short index rest { failed with captures := start.captures } inText'

/-- A sequence stands behind where it began, and each of its elements behind where that began. -/
theorem mirrors_guardedSequence (short : subject.size < limit) {began : Nat}
    {preceding : Option Attempt.Preceding} :
    (nodes : List Node) → ∀ {start : Standing}, start.cursor.runes = subject →
      began ≤ start.state.offset →
      (∀ latest ∈ preceding, Remembers subject began start.state.offset latest) →
      Mirrors subject (guardedSequence limit began preceding nodes start)
        (attemptSequence .offset subject began preceding nodes start.state)
  | [], start, inText, after, _ => by
    have word : minus? start.cursor.offset began = some (start.cursor.offset - began) :=
      minus?_eq_some after
    rw [guardedSequence, attemptSequence]
    simp only [word, Option.bind_eq_bind, Option.bind_some]
    exact mirrors_success _ inText
  | node :: rest, start, inText, after, remembered => by
    rw [guardedSequence, attemptSequence]
    have mirrors := mirrors_orAfterGiveback short (mirrors_guarded short node)
      (fun _ _ failed => offset_of_attemptWith_error failed) inText remembered
    rcases mirrors.cases with
      ⟨outcome, next, isRan, matched, inText'⟩ | ⟨mismatch, failed, isRan, matched, inText'⟩
    · have known := remembers_of_orAfterGiveback (accounts_of_attemptWith node) after
        (Standing.inside inText) remembered matched
      have stopped := known.accounts.stop_eq
      have begins := known.began_le
      have word : minus? next.cursor.offset outcome.consumed =
          some (next.cursor.offset - outcome.consumed) :=
        minus?_eq_some (by
          have : next.state.offset = next.cursor.offset := rfl
          simp only at stopped
          omega)
      simp only [isRan, matched, word, Option.bind_eq_bind, Option.bind_some]
      refine mirrors_guardedSequence short rest inText' (by simp only at begins; omega) ?_
      intro latest isLatest
      cases isLatest
      exact known
    · simp only [isRan, matched, Option.bind_eq_bind, Option.bind_some]
      exact mirrors_failure _ inText'

end

end Node

end PatternSearch
