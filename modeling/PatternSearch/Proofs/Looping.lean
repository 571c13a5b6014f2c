import PatternSearch.Proofs.Remembering

/-!
# Repetitions as loops

A repetition takes its step in a loop, without a bound on the number of rounds but the maximum, if there
is one. `Loop` says how the loop goes, and where its step is tried. A round that is followed by another
one moves on in the subject, so every loop ends, and its step is not tried more often than there are runes
left and once more (`Loop.length_tried_le`). The bound on the rounds with which repetitions are attempted
is never reached before the loop ends (`loop_repeated`).

A loop ends for one of three reasons (`Ended`): the maximum is reached, the last round consumed nothing,
or the step fails. The second reason may come before the minimum is reached. Then the repetition fails
although its step could be taken often enough; in all other cases the minimum is honoured
(`Node.attempt_repetition_of_rounds`).
-/
namespace PatternSearch

namespace Attempt

/-- A step over and over from a state, at most as often as is allowed: the states in which it is tried,
what each successful round consumes, and the state in the end. -/
inductive Loop (step : State → Attempt) :
    (allowed : Option Nat) → State → (tried : List State) → (lengths : List Nat) → State → Prop
  /-- No round is allowed any more. -/
  | full (state : State) : Loop step (some 0) state [] [] state
  /-- The step fails. -/
  | failed {allowed : Option Nat} {state failed : State} {mismatch : Mismatch} : allowed ≠ some 0 →
      step state = ⟨.error mismatch, failed⟩ → Loop step allowed state [state] [] failed
  /-- A round that consumes nothing is the last one. -/
  | empty {allowed : Option Nat} {state next : State} {outcome : Outcome} : allowed ≠ some 0 →
      step state = ⟨.ok outcome, next⟩ → outcome.consumed = 0 → Loop step allowed state [state] [0] next
  /-- Another round may be taken behind one that consumes something. -/
  | further {allowed : Option Nat} {state next final : State} {outcome : Outcome} {tried : List State}
      {lengths : List Nat} : allowed ≠ some 0 → step state = ⟨.ok outcome, next⟩ → outcome.consumed ≠ 0 →
      Loop step (allowed.map (· - 1)) next tried lengths final →
        Loop step allowed state (state :: tried) (outcome.consumed :: lengths) final

/-- Why no round is taken behind rounds of these lengths, the last of which reached a state, and the state
that this leaves. -/
inductive Ended (step : State → Attempt) (allowed : Option Nat) (lengths : List Nat) (last : State) :
    State → Prop
  /-- There are as many rounds as are allowed. -/
  | full : allowed = some lengths.length → Ended step allowed lengths last last
  /-- The last round consumed nothing. -/
  | empty : lengths.getLast? = some 0 → Ended step allowed lengths last last
  /-- The step fails. -/
  | failed {mismatch : Mismatch} {failed : State} : step last = ⟨.error mismatch, failed⟩ →
      Ended step allowed lengths last failed

variable {step : State → Attempt} {subject : Array Char} {allowed : Option Nat} {state last final : State}
  {tried : List State} {lengths : List Nat}

/-- A loop can go in one way only. -/
theorem Loop.unique {tried' : List State} {lengths' : List Nat} {final' : State}
    (loop : Loop step allowed state tried lengths final)
    (other : Loop step allowed state tried' lengths' final') :
    tried = tried' ∧ lengths = lengths' ∧ final = final' := by
  induction loop generalizing tried' lengths' final' with
  | full state => cases other <;> simp_all
  | failed more stepped => cases other <;> simp_all
  | empty more stepped nothing => cases other <;> simp_all
  | further more stepped something _ ih =>
    cases other with
    | full => exact absurd rfl more
    | failed _ stepped' => simp [stepped] at stepped'
    | empty _ stepped' nothing => simp_all
    | further _ stepped' _ later =>
      rw [stepped] at stepped'
      cases stepped'
      obtain ⟨rfl, rfl, rfl⟩ := ih later
      exact ⟨rfl, rfl, rfl⟩

/-- A loop takes successful rounds, each but the last of which consumes something, until it has a reason
to end. -/
theorem Loop.ended (loop : Loop step allowed state tried lengths final) :
    ∃ last, Rounds step state lengths last ∧ (∀ length ∈ lengths.dropLast, 0 < length) ∧
      Ended step allowed lengths last final := by
  induction loop with
  | full state => exact ⟨state, .none state, by simp, .full rfl⟩
  | failed _ stepped => exact ⟨_, .none _, by simp, .failed stepped⟩
  | @empty _ _ next _ _ stepped nothing =>
    exact ⟨next, nothing ▸ .more stepped (.none next), by simp, .empty rfl⟩
  | @further allowed _ _ _ outcome _ lengths more stepped something _ ih =>
    obtain ⟨last, rounds, positive, ended⟩ := ih
    refine ⟨last, .more stepped rounds, ?_, ?_⟩
    · cases lengths with
      | nil => simp
      | cons length later =>
        rw [List.dropLast_cons_of_ne_nil (List.cons_ne_nil _ _)]
        exact List.forall_mem_cons.2 ⟨Nat.pos_of_ne_zero something, positive⟩
    · cases ended with
      | full reached =>
        obtain ⟨most, isMost, same⟩ := Option.map_eq_some_iff.1 reached
        have positive : most ≠ 0 := fun zero => more (by rw [isMost, zero])
        refine .full ?_
        rw [isMost, List.length_cons, ← same]
        congr 1
        omega
      | empty nothing =>
        refine .empty ?_
        rw [List.getLast?_cons, nothing]
        rfl
      | failed stopped => exact .failed stopped

/-- The step of a loop is not tried more often than there are runes left and once more. -/
theorem Loop.length_tried_le (accounting : Node.Accounting subject step)
    (loop : Loop step allowed state tried lengths final) (inside : state.offset ≤ subject.size) :
    tried.length ≤ subject.size - state.offset + 1 := by
  induction loop with
  | full | failed | empty => simp
  | further _ stepped something _ ih =>
    have accounts := accounting inside stepped
    have later := ih accounts.stop_le
    have moved := accounts.stop_eq
    have stopped := accounts.stop_le
    rw [List.length_cons]
    omega

/-- Repetitions are attempted with a bound on their rounds that no loop reaches before it ends. -/
theorem loop_repeated (accounting : Node.Accounting subject step) (bound : Nat)
    (enough : rounds (subject.size - state.offset) allowed ≤ bound)
    (few : ∀ most, allowed = some most → bound ≤ most) (inside : state.offset ≤ subject.size) :
    ∃ tried, Loop step allowed state tried (repeated step bound state).1 (repeated step bound state).2 := by
  induction bound generalizing state allowed with
  | zero =>
    have none : allowed = some 0 := by
      cases allowed with
      | none => simp [rounds] at enough
      | some most =>
        simp only [rounds] at enough
        congr 1
        omega
    subst none
    exact ⟨[], .full state⟩
  | succ bound ih =>
    have more : allowed ≠ some 0 := fun none => absurd (few 0 none) (by omega)
    cases stepped : step state with
    | mk result next =>
      cases result with
      | error mismatch =>
        simp only [repeated, stepped]
        exact ⟨[state], .failed more stepped⟩
      | ok outcome =>
        by_cases nothing : outcome.consumed = 0
        · simp only [repeated, stepped, if_pos nothing]
          exact ⟨[state], .empty more stepped nothing⟩
        · have accounts := accounting inside stepped
          have moved := accounts.stop_eq
          have stopped := accounts.stop_le
          have enough' : rounds (subject.size - next.offset) (allowed.map (· - 1)) ≤ bound := by
            cases allowed <;> simp only [rounds, Option.map_none, Option.map_some] at enough ⊢ <;> omega
          have few' : ∀ most, allowed.map (· - 1) = some most → bound ≤ most := by
            intro most isMost
            obtain ⟨more, isMore, rfl⟩ := Option.map_eq_some_iff.1 isMost
            have := few more isMore
            omega
          obtain ⟨tried, later⟩ := ih enough' few' stopped
          simp only [repeated, stepped, if_neg nothing]
          exact ⟨state :: tried, .further more stepped nothing later⟩

/-! ## Rounds in a row -/

/-- Of rounds from one state, the fewer are the first ones of the more. -/
theorem Rounds.prefix_of_le {others : List Nat} {otherLast : State}
    (rounds : Rounds step state lengths last) (more : Rounds step state others otherLast)
    (fewer : lengths.length ≤ others.length) : lengths <+: others := by
  induction rounds generalizing others with
  | none state => exact List.nil_prefix
  | more stepped _ ih =>
    cases more with
    | none => exact absurd fewer (by simp)
    | more stepped' later =>
      rw [stepped] at stepped'
      cases stepped'
      rw [List.cons_prefix_cons]
      exact ⟨rfl, ih later (Nat.le_of_succ_le_succ fewer)⟩

/-- Behind rounds that are fewer than others from the same state, the step succeeds once more. -/
theorem Rounds.succeeds_of_lt {others : List Nat} {otherLast : State}
    (rounds : Rounds step state lengths last) (more : Rounds step state others otherLast)
    (fewer : lengths.length < others.length) : ∃ outcome next, step last = ⟨.ok outcome, next⟩ := by
  induction rounds generalizing others with
  | none state =>
    cases more with
    | none => exact absurd fewer (Nat.lt_irrefl 0)
    | more stepped => exact ⟨_, _, stepped⟩
  | more stepped _ ih =>
    cases more with
    | none => exact absurd fewer (by simp)
    | more stepped' later =>
      rw [stepped] at stepped'
      cases stepped'
      exact ih later (Nat.lt_of_succ_lt_succ fewer)

end Attempt

namespace Node

open Attempt

variable {subject : Array Char} {node : Node} {min : Nat} {max : Option Nat} {start final : State}
  {tried : List State} {lengths : List Nat}

/-- A repetition loops. -/
theorem exists_loop (subject : Array Char) (node : Node) (max : Option Nat)
    (inside : start.offset ≤ subject.size) :
    ∃ tried, Loop (node.attempt subject) max start tried
      (repeated (node.attempt subject) (rounds (subject.size - start.offset) max) start).1
      (repeated (node.attempt subject) (rounds (subject.size - start.offset) max) start).2 :=
  loop_repeated (accounts_of_attemptWith node) _ (Nat.le_refl _) (fun _ => rounds_le _) inside

/-- An attempt of a repetition fails when its loop takes fewer rounds than the minimum, and otherwise
succeeds with them. -/
theorem attempt_repetition_of_loop (loop : Loop (node.attempt subject) max start tried lengths final)
    (inside : start.offset ≤ subject.size) :
    (repetition node min max).attempt subject start =
      if lengths.length < min then ⟨.error .tooFewRepetitions, final.at start.offset⟩
      else ⟨.ok ⟨lengths.sum, lengths, lengths.length - min⟩, final⟩ := by
  have repeats : repeated (node.attempt subject) (rounds (subject.size - start.offset) max) start =
      (lengths, final) := by
    obtain ⟨_, other⟩ := exists_loop subject node max inside
    obtain ⟨-, isLengths, isFinal⟩ := loop.unique other
    rw [isLengths, isFinal]
  rw [attempt, attemptWith]
  change restoring .offset start (Attempt.repetition subject (node.attempt subject) min max start) = _
  rw [Attempt.repetition, repeats, ← totalLength_eq_sum]
  by_cases few : lengths.length < min
  · simp only [if_pos few]
    rfl
  · simp only [if_neg few]
    rfl

/-- The step of a repetition is tried at most as often as there are runes left, and once more; then the
loop has ended, and the attempt is what it came to. The rounds of a repetition that succeeds are attempts
of its node, each from the offset and with the captured texts that the one before it left. Each but the
last consumes something, all beyond the minimum may be given back, and there is a reason for which there
are no more. -/
theorem attempt_repetition_loops (subject : Array Char) (node : Node) (min : Nat) (max : Option Nat)
    (start : State) (inside : start.offset ≤ subject.size) :
    (∃ tried lengths final, Loop (node.attempt subject) max start tried lengths final) ∧
    (∀ tried lengths final, Loop (node.attempt subject) max start tried lengths final →
      tried.length ≤ subject.size - start.offset + 1 ∧
      (repetition node min max).attempt subject start =
        if lengths.length < min then ⟨.error .tooFewRepetitions, final.at start.offset⟩
        else ⟨.ok ⟨lengths.sum, lengths, lengths.length - min⟩, final⟩) ∧
    ∀ outcome final, (repetition node min max).attempt subject start = ⟨.ok outcome, final⟩ →
      ∃ last, Rounds (node.attempt subject) start outcome.repetitions last ∧
        last.offset = start.offset + outcome.repetitions.sum ∧
        (∀ length ∈ outcome.repetitions.dropLast, 0 < length) ∧
        min ≤ outcome.repetitions.length ∧
        outcome.giveback = outcome.repetitions.length - min ∧
        Ended (node.attempt subject) max outcome.repetitions last final := by
  obtain ⟨tried, loop⟩ := exists_loop subject node max inside
  refine ⟨⟨tried, _, _, loop⟩, fun tried lengths final loop => ?_, fun outcome final found => ?_⟩
  · exact ⟨loop.length_tried_le (accounts_of_attemptWith node) inside,
      attempt_repetition_of_loop loop inside⟩
  · rw [attempt_repetition_of_loop loop inside] at found
    split at found
    · cases found
    · rename_i enough
      cases found
      obtain ⟨last, rounds, positive, ended⟩ := loop.ended
      have reached := (offset_of_rounds (accounts_of_attemptWith node) rounds inside).1
      rw [totalLength_eq_sum] at reached
      exact ⟨last, rounds, reached, positive, Nat.le_of_not_lt enough, rfl, ended⟩

/-- At the start of `aab` the group `(a?)` is repeated three times. The third round consumes nothing and
is the last one, and two rounds may be given back. -/
theorem attempt_repetition_loops_until_empty :
    let node : Node := .group 1 [optional (.literal 'a')]
    let subject := "aab".toList.toArray
    (∃ final, (repetition node 1 none).attempt subject ⟨0, .empty⟩ = ⟨.ok ⟨2, [1, 1, 0], 2⟩, final⟩ ∧
      final.captures.get? 1 = some [] ∧
      ∃ last, Rounds (node.attempt subject) ⟨0, .empty⟩ [1, 1, 0] last ∧
        Ended (node.attempt subject) none [1, 1, 0] last final) ∧
    ∃ tried lengths final, Loop (node.attempt subject) none ⟨0, .empty⟩ tried lengths final ∧
      tried.length ≤ 4 := by
  intro node subject
  obtain ⟨⟨tried, lengths, final, loop⟩, few, rounds⟩ :=
    attempt_repetition_loops subject node 1 none ⟨0, .empty⟩ (Nat.zero_le _)
  have found : (repetition node 1 none).attempt subject ⟨0, .empty⟩ =
      ⟨.ok ⟨2, [1, 1, 0], 2⟩, ⟨2, Captures.empty.record 1 []⟩⟩ := by rfl
  obtain ⟨last, made, -, -, -, -, ended⟩ := rounds _ _ found
  exact ⟨⟨_, found, rfl, last, made, ended⟩, tried, lengths, final, loop, (few _ _ _ loop).1⟩

/-! ## The minimum -/

/-- A repetition fails for want of rounds, and is back where it began. -/
def LacksRounds (subject : Array Char) (node : Node) (min : Nat) (max : Option Nat) (start : State) :
    Prop :=
  ∃ final, (repetition node min max).attempt subject start = ⟨.error .tooFewRepetitions, final⟩ ∧
    final.offset = start.offset

/-- A repetition whose loop ends below the minimum lacks rounds. -/
theorem lacksRounds_of_loop (loop : Loop (node.attempt subject) max start tried lengths final)
    (inside : start.offset ≤ subject.size) (few : lengths.length < min) :
    LacksRounds subject node min max start :=
  ⟨_, by rw [attempt_repetition_of_loop loop inside, if_pos few], State.at_offset _ _⟩

variable {row : List Nat} {last : State}

/-- A repetition succeeds when its node can be attempted in a row as often as the minimum says, and none
of these attempts but the last one consumes nothing. -/
theorem exists_attempt_repetition (allowed : ∀ most, max = some most → min ≤ most)
    (inside : start.offset ≤ subject.size) (rounds : Rounds (node.attempt subject) start row last)
    (enough : row.length = min) (positive : 0 ∉ row.dropLast) :
    ∃ outcome final, (repetition node min max).attempt subject start = ⟨.ok outcome, final⟩ := by
  obtain ⟨_, loop⟩ := exists_loop subject node max inside
  generalize (repeated _ _ start).1 = lengths, (repeated _ _ start).2 = final at loop
  suffices reached : ¬ lengths.length < min from
    ⟨_, _, by rw [attempt_repetition_of_loop loop inside, if_neg reached]⟩
  intro few
  rw [← enough] at few
  -- the loop ended early, but there is no reason for it
  obtain ⟨stopped, made, -, ended⟩ := loop.ended
  obtain ⟨outcome, next, stepped⟩ := made.succeeds_of_lt rounds few
  cases ended with
  | full reached =>
    have := allowed _ reached
    omega
  | empty nothing =>
    have earlier : lengths <+: row.dropLast := by
      rw [List.dropLast_eq_take, List.prefix_take_iff]
      exact ⟨made.prefix_of_le rounds (Nat.le_of_lt few), Nat.le_sub_one_of_lt few⟩
    exact positive (earlier.subset (List.mem_of_getLast? nothing))
  | failed failed =>
    rw [stepped] at failed
    cases failed

/-- It lacks rounds when its node fails before that. -/
theorem lacksRounds_of_error {mismatch : Mismatch} {failed : State} (inside : start.offset ≤ subject.size)
    (rounds : Rounds (node.attempt subject) start row last) (few : row.length < min)
    (stopped : node.attempt subject last = ⟨.error mismatch, failed⟩) :
    LacksRounds subject node min max start := by
  obtain ⟨_, loop⟩ := exists_loop subject node max inside
  refine lacksRounds_of_loop loop inside (Nat.lt_of_not_le fun enough => ?_)
  obtain ⟨_, made, -, -⟩ := loop.ended
  obtain ⟨outcome, next, stepped⟩ := rounds.succeeds_of_lt made (Nat.lt_of_lt_of_le few enough)
  rw [stepped] at stopped
  cases stopped

/-- It also lacks rounds when one of these attempts but the last one consumes nothing: it is the last
round of the loop. -/
theorem lacksRounds_of_empty (inside : start.offset ≤ subject.size)
    (rounds : Rounds (node.attempt subject) start row last) (enough : row.length = min)
    (empty : 0 ∈ row.dropLast) : LacksRounds subject node min max start := by
  obtain ⟨_, loop⟩ := exists_loop subject node max inside
  generalize (repeated _ _ start).1 = lengths, (repeated _ _ start).2 = final at loop
  refine lacksRounds_of_loop loop inside (Nat.lt_of_not_le fun reached => ?_)
  rw [← enough] at reached
  obtain ⟨_, made, positive, -⟩ := loop.ended
  have earlier : row.dropLast <+: lengths.dropLast := by
    rw [List.dropLast_eq_take (l := lengths), List.prefix_take_iff, List.length_dropLast]
    exact ⟨row.dropLast_prefix.trans (rounds.prefix_of_le made reached), Nat.sub_le_sub_right reached 1⟩
  exact absurd (positive 0 (earlier.subset empty)) (Nat.lt_irrefl 0)

/-- Let a node be attempted in a row, each time from where the attempt before it left off, as often as the
minimum of a repetition says. Where one of these attempts fails, so does the repetition, and it is back
where it began. Where all of them succeed and none but the last one consumes nothing, the repetition
succeeds. It fails where another one of them consumes nothing, although its node matches often enough. -/
theorem attempt_repetition_of_rounds (subject : Array Char) (node : Node) (min : Nat) (max : Option Nat)
    (start : State) (inside : start.offset ≤ subject.size)
    (allowed : ∀ most, max = some most → min ≤ most) :
    (∀ row last, Rounds (node.attempt subject) start row last → row.length = min →
      (0 ∉ row.dropLast → ∃ outcome final,
        (repetition node min max).attempt subject start = ⟨.ok outcome, final⟩) ∧
      (0 ∈ row.dropLast → LacksRounds subject node min max start)) ∧
    ∀ row last mismatch failed, Rounds (node.attempt subject) start row last → row.length < min →
      node.attempt subject last = ⟨.error mismatch, failed⟩ → LacksRounds subject node min max start :=
  ⟨fun _ _ rounds enough => ⟨exists_attempt_repetition allowed inside rounds enough,
    lacksRounds_of_empty inside rounds enough⟩,
    fun _ _ _ _ rounds few stopped => lacksRounds_of_error inside rounds few stopped⟩

/-- Two rounds of `x?` are enough at the start of `x`, though the second one consumes nothing. At the
start of `xy` two rounds of `x` are not to be had. At the start of an empty subject the second round of
`x?` is never taken. -/
theorem attempt_repetition_of_one_or_no_rune :
    (∃ last outcome final,
      Rounds ((optional (.literal 'x')).attempt #['x']) ⟨0, .empty⟩ [1, 0] last ∧
      (repetition (optional (.literal 'x')) 2 none).attempt #['x'] ⟨0, .empty⟩ = ⟨.ok outcome, final⟩) ∧
    LacksRounds #['x', 'y'] (.literal 'x') 2 (some 3) ⟨0, .empty⟩ ∧
    LacksRounds #[] (optional (.literal 'x')) 2 (some 2) ⟨0, .empty⟩ := by
  have honoured := fun subject node min max =>
    attempt_repetition_of_rounds subject node min max ⟨0, .empty⟩ (Nat.zero_le _)
  refine ⟨?enough, ?failed, ?empty⟩
  case enough =>
    have first : (optional (.literal 'x')).attempt #['x'] ⟨0, .empty⟩ =
        ⟨.ok ⟨1, [1], 1⟩, ⟨1, .empty⟩⟩ := rfl
    have second : (optional (.literal 'x')).attempt #['x'] ⟨1, .empty⟩ =
        ⟨.ok ⟨0, [], 0⟩, ⟨1, .empty⟩⟩ := rfl
    have rounds := Rounds.more first (.more second (.none _))
    obtain ⟨outcome, final, found⟩ := ((honoured _ _ 2 none (by simp)).1 _ _ rounds rfl).1 (by decide)
    exact ⟨_, outcome, final, rounds, found⟩
  case failed =>
    have first : (literal 'x').attempt #['x', 'y'] ⟨0, .empty⟩ = ⟨.ok (.consuming 1), ⟨1, .empty⟩⟩ := rfl
    have second : (literal 'x').attempt #['x', 'y'] ⟨1, .empty⟩ = ⟨.error .noMatch, ⟨1, .empty⟩⟩ := rfl
    exact (honoured _ _ 2 (some 3) (by simp)).2 _ _ _ _ (.more first (.none _)) (by decide) second
  case empty =>
    have round : (optional (.literal 'x')).attempt #[] ⟨0, .empty⟩ = ⟨.ok ⟨0, [], 0⟩, ⟨0, .empty⟩⟩ := rfl
    have rounds := Rounds.more round (.more round (.none _))
    exact ((honoured _ _ 2 (some 2) (by simp)).1 _ _ rounds rfl).2 (by decide)

/-- At the start of an empty subject `x?` matches twice in a row. Its repetition, at least and at most
twice, fails there for want of rounds. -/
theorem attempt_repetition_of_empty_rounds :
    Rounds ((optional (.literal 'x')).attempt #[]) ⟨0, .empty⟩ [0, 0] ⟨0, .empty⟩ ∧
      (repetition (optional (.literal 'x')) 2 (some 2)).attempt #[] ⟨0, .empty⟩ =
        ⟨.error .tooFewRepetitions, ⟨0, .empty⟩⟩ := by
  have round : (optional (.literal 'x')).attempt #[] ⟨0, .empty⟩ = ⟨.ok ⟨0, [], 0⟩, ⟨0, .empty⟩⟩ := rfl
  exact ⟨.more round (.more round (.none _)), rfl⟩

end Node
end PatternSearch
