import PatternSearch.Proofs.Alternatives
import PatternSearch.Proofs.Widths

/-!
# Patterns that are texts

A text is a pattern for itself: with its metacharacters escaped, or as it stands if none of its runes is an
operator, it is compiled to its literals one after another (`rowSpelledBy_escaped`,
`rowSpelledBy_verbatim`). Such a tree has a span exactly where the text stands (`allSpan_literals`), so a
search finds the first occurrence of the text.

Between `^` and `$` the first and the last literal are anchored; they may be the same one, and without any
literal the empty sequence is anchored on both sides. Then the pattern occurs in the text alone.
-/
namespace PatternSearch

namespace Pattern

/-- A text with a backslash before each of its metacharacters. -/
def escaped (wanted : Text) : Text :=
  wanted.flatMap fun rune => if rune ∈ metacharacters then ['\\', rune] else [rune]

end Pattern

namespace Node

/-! ## Rows between anchors -/

/-- The elements behind a `^`: the first one is anchored, or the empty sequence if there is none. -/
def anchorFirst : List Node → List Node
  | [] => [.startAnchor (.sequence [])]
  | node :: rest => .startAnchor node :: rest

/-- The elements in front of a `$`: the last one is anchored. -/
def anchorLast : List Node → List Node
  | [] => []
  | [node] => [.endAnchor node]
  | node :: next :: rest => node :: anchorLast (next :: rest)

/-- There is an element behind every `^`. -/
theorem anchorFirst_ne_nil (nodes : List Node) : anchorFirst nodes ≠ [] := by
  cases nodes <;> exact List.cons_ne_nil _ _

/-- An element in front of a `$` is an element of the row, or one that is anchored. -/
theorem mem_anchorLast {node : Node} :
    {nodes : List Node} → node ∈ anchorLast nodes →
      node ∈ nodes ∨ ∃ last ∈ nodes, node = .endAnchor last
  | [own], member => by
    rw [anchorLast, List.mem_singleton] at member
    exact .inr ⟨own, List.mem_singleton_self own, member⟩
  | own :: next :: rest, member => by
    rw [anchorLast, List.mem_cons] at member
    rcases member with same | later
    · rw [same]
      exact .inl List.mem_cons_self
    · rcases mem_anchorLast later with inside | ⟨last, inside, same⟩
      · exact .inl (List.mem_cons_of_mem _ inside)
      · exact .inr ⟨last, List.mem_cons_of_mem _ inside, same⟩

/-- Elements without anchors may stand one after another. -/
theorem row_of_operands {nodes : List Node} (operands : ∀ node ∈ nodes, Operand node) :
    Row (.sequence nodes) := by
  cases nodes with
  | nil => exact .empty
  | cons node rest =>
    have first : Operand node := operands node List.mem_cons_self
    apply Row.cons (.operand first)
    · intro bare
      rw [bare] at first
      cases first
    · intro other member
      exact .operand (operands other (List.mem_cons_of_mem _ member))

/-- They may also stand behind a `^`. -/
theorem row_anchorFirst {nodes : List Node} (operands : ∀ node ∈ nodes, Operand node) :
    Row (.sequence (anchorFirst nodes)) := by
  cases nodes with
  | nil => exact .cons .bareStartAnchor (fun _ => rfl) (fun _ none => absurd none List.not_mem_nil)
  | cons node rest =>
    have first : Operand node := operands node List.mem_cons_self
    apply Row.cons (.startAnchor first)
    · intro bare
      cases bare
      cases first
    · intro other member
      exact .operand (operands other (List.mem_cons_of_mem _ member))

/-- A row may stand in front of a `$` unless it is empty. -/
theorem row_anchorLast {nodes : List Node} (row : Row (.sequence nodes)) (nonempty : nodes ≠ []) :
    Row (.sequence (anchorLast nodes)) := by
  cases row with
  | empty => exact absurd rfl nonempty
  | @cons head rest first last later =>
    cases rest with
    | nil =>
      exact .cons (.endAnchor first) (fun bare => nomatch bare) (fun _ none => absurd none List.not_mem_nil)
    | cons next rest =>
      apply Row.cons first
      · intro bare
        cases last bare
      · intro node member
        rcases mem_anchorLast member with inside | ⟨ended, inside, same⟩
        · exact later node inside
        · rw [same]
          exact .endAnchor (later ended inside)

/-- A `^` in front of a row anchors its first element. -/
theorem rowSpelledBy_anchorFirst {nodes : List Node} {text : Text}
    (spelled : RowSpelledBy nodes text) : RowSpelledBy (anchorFirst nodes) ('^' :: text) := by
  cases nodes with
  | nil =>
    rw [show text = [] from spelled]
    exact ⟨['^'], [], ⟨[], rfl, rfl⟩, rfl, rfl⟩
  | cons node rest =>
    obtain ⟨first, later, here, behind, same⟩ := spelled
    rw [same]
    exact ⟨'^' :: first, later, ⟨first, here, rfl⟩, behind, rfl⟩

/-- A `$` behind a row anchors its last element. -/
theorem rowSpelledBy_anchorLast :
    {nodes : List Node} → nodes ≠ [] → ∀ {text : Text}, RowSpelledBy nodes text →
      RowSpelledBy (anchorLast nodes) (text ++ ['$'])
  | [], nonempty, _, _ => absurd rfl nonempty
  | [node], _, text, spelled => by
    rw [rowSpelledBy_singleton] at spelled
    rw [anchorLast, rowSpelledBy_singleton]
    exact ⟨text, spelled, rfl⟩
  | node :: next :: rest, _, text, spelled => by
    obtain ⟨first, later, here, behind, same⟩ := spelled
    have ended := rowSpelledBy_anchorLast (List.cons_ne_nil next rest) behind
    rw [same, List.append_assoc]
    exact ⟨first, later ++ ['$'], here, ended, rfl⟩

variable {subject : Array Char} {start stop : Nat}

/-- A row behind a `^` spans what the row spans from the start of the subject. -/
theorem allSpan_anchorFirst {nodes : List Node} :
    AllSpan subject (anchorFirst nodes) start stop ↔ start = 0 ∧ AllSpan subject nodes start stop := by
  cases nodes with
  | nil =>
    constructor
    · intro ⟨middle, ⟨first, empty⟩, ended⟩
      exact ⟨first, Eq.trans empty ended⟩
    · intro ⟨first, empty⟩
      exact ⟨start, ⟨first, rfl⟩, empty⟩
  | cons node rest =>
    constructor
    · intro ⟨middle, ⟨first, here⟩, behind⟩
      exact ⟨first, middle, here, behind⟩
    · intro ⟨first, middle, here, behind⟩
      exact ⟨middle, ⟨first, here⟩, behind⟩

/-- A row in front of a `$` spans what the row spans up to the end of the subject. -/
theorem allSpan_anchorLast :
    {nodes : List Node} → nodes ≠ [] → ∀ {start : Nat},
      (AllSpan subject (anchorLast nodes) start stop ↔
        AllSpan subject nodes start stop ∧ stop = subject.size)
  | [], nonempty, _ => absurd rfl nonempty
  | [node], _, start => by
    constructor
    · intro ⟨middle, ⟨here, last⟩, same⟩
      have same : middle = stop := same
      rw [same] at here last
      exact ⟨⟨stop, here, rfl⟩, last⟩
    · intro ⟨⟨middle, here, same⟩, last⟩
      have same : middle = stop := same
      rw [same] at here
      exact ⟨stop, ⟨here, last⟩, rfl⟩
  | node :: next :: rest, _, start => by
    have further := @allSpan_anchorLast (next :: rest) (List.cons_ne_nil next rest)
    constructor
    · intro ⟨middle, here, behind⟩
      have ⟨others, last⟩ := further.1 behind
      exact ⟨⟨middle, here, others⟩, last⟩
    · intro ⟨⟨middle, here, others⟩, last⟩
      exact ⟨middle, here, further.2 ⟨others, last⟩⟩

/-! ## Literals -/

/-- Literals may stand as elements. -/
theorem operand_of_mem_literals {wanted : Text} {node : Node} (member : node ∈ wanted.map literal) :
    Operand node := by
  obtain ⟨rune, _, same⟩ := List.mem_map.1 member
  rw [← same]
  exact .literal rune

/-- A text without operators writes its literals. -/
theorem rowSpelledBy_verbatim {wanted : Text} (plain : ∀ rune ∈ wanted, rune ∉ operators) :
    RowSpelledBy (wanted.map literal) wanted := by
  induction wanted with
  | nil => rfl
  | cons rune rest ih =>
    have others := ih fun other member => plain other (List.mem_cons_of_mem _ member)
    exact ⟨[rune], rest, .inl ⟨plain rune List.mem_cons_self, rfl⟩, others, rfl⟩

/-- An operator is a metacharacter. -/
theorem mem_metacharacters_of_mem_operators {rune : Char} (member : rune ∈ operators) :
    rune ∈ metacharacters := by
  have all : operators.all metacharacters.contains = true := by decide
  exact List.contains_iff_mem.1 (List.all_eq_true.1 all rune member)

/-- Every text with its metacharacters escaped writes its literals. -/
theorem rowSpelledBy_escaped (wanted : Text) :
    RowSpelledBy (wanted.map literal) (Pattern.escaped wanted) := by
  induction wanted with
  | nil => rfl
  | cons rune rest ih =>
    refine ⟨_, Pattern.escaped rest, ?_, ih, List.flatMap_cons⟩
    by_cases escapes : rune ∈ metacharacters
    · rw [if_pos escapes]
      exact .inr ⟨escapes, rfl⟩
    · rw [if_neg escapes]
      exact .inl ⟨fun operator => escapes (mem_metacharacters_of_mem_operators operator), rfl⟩

/-- Literals span exactly where their text stands. -/
theorem allSpan_literals {wanted subject : Text} {start stop : Nat} :
    AllSpan subject.toArray (wanted.map literal) start stop ↔
      wanted <+: subject.drop start ∧ stop = start + wanted.length := by
  induction wanted generalizing start with
  | nil =>
    constructor
    · intro same
      exact ⟨List.nil_prefix, same.symm⟩
    · intro ⟨_, same⟩
      exact same.symm
  | cons rune rest ih =>
    have present : subject.toArray[start]? = (subject.drop start).head? := by
      rw [List.getElem?_toArray, List.head?_drop]
    constructor
    · intro ⟨middle, ⟨next, found, isFound, accepted⟩, behind⟩
      rw [next] at behind
      have ⟨later, ended⟩ := ih.1 behind
      rw [present] at isFound
      have same : found = rune := eq_of_beq accepted
      rw [← List.tail_drop] at later
      cases left : subject.drop start with
      | nil =>
        rw [left] at isFound
        cases isFound
      | cons first others =>
        rw [left] at isFound later
        cases isFound
        refine ⟨List.cons_prefix_cons.2 ⟨same.symm, later⟩, ?_⟩
        rw [ended, List.length_cons]
        omega
    · intro ⟨stands, ended⟩
      obtain ⟨behind, same⟩ := stands
      refine ⟨start + 1, ⟨rfl, rune, ?_, beq_self_eq_true rune⟩, ih.2 ⟨⟨behind, ?_⟩, ?_⟩⟩
      · rw [present, ← same]
        rfl
      · rw [← List.tail_drop, ← same]
        rfl
      · rw [ended, List.length_cons]
        omega

/-! ## Trees of runes and anchors -/

/-- Whether a node is a literal, an anchor or a sequence. -/
def isPlain : Node → Bool
  | .literal _ | .startAnchor _ | .endAnchor _ | .sequence _ => true
  | _ => false

/-- The tree has only literals, anchors and sequences. -/
def Plain (node : Node) : Prop := ∀ part ∈ node.parts, part.isPlain = true

/-- A literal is plain. -/
theorem plain_literal (rune : Char) : (literal rune).Plain := by
  intro part member
  rw [List.mem_singleton.1 member]
  rfl

/-- A start anchor around a plain tree is plain. -/
theorem Plain.startAnchor {node : Node} (plain : node.Plain) : (startAnchor node).Plain := by
  intro part member
  rw [parts_startAnchor] at member
  rcases List.mem_cons.1 member with rfl | inside
  · rfl
  · exact plain part inside

/-- An end anchor around a plain tree is plain. -/
theorem Plain.endAnchor {node : Node} (plain : node.Plain) : (endAnchor node).Plain := by
  intro part member
  rw [parts_endAnchor] at member
  rcases List.mem_cons.1 member with rfl | inside
  · rfl
  · exact plain part inside

/-- A sequence of plain trees is plain. -/
theorem plain_sequence {nodes : List Node} (each : ∀ node ∈ nodes, node.Plain) :
    (sequence nodes).Plain := by
  intro part member
  rw [parts_sequence] at member
  rcases List.mem_cons.1 member with rfl | inside
  · rfl
  · have ⟨node, isElement, deep⟩ := List.mem_flatMap.1 inside
    exact each node isElement part deep

/-- Literals one after another are plain. -/
theorem plain_literals (wanted : Text) : (sequence (wanted.map literal)).Plain := by
  apply plain_sequence
  intro node member
  obtain ⟨rune, _, same⟩ := List.mem_map.1 member
  rw [← same]
  exact plain_literal rune

/-- So are literals between anchors. -/
theorem plain_anchored (wanted : Text) :
    (sequence (anchorLast (anchorFirst (wanted.map literal)))).Plain := by
  have first : ∀ node ∈ anchorFirst (wanted.map literal), node.Plain := by
    intro node member
    cases wanted with
    | nil =>
      rw [List.mem_singleton.1 member]
      exact (plain_literals []).startAnchor
    | cons rune rest =>
      rcases List.mem_cons.1 member with same | inside
      · rw [same]
        exact (plain_literal rune).startAnchor
      · obtain ⟨other, _, same⟩ := List.mem_map.1 inside
        rw [← same]
        exact plain_literal other
  apply plain_sequence
  intro node member
  rcases mem_anchorLast member with inside | ⟨last, inside, same⟩
  · exact first node inside
  · rw [same]
    exact (first last inside).endAnchor

namespace Plain

variable {tree : Node}

/-- Nothing is repeated in a plain tree. -/
theorem quantifierFree (plain : tree.Plain) : tree.QuantifierFree :=
  fun node min max member => nomatch plain (.repetition node min max) member

/-- Nothing in a plain tree is a backreference. -/
theorem backreferenceFree (plain : tree.Plain) : tree.BackreferenceFree :=
  fun index member => nomatch plain (.backreference index) member

/-- A plain tree has no groups, so their branches are equally wide. -/
theorem equalWidths (plain : tree.Plain) : tree.EqualWidths :=
  fun index branches member => nomatch plain (.group index branches) member

/-- A plain tree has no groups. -/
theorem indices_eq_nil (plain : tree.Plain) : tree.indices = [] := by
  apply List.filterMap_eq_nil_iff.2
  intro part member
  have kind := plain part member
  cases part with
  | group index branches => cases kind
  | _ => rfl

end Plain
end Node

namespace Pattern

open Node

variable {source subject wanted : Text} {pattern : Pattern}

/-! ## Searches -/

/-- A row without groups is compiled by each of its spellings. -/
theorem compile_of_row {nodes : List Node} (row : Row (.sequence nodes))
    (spelled : RowSpelledBy nodes source) (ungrouped : (sequence nodes).indices = []) :
    compile source = .ok ⟨source, .sequence nodes, 0⟩ := by
  have numbered : [sequence nodes].flatMap indices = List.range' 1 0 := by
    rw [List.flatMap_singleton, ungrouped]
    rfl
  have each : ∀ branch ∈ [sequence nodes], Row branch := by
    intro branch member
    rw [List.mem_singleton.1 member]
    exact row
  exact compile_of_written_sequence ⟨List.cons_ne_nil _ _, each, spelled, numbered⟩

/-- The match that a search for a plain tree finds is a span of the tree, and captures nothing. -/
theorem spans_of_find (plain : pattern.root.Plain) {found : Match}
    (isFound : pattern.find subject = some found) :
    pattern.root.Spans subject.toArray found.start found.stop ∧ found.captures = .empty ∧
      found.text = subject.extract found.start found.stop := by
  have ⟨inside, here, _⟩ := findWith_eq_some.1 isFound
  rw [← List.size_toArray] at inside
  have ⟨outcome, final, matched, same⟩ := (matchAt?_eq_some inside).1 here
  have spanned : pattern.root.Spans subject.toArray found.start final.offset :=
    spanning_of_attemptWith pattern.root plain.backreferenceFree inside matched _ (.inl rfl)
  have kept : final.captures = .empty := by
    have unchanged := @captures_of_attemptWith .offset subject.toArray pattern.root
      ⟨found.start, .empty⟩ plain.indices_eq_nil inside
    rwa [matched] at unchanged
  have stopped : found.stop = final.offset := by rw [same]
  have captured : found.captures = final.captures := by rw [same]
  have text : found.text = (subject.toArray.extract found.start final.offset).toList := by rw [same]
  refine ⟨?_, captured.trans kept, ?_⟩
  · rw [stopped]
    exact spanned
  · rw [text, stopped, Array.toList_extract]

/-- What a pattern for a text does: it is the literals of the text and finds the first occurrence. -/
structure SearchesFor (pattern : Pattern) (wanted : Text) : Prop where
  /-- The tree is the literals of the text, one after another. -/
  root_eq : pattern.root = .sequence (wanted.map .literal)
  /-- There are no groups. -/
  groupCount_eq : pattern.groupCount = 0
  /-- Nothing is found exactly when the text does not occur in the subject. -/
  none_iff : ∀ subject, pattern.find subject = none ↔ ¬ wanted <:+: subject
  /-- What is found begins at the first occurrence. -/
  first : ∀ subject found, pattern.find subject = some found →
    IsLeast {start | start ≤ subject.length ∧ wanted <+: subject.drop start} found.start
  /-- It is as long as the text. -/
  stop_eq : ∀ subject found, pattern.find subject = some found →
    found.stop = found.start + wanted.length
  /-- It is the text. -/
  text_eq : ∀ subject found, pattern.find subject = some found → found.text = wanted
  /-- It captures nothing. -/
  captures_eq : ∀ subject found, pattern.find subject = some found → found.captures = .empty

/-- A text occurs in a subject when it stands at some offset. -/
theorem isInfix_iff_exists_drop :
    wanted <:+: subject ↔ ∃ start, start ≤ subject.length ∧ wanted <+: subject.drop start := by
  constructor
  · intro ⟨before, behind, same⟩
    refine ⟨before.length, ?_, behind, ?_⟩
    · rw [← same, List.length_append, List.length_append]
      omega
    · rw [← same, List.append_assoc, List.drop_left]
  · intro ⟨start, _, stands⟩
    exact stands.isInfix.trans (List.drop_suffix start subject).isInfix

/-- A pattern that is the literals of a text matches exactly where the text stands. -/
theorem matchesAt_iff_of_literals (compiled : compile source = .ok pattern)
    (root : pattern.root = .sequence (wanted.map literal)) {start : Nat} :
    pattern.MatchesAt subject start ↔ start ≤ subject.length ∧ wanted <+: subject.drop start := by
  have plain : pattern.root.Plain := root ▸ plain_literals wanted
  rw [matchesAt_iff_exists_span compiled plain.quantifierFree plain.backreferenceFree plain.equalWidths,
    root]
  constructor
  · intro ⟨stop, ordered, inside, spanned⟩
    have ⟨stands, _⟩ := allSpan_literals.1 spanned
    exact ⟨by omega, stands⟩
  · intro ⟨inside, stands⟩
    have short := stands.length_le
    rw [List.length_drop] at short
    exact ⟨start + wanted.length, by omega, by omega, allSpan_literals.2 ⟨stands, rfl⟩⟩

/-- A pattern that is the literals of a text searches for the text. -/
theorem searchesFor_of_literals (compiled : compile source = .ok pattern)
    (root : pattern.root = .sequence (wanted.map literal)) (count : pattern.groupCount = 0) :
    pattern.SearchesFor wanted := by
  have plain : pattern.root.Plain := root ▸ plain_literals wanted
  have places : ∀ subject start, pattern.MatchesAt subject start ↔
      start ≤ subject.length ∧ wanted <+: subject.drop start :=
    fun _ _ => matchesAt_iff_of_literals compiled root
  have spanned : ∀ subject found, pattern.find subject = some found →
      wanted <+: subject.drop found.start ∧ found.stop = found.start + wanted.length := by
    intro subject found isFound
    have ⟨spans, _, _⟩ := spans_of_find plain isFound
    rw [root] at spans
    exact allSpan_literals.1 spans
  constructor
  case root_eq => exact root
  case groupCount_eq => exact count
  case none_iff =>
    intro subject
    rw [isInfix_iff_exists_drop, ← exists_congr (places subject), ← find_isSome_iff_matchesAt,
      Option.not_isSome_iff_eq_none]
  case first =>
    intro subject found isFound
    have least := isLeast_of_find isFound
    rwa [show {start | pattern.MatchesAt subject start} =
      {start | start ≤ subject.length ∧ wanted <+: subject.drop start} from
      Set.ext (places subject)] at least
  case stop_eq => exact fun subject found isFound => (spanned subject found isFound).2
  case text_eq =>
    intro subject found isFound
    have ⟨_, _, text⟩ := spans_of_find plain isFound
    have ⟨stands, stopped⟩ := spanned subject found isFound
    rw [text, stopped, List.extract_eq_take_drop, Nat.add_sub_cancel_left]
    exact (List.prefix_iff_eq_take.1 stands).symm
  case captures_eq =>
    intro subject found isFound
    have ⟨_, nothing, _⟩ := spans_of_find plain isFound
    exact nothing

/-- Literals between anchors match only the whole subject, and only if it is their text. -/
theorem occursIn_iff_of_anchored (compiled : compile source = .ok pattern)
    (root : pattern.root = .sequence (anchorLast (anchorFirst (wanted.map literal)))) :
    pattern.occursIn subject = true ↔ subject = wanted := by
  have plain : pattern.root.Plain := root ▸ plain_anchored wanted
  have spans : ∀ start stop, pattern.root.Spans subject.toArray start stop ↔
      (start = 0 ∧ wanted <+: subject.drop start ∧ stop = start + wanted.length) ∧
        stop = subject.length := by
    intro start stop
    rw [root, Spans, allSpan_anchorLast (anchorFirst_ne_nil _), allSpan_anchorFirst, allSpan_literals,
      List.size_toArray]
  unfold occursIn
  rw [find_isSome_iff_matchesAt]
  constructor
  · intro ⟨start, matched⟩
    have ⟨stop, _, _, spanned⟩ := (matchesAt_iff_exists_span compiled plain.quantifierFree
      plain.backreferenceFree plain.equalWidths).1 matched
    have ⟨⟨first, stands, stopped⟩, last⟩ := (spans start stop).1 spanned
    rw [first, List.drop_zero] at stands
    have long : wanted.length = subject.length := by omega
    exact (stands.eq_of_length long).symm
  · intro same
    refine ⟨0, (matchesAt_iff_exists_span compiled plain.quantifierFree plain.backreferenceFree
      plain.equalWidths).2 ⟨subject.length, Nat.zero_le _, Nat.le_refl _, (spans _ _).2 ?_⟩⟩
    rw [same, List.drop_zero, Nat.zero_add]
    exact ⟨⟨rfl, List.prefix_rfl, rfl⟩, rfl⟩

/-- A text with its metacharacters escaped, or without operators as it stands, is compiled to its literals
and finds its first occurrence in every subject. Between `^` and `$` it occurs in itself alone. -/
theorem compile_searchesFor (wanted source : Text)
    (writes : source = escaped wanted ∨ source = wanted ∧ ∀ rune ∈ wanted, rune ∉ operators) :
    (∃ pattern, compile source = .ok pattern ∧ pattern.SearchesFor wanted) ∧
      ∃ whole, compile ('^' :: source ++ ['$']) = .ok whole ∧
        ∀ subject, whole.occursIn subject = true ↔ subject = wanted := by
  have spelled : RowSpelledBy (wanted.map literal) source := by
    rcases writes with same | ⟨same, plain⟩
    · rw [same]
      exact rowSpelledBy_escaped wanted
    · rw [same]
      exact rowSpelledBy_verbatim plain
  have operands : ∀ node ∈ wanted.map literal, Operand node := fun _ => operand_of_mem_literals
  have nonempty := anchorFirst_ne_nil (wanted.map literal)
  constructor
  · have compiled := compile_of_row (row_of_operands operands) spelled (plain_literals wanted).indices_eq_nil
    exact ⟨_, compiled, searchesFor_of_literals compiled rfl rfl⟩
  -- The `$` anchors what `^` has anchored if the text has at most one rune.
  · have compiled := compile_of_row (row_anchorLast (row_anchorFirst operands) nonempty)
      (rowSpelledBy_anchorLast nonempty (rowSpelledBy_anchorFirst spelled))
      (plain_anchored wanted).indices_eq_nil
    exact ⟨_, compiled, fun subject => occursIn_iff_of_anchored compiled rfl⟩

/-- Of `a.a` the search in `aaba.a.a` passes over `a`, `ab` and `aba`, which only begin like it. Between
anchors it occurs in `a.a`, but neither in `aba` nor in a longer subject. -/
theorem compile_searchesFor_text_with_dot :
    escaped "a.a".toList = "a\\.a".toList ∧
    (∃ pattern, compile "a\\.a".toList = .ok pattern ∧
      pattern.find "aaba.a.a".toList = some ⟨3, 6, "a.a".toList, .empty⟩ ∧
      IsLeast {start | start ≤ "aaba.a.a".toList.length ∧ "a.a".toList <+: "aaba.a.a".toList.drop start}
        3) ∧
    ∃ whole, compile "^a\\.a$".toList = .ok whole ∧ whole.occursIn "a.a".toList = true ∧
      whole.occursIn "aba".toList = false ∧ whole.occursIn "a.a.a".toList = false := by
  have writes : escaped "a.a".toList = "a\\.a".toList := rfl
  have ⟨⟨pattern, compiled, searches⟩, whole, compiledWhole, occurs⟩ :=
    compile_searchesFor "a.a".toList "a\\.a".toList (.inl writes.symm)
  have same : compile "a\\.a".toList = .ok ⟨"a\\.a".toList, .sequence [.literal 'a', .literal '.',
      .literal 'a'], 0⟩ := rfl
  have isPattern := Except.ok.inj (compiled.symm.trans same)
  have isFound : pattern.find "aaba.a.a".toList = some ⟨3, 6, "a.a".toList, .empty⟩ := by
    rw [isPattern]
    decide +kernel
  refine ⟨writes, ⟨pattern, compiled, isFound, searches.first _ _ isFound⟩, whole, compiledWhole,
    (occurs _).2 rfl, ?_, ?_⟩
  · apply Bool.eq_false_iff.2
    exact fun matched => absurd ((occurs _).1 matched) (by decide)
  · apply Bool.eq_false_iff.2
    exact fun matched => absurd ((occurs _).1 matched) (by decide)

end Pattern
end PatternSearch
