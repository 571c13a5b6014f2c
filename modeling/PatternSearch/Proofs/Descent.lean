import PatternSearch.Draft
import PatternSearch.Proofs.Guarding

/-!
# Recursive descent

A pattern text can also be read by a parser for each form of the grammar, which call one another and
look one token ahead before they move a cursor on. Here this descent is written with guarded steps: it
has no result where a cursor would leave the text, a word would be too large or too small, or a loop would
take more rounds than the text has tokens. An element that would begin where no token is left has an error
of its own.
-/
namespace PatternSearch

/-- A cursor over a pattern text, and the index of the next group to open. -/
structure Reader where
  /-- The cursor. -/
  cursor : Cursor
  /-- The index of the next group. -/
  nextGroup : Nat

/-- A parser: it moves a reader on to a value or an error, unless the machine stops. -/
abbrev Parsing := StateT Reader (ExceptT PatternError Option)

namespace Parsing

open Guarded

/-- Where the machine stops, for want of rounds. -/
def stuck {Value : Type} : Parsing Value := fun _ => ExceptT.mk none

/-- A guarded step as a parser. -/
def guarded {Value : Type} (step? : Option Value) : Parsing Value := fun reader =>
  ExceptT.mk (step?.map fun value => .ok (value, reader))

/-- The offset of the reader. -/
def offset : Parsing Nat := fun reader => pure (reader.cursor.offset, reader)

/-- Move to an offset, which must not be past the end. -/
def reset (offset : Nat) : Parsing Unit := fun reader =>
  ExceptT.mk <| (reader.cursor.reset? offset).map fun cursor => .ok ((), { reader with cursor })

section

variable (limit : Nat)

/-- Read the next token, if there is one. -/
def token : Parsing (Option Token) := fun reader =>
  ExceptT.mk <| (readToken limit reader.cursor).map fun
    | none => .ok (none, reader)
    | some (token, cursor) => .ok (some token, { reader with cursor })

/-- Look at the next token and move back. -/
def peek : Parsing (Option Token) := do
  let checkpoint ← offset
  let next ← token limit
  reset checkpoint
  return next

/-- Take the index for a group that opens. -/
def allocate : Parsing Nat := fun reader =>
  ExceptT.mk <| (plus? limit reader.nextGroup 1).map fun nextGroup =>
    .ok (reader.nextGroup, { reader with nextGroup })

/-- The number of groups that have opened. -/
def groupCount : Parsing Nat := fun reader =>
  ExceptT.mk <| (minus? reader.nextGroup 1).map fun count => .ok (count, reader)

/-- The node of a token outside a set. The index of a backreference is the difference of two digits. -/
def ofToken? (token : Token) : Option (Except PatternError.Reason Node) :=
  match token with
  | .escaped rune =>
    if rune.isDigit = true ∧ rune ≠ '0' then
      (minus? rune.toNat '0'.toNat).map fun index => .ok (.backreference index)
    else some (Node.ofEscaped rune)
  | token => some (Node.ofToken token)

/-- The node of a token that stands at an offset. -/
def leaf (offset : Nat) (token : Token) : Parsing Node := do
  match ← guarded (ofToken? token) with
  | .ok node => return node
  | .error reason => throw ⟨offset, reason⟩

/-- The members of a set that opened at an offset, up to its bracket, behind those that are read. -/
def members (opened : Nat) : (rounds : Nat) → List SetMember → Parsing (List SetMember)
  | 0, _ => stuck
  | rounds + 1, earlier => do
    match ← token limit with
    | none => throw ⟨opened, .unterminatedSet⟩
    | some next =>
      if next = .plain ']' then
        return earlier.reverse
      else
        match SetMember.ofToken? next with
        | none => throw ⟨opened, .unterminatedSet⟩
        | some member => members opened rounds (member :: earlier)

/-- Whether a set is negated, by a `^` right behind its bracket. -/
def negation : Parsing Bool := do
  if (← peek limit) = some (.plain '^') then
    let _ ← token limit
    return true
  else
    return false

/-- A set that opened at an offset, behind its bracket. -/
def set (opened rounds : Nat) : Parsing Node := do
  let negated ← negation limit
  let all ← members limit opened rounds []
  if all = [] then
    throw ⟨opened, .emptySet⟩
  else
    return .set all negated

/-- A group that opened at an offset, behind its parenthesis. -/
def group (alternation : Parsing (List Node)) (opened : Nat) : Parsing Node := do
  let index ← allocate limit
  let branches ← alternation
  if (← token limit) = some (.plain ')') then
    return .group index branches
  else
    throw ⟨opened, .unterminatedGroup⟩

/-- An element without its quantifier. Without a token there is an error. -/
def atom (alternation : Parsing (List Node)) (rounds : Nat) : Parsing Node := do
  let start ← offset
  match ← token limit with
  | none => throw ⟨start, .unexpectedEnd⟩
  | some next =>
    if next = .plain '(' then
      group limit alternation start
    else if next = .plain '[' then
      set limit start rounds
    else
      leaf start next

/-- An element with its quantifier, if it has one. -/
def element (alternation : Parsing (List Node)) (rounds : Nat) : Parsing Node := do
  let node ← atom limit alternation rounds
  let behind ← offset
  match (← peek limit).bind Quantifier.ofToken? with
  | none => return node
  | some quantifier =>
    let _ ← token limit
    if node.isQuantifiable = true then
      return quantifier.apply node
    else
      throw ⟨behind, .unquantifiable quantifier node.description⟩

/-- The element behind a start anchor, or the empty sequence if there is none. -/
def anchored (alternation : Parsing (List Node)) (rounds : Nat) : Parsing Node := do
  if (← peek limit).all Draft.endsAnchor = true then
    return .sequence []
  else
    element limit alternation rounds

/-- A branch up to the token that ends it, behind elements that are read. -/
def sequence (alternation : Parsing (List Node)) : (rounds : Nat) → List Node → Parsing Node
  | 0, _ => stuck
  | rounds + 1, elements => do
    let start ← offset
    match ← peek limit with
    | none => return .sequence elements.reverse
    | some next =>
      if next = .plain ')' ∨ next = .plain '|' then
        return .sequence elements.reverse
      else if next = .plain '$' then
        let _ ← token limit
        match elements with
        | [] => throw ⟨start, .danglingEndAnchor⟩
        | latest :: earlier => sequence alternation rounds (.endAnchor latest :: earlier)
      else if next = .plain '^' ∧ elements = [] then
        let _ ← token limit
        let inner ← anchored limit alternation rounds
        sequence alternation rounds (.startAnchor inner :: elements)
      else
        let node ← element limit alternation rounds
        sequence alternation rounds (node :: elements)

/-- Branches with bars between them, behind branches that are read. -/
def branches (alternation : Parsing (List Node)) : (rounds : Nat) → List Node → Parsing (List Node)
  | 0, _ => stuck
  | rounds + 1, earlier => do
    let branch ← sequence limit alternation (rounds + 1) []
    if (← peek limit) = some (.plain '|') then
      let _ ← token limit
      branches alternation rounds (branch :: earlier)
    else
      return (branch :: earlier).reverse

/-- The branches of a group, with groups in them as deep as there are rounds. -/
def alternation : (rounds : Nat) → Parsing (List Node)
  | 0 => stuck
  | rounds + 1 => branches limit (alternation rounds) (rounds + 1) []

/-- A whole pattern, with the number of its groups. -/
def pattern (rounds : Nat) : Parsing (Node × Nat) := do
  let all ← alternation limit rounds
  let behind ← offset
  if (← peek limit) = some (.plain ')') then
    throw ⟨behind, .unmatchedParenthesis⟩
  else
    let count ← groupCount
    match all with
    | [branch] => return (branch, count)
    | all => return (.group 0 all, count)

end

end Parsing

/-- Read a pattern text by descent. -/
def Pattern.descend? (limit : Nat) (source : Text) :
    Option (Except PatternError (Node × Nat)) :=
  (Parsing.pattern limit (source.length + 1) ⟨.ofText source, 1⟩).run.map fun result =>
    result.map (·.1)

end PatternSearch
