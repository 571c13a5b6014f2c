import PatternSearch.Node

/-!
# Equality of pattern trees

Two trees are compared kind by kind and part by part. `same_iff` says that the comparison is
equality, and makes equality of trees decidable.
-/
namespace PatternSearch.Node

mutual

/-- Whether two trees are the same. -/
def same : Node → Node → Bool
  | .literal left, .literal right => left == right
  | .ofClass left, .ofClass right => left == right
  | .set left negated, .set right negated' => left == right && negated == negated'
  | .startAnchor left, .startAnchor right => left.same right
  | .endAnchor left, .endAnchor right => left.same right
  | .repetition left min max, .repetition right min' max' =>
    left.same right && min == min' && max == max'
  | .group index left, .group index' right => index == index' && allSame left right
  | .backreference left, .backreference right => left == right
  | .sequence left, .sequence right => allSame left right
  | _, _ => false

/-- Whether two lists hold the same trees in the same order. -/
def allSame : List Node → List Node → Bool
  | [], [] => true
  | left :: lefts, right :: rights => left.same right && allSame lefts rights
  | _, _ => false

end

mutual

/-- The comparison of trees is equality. -/
theorem same_iff : (left right : Node) → (left.same right = true ↔ left = right)
  | .literal _, right => by cases right <;> simp [same]
  | .ofClass _, right => by cases right <;> simp [same]
  | .set _ _, right => by cases right <;> simp [same]
  | .startAnchor left, right => by cases right <;> simp [same, same_iff left]
  | .endAnchor left, right => by cases right <;> simp [same, same_iff left]
  | .repetition left _ _, right => by cases right <;> simp [same, same_iff left, and_assoc]
  | .group _ left, right => by cases right <;> simp [same, allSame_iff left]
  | .backreference _, right => by cases right <;> simp [same]
  | .sequence left, right => by cases right <;> simp [same, allSame_iff left]

/-- The comparison of lists of trees is equality. -/
theorem allSame_iff : (lefts rights : List Node) → (allSame lefts rights = true ↔ lefts = rights)
  | [], rights => by cases rights <;> simp [allSame]
  | left :: lefts, rights => by
    cases rights <;> simp [allSame, same_iff left, allSame_iff lefts]

end

/-- Trees are equal when they are the same node by node. -/
instance : DecidableEq Node := fun left right => decidable_of_iff _ (same_iff left right)

end PatternSearch.Node
