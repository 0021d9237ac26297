/-!
# Merging sorted lists

Two sorted lists become one by taking the lesser of their first items, or the greater of their last
ones.  Of equal items the one from the left list stands first in the result.  Short lists are merged
from both ends at once, which comes out even only if the comparison is consistent.
-/

namespace SqlGateway.Sorting

variable {α : Type} (less : α → α → Bool)

/-- Whether one item comes before another by a comparison. -/
def precedes (order : α → α → Ordering) (a b : α) : Bool :=
  order a b == .lt

/-- Merges two lists from the front. -/
def mergeUp (left right : List α) : List α :=
  left.merge right fun a b => !less b a

/-- Merges two lists from the back. -/
def mergeDown (left right : List α) : List α :=
  (right.reverse.merge left.reverse fun b a => !less b a).reverse

/-- Merges two lists, beginning where the shorter one runs out sooner. -/
def merge (left right : List α) : List α :=
  if left.length ≤ right.length then mergeUp less left right else mergeDown less left right

/-- Inserts an item behind all that are not greater, looking from the back. -/
def insertLast (sorted : List α) (item : α) : List α :=
  mergeDown less sorted [item]

/-- Inserts items one after the other into a sorted list. -/
def insertAll (sorted items : List α) : List α :=
  items.foldl (insertLast less) sorted

/-! ### From both ends -/

/-- What a number of steps of a merge takes from the front of two lists, and what is left of
each. -/
structure Steps (α : Type) where
  taken : List α
  left : List α
  right : List α

/-- A number of steps of a merge; `first` tells whether the item of the left list is taken. -/
def mergeSteps (first : α → α → Bool) : Nat → List α → List α → Steps α
  | n + 1, a :: left, b :: right =>
    if first a b then
      let steps := mergeSteps first n left (b :: right)
      { steps with taken := a :: steps.taken }
    else
      let steps := mergeSteps first n (a :: left) right
      { steps with taken := b :: steps.taken }
  | _, left, right => { taken := [], left, right }

/-- Merges two lists, of which the right one may be longer by one item, from both ends: as many
steps from each end as the left list has items, and one more if an item is left over.  There is no
result if the steps do not meet, that is if some item was taken twice. -/
def mergeEnds? (left right : List α) : Option (List α) :=
  let half := left.length
  let front := mergeSteps (fun a b => !less b a) half left right
  let back := mergeSteps (fun b a => !less b a) half right.reverse left.reverse
  -- where the steps from the back have stopped in each list
  let leftEnd := back.right.length
  let rightEnd := back.left.length
  let fromLeft := half - front.left.length < leftEnd
  let last : Steps α :=
    if right.length = half then { taken := [], left := front.left, right := front.right }
    else if fromLeft then
      { taken := front.left.take 1, left := front.left.drop 1, right := front.right }
    else { taken := front.right.take 1, left := front.left, right := front.right.drop 1 }
  if half - last.left.length = leftEnd ∧ right.length - last.right.length = rightEnd then
    some (front.taken ++ last.taken ++ back.taken.reverse)
  else none

end SqlGateway.Sorting
