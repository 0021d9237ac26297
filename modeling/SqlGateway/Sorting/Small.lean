import SqlGateway.Sorting.Merge

/-!
# Sorting few items

A short list is sorted in two halves.  The first four or eight items of each half are sorted by a
fixed pattern of comparisons, the others are inserted, and the halves are merged from both ends.
-/

namespace SqlGateway.Sorting

variable {α : Type} (less : α → α → Bool)

/-- The number of items up to which a list is short. -/
def shortLength : Nat := 32

/-- Two items sorted. -/
def sortTwo (p q : α) : α × α :=
  if less q p then (q, p) else (p, q)

/-- Two sorted pairs merged by three comparisons: of their lesser items, of their greater ones, and
of the two that are left in the middle. -/
def mergePairs : α × α → α × α → List α
  | (a, b), (c, d) =>
    let fromRight := less c a
    let fromLeft := less d b
    let least := if fromRight then c else a
    let greatest := if fromLeft then b else d
    let before := if fromRight then a else if fromLeft then c else b
    let behind := if fromLeft then d else if fromRight then b else c
    let (lesser, greater) := sortTwo less before behind
    [least, lesser, greater, greatest]

/-- Four items sorted. -/
def sortFour : List α → List α
  | [p, q, r, s] => mergePairs less (sortTwo less p q) (sortTwo less r s)
  | items => items

/-- Eight items sorted, by merging two times four. -/
def sortEight? (items : List α) : Option (List α) :=
  mergeEnds? less (sortFour less (items.take 4)) (sortFour less (items.drop 4))

/-- The items with which the insertion into a half begins, sorted, when `length` items are sorted
altogether. -/
def sortStart? (length : Nat) (half : List α) : Option (List α) :=
  if 16 ≤ length then sortEight? less (half.take 8)
  else if 8 ≤ length then some (sortFour less (half.take 4))
  else some (half.take 1)

/-- A half sorted, when `length` items are sorted altogether. -/
def sortHalf? (length : Nat) (half : List α) : Option (List α) := do
  let start ← sortStart? less length half
  return insertAll less start (half.drop start.length)

/-- A short list sorted. -/
def sortShort? (items : List α) : Option (List α) :=
  let length := items.length
  if length < 2 then some items
  else do
    let left ← sortHalf? less length (items.take (length / 2))
    let right ← sortHalf? less length (items.drop (length / 2))
    mergeEnds? less left right

end SqlGateway.Sorting
