import SqlGateway.Sorting.Small

/-!
# Sorting by partition

A long list without order is divided by one of its items, the pivot, into what is less and what is
not, and each part is sorted in the same way.  Where the pivot is the least item, or equal to the
pivot of the part to the left, the items equal to it are taken off instead.
-/

namespace SqlGateway.Sorting

variable {α : Type} (less : α → α → Bool)

/-! ### The pivot -/

/-- The middle one of three items. -/
def median (a b c : α) : α :=
  let x := less a b
  if x = less a c then
    if less b c != x then c else b
  else a

/-- The length from which the pivot is taken from medians of medians. -/
def medianLength : Nat := 64

/-- An item somewhere in the middle: of the first, the fourth and the seventh eighth of a list, the
median of their first items, or in a long list of such items of theirs. -/
def pseudoMedian (first : α) (items : List α) : α :=
  let eighth := items.length / 8
  let b := items.drop (4 * eighth)
  let c := items.drop (7 * eighth)
  if medianLength ≤ items.length then
    median less (pseudoMedian first (items.take eighth)) (pseudoMedian first (b.take eighth))
      (pseudoMedian first (c.take eighth))
  else median less (items.headD first) (b.headD first) (c.headD first)
termination_by items.length
decreasing_by
  all_goals
    simp only [medianLength] at *
    simp only [List.length_take, List.length_drop]
    omega

/-- The pivot of a list that begins with `first`, with its position. -/
def pivot (first : α) (rest : List α) : α × Nat :=
  pseudoMedian (fun a b => less a.1 b.1) (first, 0) ((first :: rest).zipIdx)

/-! ### The parts -/

/-- The items that pass a test and those that do not; for the one at `position` it is decided
beforehand. -/
def partitionAt (test : α → Bool) (position : Nat) (decided : Bool) (items : List α) :
    List α × List α :=
  let (left, right) := items.zipIdx.partition fun item =>
    if item.2 = position then decided else test item.1
  (left.map Prod.fst, right.map Prod.fst)

/-- Sorts by partition, at most `limit` times one part inside the other and then as `other?` does.
If there is an ancestor, no item is less than it. -/
def sortParts? (other? : List α → Option (List α)) :
    Nat → Option α → List α → Option (List α)
  | _, _, [] => some []
  | limit, ancestor, first :: rest =>
    let items := first :: rest
    if items.length ≤ shortLength then sortShort? less items
    else
      match limit with
      | 0 => other? items
      | limit + 1 =>
        let (pivot, position) := pivot less first rest
        let (left, right) := partitionAt (less · pivot) position false items
        if ancestor.any (fun a => !less a pivot) || left.isEmpty then do
          let (equal, greater) := partitionAt (fun a => !less pivot a) position true items
          return equal ++ (← sortParts? other? limit none greater)
        else do
          let right ← sortParts? other? limit (some pivot) right
          let left ← sortParts? other? limit ancestor left
          return left ++ right

end SqlGateway.Sorting
