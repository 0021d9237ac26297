import SqlGateway.Sorting.Partition
import SqlGateway.Sorting.Run

/-!
# Stable sorting

Up to twenty items are sorted by insertion.  More are sorted by runs, and runs without an order by
partition.  If the comparison is consistent the result is the stably sorted list; if it is not, the
result may be any list of the same items, or the sort gives up.
-/

namespace SqlGateway.Sorting

variable {α : Type} (less : α → α → Bool)

/-- The number of items that there is room for beside the list. -/
def roomFor (length : Nat) : Nat :=
  max 512 (max (length - length / 2) (min length 1000000))

/-- Sorts items without an order: by partition, and by runs when that does not get along. -/
def sortUnordered? (room : Nat) (items : List α) : Option (List α) :=
  sortParts? less (sortRuns? less (sortShort? less) room true) (2 * items.length.log2) none items

/-- Sorts items; `none` if the sort gives up since the comparison is not consistent. -/
def sort? (items : List α) : Option (List α) :=
  let length := items.length
  let room := roomFor length
  if length ≤ 20 then some (insertAll less [] items)
  else sortRuns? less (sortUnordered? less room) room (decide (length ≤ 2 * shortLength)) items

end SqlGateway.Sorting
