import SqlGateway.Proofs.Sorting.Partition
import SqlGateway.Proofs.Sorting.Run
import SqlGateway.Sorting.Stable

/-!
# A list is sorted stably if the comparison is consistent

Whatever way is taken, by insertion, by runs or by partition, a list whose items are totally
preordered comes out as its stable sort, and never is there no result.
-/

namespace SqlGateway.Sorting

variable {α : Type} {order : α → α → Ordering} {items : List α}

theorem sortsStably_sortUnordered (room : Nat) (hpreorder : IsPreorderOn order items) :
    SortsStably order (sortUnordered? (precedes order) room) items := by
  refine sortsStably_sortParts hpreorder (fun part hpart => ?_) _ (List.Subset.refl _) (by simp)
  refine sortsStably_sortRuns room true (hpreorder.mono hpart) fun stretch hstretch => ?_
  exact sortsStably_sortShort (hpreorder.mono (List.Subset.trans hstretch hpart))

/-- Sorting by a total preorder gives the stable sort. -/
theorem sortsStably_sort (hpreorder : IsPreorderOn order items) :
    SortsStably order (sort? (precedes order)) items := by
  unfold SortsStably sort?
  simp only
  split
  · exact ⟨_, rfl, isStableSort_insertAll hpreorder (.refl .nil)⟩
  · exact sortsStably_sortRuns _ _ hpreorder fun part hpart =>
      sortsStably_sortUnordered _ (hpreorder.mono hpart)

end SqlGateway.Sorting
