import SqlGateway.Proofs.Sorting.Merge
import SqlGateway.Sorting.Small

/-!
# Few items are sorted stably

The pattern of comparisons for four items takes the pairs and merges them, the items behind are
inserted, and the halves are merged from both ends; each of these is a stable sort by itself.
-/

namespace SqlGateway.Sorting

variable {α : Type} {order : α → α → Ordering} {items : List α}

theorem isStableSort_sortTwo {p q : α} (hpreorder : IsPreorderOn order [p, q]) :
    let (a, b) := sortTwo (precedes order) p q
    IsStableSort order [p, q] [a, b] := by
  have hmerge : IsStableSort order [p, q] (mergeUp (precedes order) [p] [q]) :=
    isStableSort_mergeUp hpreorder (List.pairwise_singleton _ p) (List.pairwise_singleton _ q)
  unfold sortTwo
  cases hless : precedes order q p <;>
    simpa [mergeUp, hless, List.merge_right] using hmerge

/-- Merging pairs item by item, from the front, asks for no other comparisons than these. -/
theorem mergePairs_eq_mergeUp {a b c d : α} (hpreorder : IsPreorderOn order [a, b, c, d])
    (hab : order a b ≠ .gt) (hcd : order c d ≠ .gt) :
    mergePairs (precedes order) (a, b) (c, d) = mergeUp (precedes order) [a, b] [c, d] := by
  have ha : a ∈ [a, b, c, d] := by simp
  have hb : b ∈ [a, b, c, d] := by simp
  have hc : c ∈ [a, b, c, d] := by simp
  have hd : d ∈ [a, b, c, d] := by simp
  have hba : precedes order b a = false := by
    simpa [precedes, hpreorder.eq_gt_iff ha hb] using hab
  have hdc : precedes order d c = false := by
    simpa [precedes, hpreorder.eq_gt_iff hc hd] using hcd
  -- what is less than the lesser item of a pair is less than the greater one, and so on
  have hleft : ∀ x ∈ [a, b, c, d], precedes order x a = true → precedes order x b = true := by
    simp only [precedes, beq_iff_eq]
    exact fun x hx hxa => hpreorder.lt_of_lt_of_ne_gt hx ha hb hxa hab
  have hright : ∀ x ∈ [a, b, c, d], precedes order d x = true → precedes order c x = true := by
    simp only [precedes, beq_iff_eq]
    exact fun x hx hdx => hpreorder.lt_of_ne_gt_of_lt hc hd hx hcd hdx
  have hcb := hleft c hc
  have hdb := hleft d hd
  have hca := hright a ha
  have hcb' := hright b hb
  unfold mergePairs sortTwo mergeUp
  cases hca' : precedes order c a <;> cases hdb' : precedes order d b <;>
    cases hda : precedes order d a <;> cases hcb'' : precedes order c b <;>
    simp_all [List.merge_right]

theorem isStableSort_mergePairs {left right : List α} {a b c d : α}
    (hpreorder : IsPreorderOn order (left ++ right)) (hleft : IsStableSort order left [a, b])
    (hright : IsStableSort order right [c, d]) :
    IsStableSort order (left ++ right) (mergePairs (precedes order) (a, b) (c, d)) := by
  have hpairs : IsPreorderOn order ([a, b] ++ [c, d]) :=
    IsStableSort.isPreorderOn_append hpreorder hleft hright
  have hab : order a b ≠ .gt := by simpa using hleft.pairwise
  have hcd : order c d ≠ .gt := by simpa using hright.pairwise
  rw [mergePairs_eq_mergeUp hpairs hab hcd]
  exact .of_append hpreorder hleft hright
    (isStableSort_mergeUp hpairs hleft.pairwise hright.pairwise)

theorem isStableSort_sortFour (hpreorder : IsPreorderOn order items) (hlength : items.length = 4) :
    IsStableSort order items (sortFour (precedes order) items) := by
  obtain ⟨p, q, r, s, rfl⟩ : ∃ p q r s, items = [p, q, r, s] := by
    match items, hlength with
    | [p, q, r, s], _ => exact ⟨p, q, r, s, rfl⟩
  have hleft := isStableSort_sortTwo (hpreorder.mono (show [p, q] ⊆ [p, q, r, s] by simp))
  have hright := isStableSort_sortTwo (hpreorder.mono (show [r, s] ⊆ [p, q, r, s] by simp))
  exact isStableSort_mergePairs hpreorder hleft hright

/-- Halves that are sorted may be merged from both ends. -/
theorem sortsStably_mergeEnds {left right left' right' : List α}
    (hpreorder : IsPreorderOn order (left ++ right)) (hleft : IsStableSort order left left')
    (hright : IsStableSort order right right')
    (hlength : left.length ≤ right.length ∧ right.length ≤ left.length + 1) :
    ∃ sorted, mergeEnds? (precedes order) left' right' = some sorted ∧
      IsStableSort order (left ++ right) sorted := by
  have hhalves := IsStableSort.isPreorderOn_append hpreorder hleft hright
  refine ⟨_, mergeEnds?_eq_some hhalves hleft.pairwise hright.pairwise ?_, ?_⟩
  · rwa [hleft.length_eq, hright.length_eq]
  · exact .of_append hpreorder hleft hright
      (isStableSort_mergeUp hhalves hleft.pairwise hright.pairwise)

theorem sortsStably_sortEight (hpreorder : IsPreorderOn order items) (hlength : items.length = 8) :
    SortsStably order (sortEight? (precedes order)) items := by
  have hfour : ∀ part : List α, part ⊆ items → part.length = 4 →
      IsStableSort order part (sortFour (precedes order) part) :=
    fun part hpart => isStableSort_sortFour (hpreorder.mono hpart)
  rw [← List.take_append_drop 4 items] at hpreorder
  obtain ⟨sorted, hsorted, hstable⟩ := sortsStably_mergeEnds hpreorder
    (hfour _ (List.take_subset 4 items) (by simp [hlength]))
    (hfour _ (List.drop_subset 4 items) (by simp [hlength])) (by simp [hlength])
  rw [List.take_append_drop] at hstable
  exact ⟨sorted, hsorted, hstable⟩

theorem take_length_take (n : Nat) (items : List α) :
    items.take (items.take n).length = items.take n := by
  rw [List.take_eq_take_iff, List.length_take]
  omega

/-- The items with which the insertion begins are sorted, and the list begins with them. -/
theorem exists_sortStart (hpreorder : IsPreorderOn order items) {length : Nat}
    (hlength : length / 2 ≤ items.length) :
    ∃ start, sortStart? (precedes order) length items = some start ∧
      IsStableSort order (items.take start.length) start := by
  unfold sortStart?
  split
  · obtain ⟨start, hstart, hstable⟩ := sortsStably_sortEight
      (hpreorder.mono (List.take_subset 8 items)) (by simp; omega)
    refine ⟨start, hstart, ?_⟩
    rwa [hstable.length_eq, take_length_take]
  · split
    · have hstable := isStableSort_sortFour (hpreorder.mono (List.take_subset 4 items))
        (by simp; omega)
      refine ⟨_, rfl, ?_⟩
      rwa [hstable.length_eq, take_length_take]
    · refine ⟨_, rfl, ?_⟩
      rw [take_length_take]
      cases items with
      | nil => exact .refl .nil
      | cons a rest => exact .refl (List.pairwise_singleton _ _)

theorem sortsStably_sortHalf (hpreorder : IsPreorderOn order items) {length : Nat}
    (hlength : length / 2 ≤ items.length) :
    SortsStably order (sortHalf? (precedes order) length) items := by
  obtain ⟨start, hstart, hstable⟩ := exists_sortStart hpreorder hlength
  rw [← List.take_append_drop start.length items] at hpreorder
  have hrest := isStableSort_insertAll hpreorder hstable
  rw [List.take_append_drop] at hrest
  exact ⟨_, by rw [sortHalf?, hstart]; rfl, hrest⟩

theorem sortsStably_sortShort (hpreorder : IsPreorderOn order items) :
    SortsStably order (sortShort? (precedes order)) items := by
  unfold SortsStably sortShort?
  simp only
  split
  · rename_i hlength
    refine ⟨items, rfl, .refl ?_⟩
    match items, hlength with
    | [], _ => exact .nil
    | [a], _ => exact List.pairwise_singleton _ _
  · have hhalf : ∀ half : List α, half ⊆ items → items.length / 2 ≤ half.length →
        SortsStably order (sortHalf? (precedes order) items.length) half :=
      fun half hsubset => sortsStably_sortHalf (hpreorder.mono hsubset)
    obtain ⟨left, hleft, hleftStable⟩ :=
      hhalf _ (List.take_subset (items.length / 2) items) (by simp; omega)
    obtain ⟨right, hright, hrightStable⟩ :=
      hhalf _ (List.drop_subset (items.length / 2) items) (by simp; omega)
    rw [← List.take_append_drop (items.length / 2) items] at hpreorder
    obtain ⟨sorted, hsorted, hstable⟩ :=
      sortsStably_mergeEnds hpreorder hleftStable hrightStable (by simp; omega)
    rw [List.take_append_drop] at hstable
    exact ⟨sorted, by simp [hleft, hright, hsorted], hstable⟩

end SqlGateway.Sorting
