import SqlGateway.Proofs.Sorting.StableSort
import SqlGateway.Sorting.Merge

/-!
# Merging gives the stable sort of both lists together

Merging two sorted lists from the front takes the stable sort of both together item by item, and so
does merging from the back, by the comparison asked the other way round.  Merging from both ends at
once rests on a fact about where it may stop.  A cut is good if what lies before it in either list
may come before what lies behind it in the other:

    left = l₁ ++ l₂,  right = r₁ ++ r₂,  l₁ ≤ r₂,  r₁ < l₂

Both ends stop at good cuts, and of two good cuts the one with fewer items before it lies before the
other in both lists (`IsCut.le`).  So the steps from the front and the back meet.
-/

namespace SqlGateway.Sorting

variable {α : Type} {order : α → α → Ordering} {items left right : List α}

theorem precedes_eq_true {a b : α} : precedes order a b = true ↔ order a b = .lt :=
  beq_iff_eq

theorem precedes_eq_false (hpreorder : IsPreorderOn order items) {a b : α} (ha : a ∈ items)
    (hb : b ∈ items) : precedes order a b = false ↔ order b a ≠ .gt := by
  rw [← Bool.not_eq_true, precedes_eq_true, ← hpreorder.eq_gt_iff hb ha]

theorem not_precedes {a b : α} (hpreorder : IsPreorderOn order (left ++ right)) (ha : a ∈ left)
    (hb : b ∈ right) : (!precedes order b a) = true ↔ order a b ≠ .gt := by
  rw [Bool.not_eq_true', precedes_eq_false hpreorder (List.mem_append_right _ hb)
    (List.mem_append_left _ ha)]

/-! ### From one end -/

theorem isStableSort_listMerge {le : α → α → Bool} (hpreorder : IsPreorderOn order (left ++ right))
    (hle : ∀ a ∈ left, ∀ b ∈ right, le a b = true ↔ order a b ≠ .gt)
    (hleft : left.Pairwise fun a b => order a b ≠ .gt)
    (hright : right.Pairwise fun a b => order a b ≠ .gt) :
    IsStableSort order (left ++ right) (left.merge right le) := by
  induction left generalizing right with
  | nil => simpa using IsStableSort.refl hright
  | cons a left ihleft =>
      induction right with
      | nil => simpa using IsStableSort.refl hleft
      | cons b right ihright =>
          have ha : a ∈ a :: left ++ b :: right := by simp
          have hb : b ∈ a :: left ++ b :: right := by simp
          have hfirst := hle a (by simp) b (by simp)
          rw [List.pairwise_cons] at hleft hright
          rw [List.cons_merge_cons]
          split
          · rename_i htake
            have hrest := ihleft (hpreorder.mono (List.subset_cons_self _ _))
              (fun c hc => hle c (List.mem_cons_of_mem _ hc)) hleft.2
              (List.pairwise_cons.mpr hright)
            refine IsStableSort.cons_of_least [] hpreorder (by simp) ?_ hrest
            intro c hc
            rcases List.mem_append.mp hc with hc | hc
            · exact hleft.1 c hc
            · rcases List.mem_cons.mp hc with rfl | hc
              · exact hfirst.mp htake
              · exact hpreorder.trans a ha b hb c (by simp [hc]) (hfirst.mp htake) (hright.1 c hc)
          · rename_i htake
            have hlt : order b a = .lt := by
              rw [← hpreorder.eq_gt_iff ha hb]
              simpa [hfirst] using htake
            have hsubset : a :: left ++ right ⊆ a :: left ++ b :: right := by
              intro c hc
              simp only [List.mem_append, List.mem_cons] at hc ⊢
              tauto
            have hrest := ihright (hpreorder.mono hsubset)
              (fun c hc d hd => hle c hc d (List.mem_cons_of_mem _ hd)) hright.2
            refine IsStableSort.cons_of_least (a :: left) hpreorder ?_ hright.1 hrest
            intro c hc
            rcases List.mem_cons.mp hc with rfl | hc
            · exact hlt
            · exact hpreorder.lt_of_lt_of_ne_gt hb ha (by simp [hc]) hlt (hleft.1 c hc)

theorem isStableSort_mergeUp (hpreorder : IsPreorderOn order (left ++ right))
    (hleft : left.Pairwise fun a b => order a b ≠ .gt)
    (hright : right.Pairwise fun a b => order a b ≠ .gt) :
    IsStableSort order (left ++ right) (mergeUp (precedes order) left right) :=
  isStableSort_listMerge hpreorder (fun _ ha _ hb => not_precedes hpreorder ha hb) hleft hright

/-- The comparison asked the other way round, for lists read from the back. -/
theorem isPreorderOn_reverse (hpreorder : IsPreorderOn order (left ++ right)) :
    IsPreorderOn (fun a b => order b a) (right.reverse ++ left.reverse) := by
  refine hpreorder.flip.mono fun a ha => ?_
  simp only [List.mem_append, List.mem_reverse] at ha ⊢
  tauto

theorem not_precedes_reverse (hpreorder : IsPreorderOn order (left ++ right)) :
    ∀ b ∈ right.reverse, ∀ a ∈ left.reverse, (!precedes order b a) = true ↔ order a b ≠ .gt :=
  fun _ hb _ ha => not_precedes hpreorder (List.mem_reverse.mp ha) (List.mem_reverse.mp hb)

theorem isStableSort_mergeDown (hpreorder : IsPreorderOn order (left ++ right))
    (hleft : left.Pairwise fun a b => order a b ≠ .gt)
    (hright : right.Pairwise fun a b => order a b ≠ .gt) :
    IsStableSort order (left ++ right) (mergeDown (precedes order) left right) := by
  refine IsStableSort.of_reverse hpreorder ?_
  rw [List.reverse_append]
  exact isStableSort_listMerge (isPreorderOn_reverse hpreorder) (not_precedes_reverse hpreorder)
    (List.pairwise_reverse.mpr hright) (List.pairwise_reverse.mpr hleft)

theorem isStableSort_merge (hpreorder : IsPreorderOn order (left ++ right))
    (hleft : left.Pairwise fun a b => order a b ≠ .gt)
    (hright : right.Pairwise fun a b => order a b ≠ .gt) :
    IsStableSort order (left ++ right) (merge (precedes order) left right) := by
  unfold merge
  split
  · exact isStableSort_mergeUp hpreorder hleft hright
  · exact isStableSort_mergeDown hpreorder hleft hright

/-- Inserting items into a list that is sorted already sorts them all. -/
theorem isStableSort_insertAll {done sorted items : List α}
    (hpreorder : IsPreorderOn order (done ++ items)) (hdone : IsStableSort order done sorted) :
    IsStableSort order (done ++ items) (insertAll (precedes order) sorted items) := by
  induction items generalizing done sorted with
  | nil => simpa [insertAll] using hdone
  | cons item items ih =>
      rw [List.append_cons] at hpreorder ⊢
      refine ih hpreorder ?_
      have hfirst : IsPreorderOn order (done ++ [item]) :=
        hpreorder.mono (List.subset_append_left _ _)
      have hitem : IsStableSort order [item] [item] := .refl (List.pairwise_singleton _ _)
      exact IsStableSort.of_append hfirst hdone hitem (isStableSort_mergeDown
        (IsStableSort.isPreorderOn_append hfirst hdone hitem) hdone.pairwise hitem.pairwise)

/-! ### From both ends -/

/-- The first `m` items of one list and the first `n` of another may come before all the others. -/
structure IsCut (order : α → α → Ordering) (left right : List α) (m n : Nat) : Prop where
  left_le : ∀ a ∈ left.take m, ∀ b ∈ right.drop n, order a b ≠ .gt
  right_lt : ∀ b ∈ right.take n, ∀ a ∈ left.drop m, order b a = .lt

theorem mem_take_of_lt {i n : Nat} (hi : i < items.length) (hn : i < n) :
    items[i] ∈ items.take n :=
  List.mem_take_iff_getElem.mpr ⟨i, by omega, rfl⟩

theorem mem_drop_of_le {i n : Nat} (hi : i < items.length) (hn : n ≤ i) :
    items[i] ∈ items.drop n :=
  List.mem_drop_iff_getElem.mpr ⟨i - n, by omega, by congr 1; omega⟩

/-- Of two cuts the one with fewer items before it lies before the other in both lists. -/
theorem IsCut.le {m n m' n' : Nat} (hpreorder : IsPreorderOn order (left ++ right))
    (h : IsCut order left right m n) (h' : IsCut order left right m' n')
    (hleft : m ≤ left.length ∧ m' ≤ left.length) (hright : n ≤ right.length ∧ n' ≤ right.length)
    (hle : m + n ≤ m' + n') : m ≤ m' ∧ n ≤ n' := by
  have hclash : ∀ {a b : α}, a ∈ left → b ∈ right → order a b ≠ .gt → order b a ≠ .lt := by
    intro a b ha hb hab hba
    exact hab ((hpreorder.eq_gt_iff (List.mem_append_left _ ha)
      (List.mem_append_right _ hb)).mpr hba)
  constructor
  · by_contra hm
    have hi : m' < left.length := by omega
    have hj : n < right.length := by omega
    exact hclash (List.getElem_mem hi) (List.getElem_mem hj)
      (h.left_le _ (mem_take_of_lt hi (by omega)) _ (mem_drop_of_le hj le_rfl))
      (h'.right_lt _ (mem_take_of_lt hj (by omega)) _ (mem_drop_of_le hi le_rfl))
  · by_contra hn
    have hi : m < left.length := by omega
    have hj : n' < right.length := by omega
    exact hclash (List.getElem_mem hi) (List.getElem_mem hj)
      (h'.left_le _ (mem_take_of_lt hi (by omega)) _ (mem_drop_of_le hj le_rfl))
      (h.right_lt _ (mem_take_of_lt hj (by omega)) _ (mem_drop_of_le hi le_rfl))

/-- A cut of the lists read from the back. -/
theorem IsCut.of_reverse {m n : Nat}
    (h : IsCut (fun a b => order b a) right.reverse left.reverse n m) :
    IsCut order left right (left.length - m) (right.length - n) where
  left_le a ha b hb := by
    refine h.left_le b ?_ a ?_
    · rwa [List.take_reverse, List.mem_reverse]
    · rwa [List.drop_reverse, List.mem_reverse]
  right_lt b hb a ha := by
    refine h.right_lt a ?_ b ?_
    · rwa [List.take_reverse, List.mem_reverse]
    · rwa [List.drop_reverse, List.mem_reverse]

section Steps

variable {first : α → α → Bool} {n : Nat}

theorem merge_eq_taken_append (first : α → α → Bool) (hleft : n ≤ left.length)
    (hright : n ≤ right.length) :
    let steps := mergeSteps first n left right
    left.merge right first = steps.taken ++ steps.left.merge steps.right first ∧
      steps.taken.length = n := by
  induction n generalizing left right with
  | zero => simp [mergeSteps]
  | succ n ih =>
      obtain _ | ⟨a, left⟩ := left
      · simp at hleft
      obtain _ | ⟨b, right⟩ := right
      · simp at hright
      simp only [List.length_cons, Nat.succ_le_succ_iff] at hleft hright
      rw [mergeSteps, List.cons_merge_cons]
      split
      · have hright' : n ≤ (b :: right).length := hright.trans (Nat.le_succ _)
        obtain ⟨hmerge, hlength⟩ := ih hleft hright'
        exact ⟨by rw [hmerge, List.cons_append], by rw [List.length_cons, hlength]⟩
      · have hleft' : n ≤ (a :: left).length := hleft.trans (Nat.le_succ _)
        obtain ⟨hmerge, hlength⟩ := ih hleft' hright
        exact ⟨by rw [hmerge, List.cons_append], by rw [List.length_cons, hlength]⟩

/-- The steps of a merge stop at a cut. -/
theorem exists_isCut (hpreorder : IsPreorderOn order (left ++ right))
    (hfirst : ∀ a ∈ left, ∀ b ∈ right, first a b = true ↔ order a b ≠ .gt)
    (hleft : left.Pairwise fun a b => order a b ≠ .gt)
    (hright : right.Pairwise fun a b => order a b ≠ .gt)
    (hn : n ≤ left.length) (hn' : n ≤ right.length) :
    ∃ i j, i + j = n ∧ (mergeSteps first n left right).left = left.drop i ∧
      (mergeSteps first n left right).right = right.drop j ∧ IsCut order left right i j := by
  induction n generalizing left right with
  | zero => exact ⟨0, 0, rfl, rfl, rfl, ⟨by simp, by simp⟩⟩
  | succ n ih =>
      obtain _ | ⟨a, left⟩ := left
      · simp at hn
      obtain _ | ⟨b, right⟩ := right
      · simp at hn'
      have ha : a ∈ a :: left ++ b :: right := by simp
      have hb : b ∈ a :: left ++ b :: right := by simp
      simp only [List.length_cons, Nat.succ_le_succ_iff] at hn hn'
      rw [List.pairwise_cons] at hleft hright
      rw [mergeSteps]
      split
      · rename_i htake
        rw [hfirst a (by simp) b (by simp)] at htake
        obtain ⟨i, j, rfl, hdrop, hdrop', hcut⟩ := ih
          (hpreorder.mono (List.subset_cons_self _ _))
          (fun c hc => hfirst c (List.mem_cons_of_mem _ hc)) hleft.2 (List.pairwise_cons.mpr hright)
          hn (by simp; omega)
        refine ⟨i + 1, j, by omega, hdrop, hdrop', ⟨?_, ?_⟩⟩
        · intro c hc d hd
          rw [List.take_succ_cons, List.mem_cons] at hc
          rcases hc with rfl | hc
          · rcases List.mem_cons.mp (List.mem_of_mem_drop hd) with rfl | hd
            · exact htake
            · exact hpreorder.trans c ha b hb d (by simp [hd]) htake (hright.1 d hd)
          · exact hcut.left_le c hc d hd
        · exact hcut.right_lt
      · rename_i htake
        have hlt : order b a = .lt := by
          rw [← hpreorder.eq_gt_iff ha hb]
          simpa [hfirst a (by simp) b (by simp)] using htake
        have hsubset : a :: left ++ right ⊆ a :: left ++ b :: right := by
          intro c hc
          simp only [List.mem_append, List.mem_cons] at hc ⊢
          tauto
        obtain ⟨i, j, rfl, hdrop, hdrop', hcut⟩ := ih (hpreorder.mono hsubset)
          (fun c hc d hd => hfirst c hc d (List.mem_cons_of_mem _ hd))
          (List.pairwise_cons.mpr hleft) hright.2 (by simp; omega) hn'
        refine ⟨i, j + 1, by omega, hdrop, hdrop', ⟨hcut.left_le, ?_⟩⟩
        intro c hc d hd
        rw [List.take_succ_cons, List.mem_cons] at hc
        rcases hc with rfl | hc
        · rcases List.mem_cons.mp (List.mem_of_mem_drop hd) with rfl | hd
          · exact hlt
          · exact hpreorder.lt_of_lt_of_ne_gt hb ha (by simp [hd]) hlt (hleft.1 d hd)
        · exact hcut.right_lt c hc d hd

theorem take_one_merge_left (hleft : left ≠ [])
    (hfirst : ∀ a ∈ left.take 1, ∀ b ∈ right, first a b = true) :
    (left.merge right first).take 1 = left.take 1 := by
  obtain ⟨a, left, rfl⟩ := List.exists_cons_of_ne_nil hleft
  cases right with
  | nil => rw [List.merge_right]
  | cons b right => rw [List.cons_merge_cons, if_pos (hfirst a (by simp) b (by simp))]; simp

theorem take_one_merge_right (hright : right ≠ [])
    (hfirst : ∀ a ∈ left, ∀ b ∈ right.take 1, first a b = false) :
    (left.merge right first).take 1 = right.take 1 := by
  obtain ⟨b, right, rfl⟩ := List.exists_cons_of_ne_nil hright
  cases left with
  | nil => rw [List.nil_merge]
  | cons a left =>
      rw [List.cons_merge_cons, if_neg (by simp [hfirst a (by simp) b (by simp)])]
      simp

end Steps

/-- Where the steps from both ends stop, and that the items taken from the back are the last ones of
the merged list. -/
theorem exists_ends (hpreorder : IsPreorderOn order (left ++ right))
    (hleft : left.Pairwise fun a b => order a b ≠ .gt)
    (hright : right.Pairwise fun a b => order a b ≠ .gt)
    (hlength : left.length ≤ right.length ∧ right.length ≤ left.length + 1) :
    let first := fun a b => !precedes order b a
    let front := mergeSteps first left.length left right
    let back := mergeSteps (fun b a => !precedes order b a) left.length right.reverse left.reverse
    ∃ i j i' j', i + j = left.length ∧ i' + j' = right.length ∧ i ≤ i' ∧ j ≤ j' ∧
      i' ≤ left.length ∧ j' ≤ right.length ∧ IsCut order left right i' j' ∧
      front.left = left.drop i ∧ front.right = right.drop j ∧
      back.right.length = i' ∧ back.left.length = j' ∧
      mergeUp (precedes order) left right = front.taken ++
        (((left.drop i).merge (right.drop j) first).take (right.length - left.length) ++
          back.taken.reverse) := by
  intro first front back
  have hpreorder' := isPreorderOn_reverse hpreorder
  have hfirst : ∀ a ∈ left, ∀ b ∈ right, first a b = true ↔ order a b ≠ .gt :=
    fun a ha b hb => not_precedes hpreorder ha hb
  have hreverse : left.length ≤ right.reverse.length := by simp [hlength.1]
  have hreverse' : left.length ≤ left.reverse.length := by simp
  obtain ⟨i, j, hij, hfrontLeft, hfrontRight, hcut⟩ :=
    exists_isCut hpreorder hfirst hleft hright le_rfl hlength.1
  obtain ⟨q, p, hqp, hbackLeft, hbackRight, hcut'⟩ :=
    exists_isCut hpreorder' (not_precedes_reverse hpreorder) (List.pairwise_reverse.mpr hright)
      (List.pairwise_reverse.mpr hleft) hreverse hreverse'
  obtain ⟨hmerge, htaken⟩ := merge_eq_taken_append first le_rfl hlength.1
  obtain ⟨hmerge', htaken'⟩ :=
    merge_eq_taken_append (fun b a => !precedes order b a) hreverse hreverse'
  have hcut' := hcut'.of_reverse
  obtain ⟨hi, hj⟩ := hcut.le hpreorder hcut' (by omega) (by omega) (by omega)
  refine ⟨i, j, left.length - p, right.length - q, hij, by omega, hi, hj, by omega, by omega,
    hcut', hfrontLeft, hfrontRight, by simp [back, hbackRight], by simp [back, hbackLeft], ?_⟩
  -- from the back the same list is merged, so its last items are those taken there
  have hdown : mergeUp (precedes order) left right = mergeDown (precedes order) left right :=
    (isStableSort_mergeUp hpreorder hleft hright).unique
      (isStableSort_mergeDown hpreorder hleft hright) hpreorder
  rw [mergeDown, hmerge', List.reverse_append] at hdown
  rw [hfrontLeft, hfrontRight] at hmerge
  have hup : mergeUp (precedes order) left right =
      front.taken ++ (left.drop i).merge (right.drop j) first := hmerge
  rw [hup] at hdown ⊢
  generalize hrest : (left.drop i).merge (right.drop j) first = rest at hdown ⊢
  have hlengthRest : rest.length = right.length := by
    rw [← hrest, List.length_merge, List.length_drop, List.length_drop]
    omega
  rw [← List.take_append_drop (right.length - left.length) rest, ← List.append_assoc] at hdown
  have hback := (List.append_inj' hdown (by simp [htaken', hlengthRest]; omega)).2
  rw [← hback, List.take_append_drop]

/-- Merging from both ends gives what merging from the front gives. -/
theorem mergeEnds?_eq_some (hpreorder : IsPreorderOn order (left ++ right))
    (hleft : left.Pairwise fun a b => order a b ≠ .gt)
    (hright : right.Pairwise fun a b => order a b ≠ .gt)
    (hlength : left.length ≤ right.length ∧ right.length ≤ left.length + 1) :
    mergeEnds? (precedes order) left right = some (mergeUp (precedes order) left right) := by
  obtain ⟨i, j, i', j', hij, hij', hi, hj, hi', hj', hcut, hfrontLeft, hfrontRight, hbackRight,
    hbackLeft, hmerge⟩ := exists_ends hpreorder hleft hright hlength
  rw [hmerge, mergeEnds?]
  simp only [hfrontLeft, hfrontRight, hbackRight, hbackLeft, List.length_drop, List.drop_drop]
  by_cases heven : right.length = left.length
  · have hmeet : left.length - (left.length - i) = i' ∧ right.length - (right.length - j) = j' := by
      omega
    simp only [if_pos heven, List.length_drop, if_pos hmeet]
    simp [heven]
  · have hodd : right.length - left.length = 1 := by omega
    simp only [if_neg heven, hodd]
    by_cases hside : i < i'
    · have hfrom : left.length - (left.length - i) < i' := by omega
      have hmeet : left.length - (left.length - (i + 1)) = i' ∧
          right.length - (right.length - j) = j' := by omega
      have hnext : ((left.drop i).merge (right.drop j) fun a b => !precedes order b a).take 1 =
          (left.drop i).take 1 := by
        refine take_one_merge_left (by simp; omega) fun a ha b hb => ?_
        rw [not_precedes hpreorder (List.mem_of_mem_drop (List.mem_of_mem_take ha))
          (List.mem_of_mem_drop hb)]
        refine hcut.left_le a ?_ b ?_
        · rw [List.take_drop] at ha
          rw [show i' = i + 1 by omega]
          exact List.mem_of_mem_drop ha
        · rwa [show j' = j by omega]
      simp only [if_pos hfrom, List.length_drop, if_pos hmeet, hnext]
      simp
    · have hfrom : ¬left.length - (left.length - i) < i' := by omega
      have hmeet : left.length - (left.length - i) = i' ∧
          right.length - (right.length - (j + 1)) = j' := by omega
      have hnext : ((left.drop i).merge (right.drop j) fun a b => !precedes order b a).take 1 =
          (right.drop j).take 1 := by
        refine take_one_merge_right (by simp; omega) fun a ha b hb => ?_
        have hlt : order b a = .lt := by
          refine hcut.right_lt b ?_ a ?_
          · rw [List.take_drop] at hb
            rw [show j' = j + 1 by omega]
            exact List.mem_of_mem_drop hb
          · rwa [show i' = i by omega]
        simp [precedes, hlt]
      simp only [if_neg hfrom, List.length_drop, if_pos hmeet, hnext]
      simp

end SqlGateway.Sorting
