import SqlGateway.Proofs.Sorting.Small
import SqlGateway.Sorting.Partition

/-!
# Sorting by partition is stable

A partition by a pivot of the list keeps the order of the items in each part, and every item of the
first part is less than every item of the second.  So the parts may be sorted apart.  An ancestor
bounds a part from below: a pivot that is not greater than it is a least item of the part, and then
the items that the pivot is not less than are all equal to it and need no sorting.
-/

namespace SqlGateway.Sorting

variable {α : Type} {order : α → α → Ordering} {items : List α}

/-! ### The pivot -/

theorem median_mem (less : α → α → Bool) (a b c : α) : median less a b c ∈ [a, b, c] := by
  unfold median
  simp only
  split
  · split <;> simp
  · simp

theorem headD_mem (first : α) {part : List α} (hpart : part ⊆ items) :
    part.headD first ∈ first :: items := by
  cases part with
  | nil => exact List.mem_cons_self
  | cons a part => exact List.mem_cons_of_mem _ (hpart List.mem_cons_self)

theorem pseudoMedian_mem (less : α → α → Bool) (first : α) (items : List α) :
    pseudoMedian less first items ∈ first :: items := by
  fun_induction pseudoMedian less first items with
  -- a long list: each of the three is from an eighth of it
  | case1 items eighth b c hlong ihfirst ihfourth ihseventh =>
      have hwithin : ∀ {n : Nat} {a : α}, a ∈ first :: (items.drop n).take eighth →
          a ∈ first :: items := fun ha =>
        List.cons_subset_cons first
          (List.Subset.trans (List.take_subset _ _) (List.drop_subset _ _)) ha
      have hmedian := median_mem less (pseudoMedian less first (items.take eighth))
        (pseudoMedian less first (b.take eighth)) (pseudoMedian less first (c.take eighth))
      simp only [List.mem_cons, List.not_mem_nil, or_false] at hmedian
      rcases hmedian with heq | heq | heq
      · rw [heq]
        exact hwithin (n := 0) ihfirst
      · rw [heq]
        exact hwithin ihfourth
      · rw [heq]
        exact hwithin ihseventh
  -- a short list, of which three elements are taken
  | case2 items eighth b c hshort =>
      have hmedian := median_mem less (items.headD first) (b.headD first) (c.headD first)
      simp only [List.mem_cons, List.not_mem_nil, or_false] at hmedian
      rcases hmedian with heq | heq | heq
      · rw [heq]
        exact headD_mem first (List.Subset.refl items)
      · rw [heq]
        exact headD_mem first (List.drop_subset _ _)
      · rw [heq]
        exact headD_mem first (List.drop_subset _ _)

/-- A pivot stands where it is said to stand. -/
theorem getElem?_pivot (less : α → α → Bool) (first : α) (rest : List α) :
    (first :: rest)[(pivot less first rest).2]? = some (pivot less first rest).1 := by
  have hmem := pseudoMedian_mem (fun a b => less a.1 b.1) (first, 0) ((first :: rest).zipIdx)
  rw [← pivot, List.mem_cons] at hmem
  rcases hmem with heq | hmem
  · rw [heq]
    rfl
  · exact List.mk_mem_zipIdx_iff_getElem?.mp hmem

/-! ### The parts -/

/-- Where the item decided beforehand is decided as the test would, a partition is one by the
test. -/
theorem partitionAt_eq {test : α → Bool} {position : Nat} {decided : Bool} {a : α}
    (ha : items[position]? = some a) (hdecided : test a = decided) :
    partitionAt test position decided items = (items.filter test, items.filter (!test ·)) := by
  have htest : ∀ item ∈ items.zipIdx,
      (if item.2 = position then decided else test item.1) = test item.1 := by
    intro item hitem
    split
    · rename_i hposition
      have hget := List.mk_mem_zipIdx_iff_getElem?.mp
        (show (item.1, item.2) ∈ items.zipIdx from hitem)
      rw [hposition, ha, Option.some.injEq] at hget
      rw [← hget, hdecided]
    · rfl
  have hfilter : ∀ part : α → Bool,
      (items.zipIdx.filter fun item => part item.1).map Prod.fst = items.filter part := by
    intro part
    rw [← List.zipIdx_map_fst 0 items, List.filter_map, List.zipIdx_map_fst]
    rfl
  have hleft := List.filter_congr htest
  have hright := List.filter_congr fun item hitem => congrArg not (htest item hitem)
  rw [partitionAt, List.partition_eq_filter_filter]
  exact Prod.ext ((congrArg _ hleft).trans (hfilter test))
    ((congrArg _ hright).trans (hfilter (!test ·)))

/-! ### Sorting -/

section Sorting

variable {p : α}

/-- The items less than a pivot and the others, each sorted, side by side. -/
theorem isStableSort_parts (hpreorder : IsPreorderOn order items) (hp : p ∈ items)
    {left right : List α} (hleft : IsStableSort order (items.filter (precedes order · p)) left)
    (hright : IsStableSort order (items.filter (!precedes order · p)) right) :
    IsStableSort order items (left ++ right) := by
  refine .append_of_lt hpreorder hleft hright fun a ha b hb hless hnot => ?_
  rw [precedes_eq_true] at hless
  rw [precedes_eq_false hpreorder hb hp] at hnot
  exact hpreorder.lt_of_lt_of_ne_gt ha hp hb hless hnot

/-- The items equal to a least item, and the others sorted, side by side. -/
theorem isStableSort_equal (hpreorder : IsPreorderOn order items) (hp : p ∈ items)
    (hleast : ∀ a ∈ items, order p a ≠ .gt) {greater : List α}
    (hgreater : IsStableSort order (items.filter (precedes order p ·)) greater) :
    IsStableSort order items (items.filter (!precedes order p ·) ++ greater) := by
  have hequal : ∀ a ∈ items, precedes order p a = false → order p a = .eq := by
    intro a ha hnot
    have hle := hleast a ha
    rw [← Bool.not_eq_true, precedes_eq_true] at hnot
    cases hcase : order p a <;> simp_all
  refine .append_of_lt hpreorder (.refl ?_) (by simpa using hgreater) fun a ha b hb hnot hless => ?_
  · refine List.pairwise_of_forall_mem_list fun a ha b hb => ?_
    rw [List.mem_filter, Bool.not_eq_true'] at ha hb
    exact hpreorder.ne_gt_of_eq hp ha.1 hb.1 (hequal a ha.1 ha.2) (hequal b hb.1 hb.2)
  · rw [Bool.not_eq_true'] at hnot
    rw [Bool.not_eq_false', precedes_eq_true] at hless
    refine hpreorder.lt_of_ne_gt_of_lt ha hp hb ?_ hless
    rw [hpreorder.swap p hp a ha, hequal a ha hnot]
    decide

end Sorting

/-- A pivot is a least item if it is not greater than a lower bound, or if no item is less. -/
theorem le_of_isLeast {all : List α} (hpreorder : IsPreorderOn order all) {p : α}
    {ancestor : Option α} (hitems : items ⊆ all) (hp : p ∈ items)
    (hancestor : ∀ a ∈ ancestor, a ∈ all ∧ ∀ b ∈ items, order a b ≠ .gt)
    (hleast : (ancestor.any (fun a => !precedes order a p) ||
      (items.filter (precedes order · p)).isEmpty) = true) : ∀ b ∈ items, order p b ≠ .gt := by
  intro b hb
  rw [Bool.or_eq_true, Option.any_eq_true, List.isEmpty_iff, List.filter_eq_nil_iff] at hleast
  rcases hleast with ⟨a, hsome, hnot⟩ | hnone
  · obtain ⟨ha, hbelow⟩ := hancestor a hsome
    rw [Bool.not_eq_true', precedes_eq_false hpreorder ha (hitems hp)] at hnot
    exact hpreorder.trans p (hitems hp) a ha b (hitems hb) hnot (hbelow b hb)
  · have hnot := hnone b hb
    rwa [Bool.not_eq_true, precedes_eq_false hpreorder (hitems hb) (hitems hp)] at hnot

theorem sortsStably_sortParts {all : List α} (hpreorder : IsPreorderOn order all)
    {other? : List α → Option (List α)} (hother : ∀ part ⊆ all, SortsStably order other? part)
    (limit : Nat) {ancestor : Option α} (hitems : items ⊆ all)
    (hancestor : ∀ a ∈ ancestor, a ∈ all ∧ ∀ b ∈ items, order a b ≠ .gt) :
    SortsStably order (sortParts? (precedes order) other? limit ancestor) items := by
  induction limit generalizing ancestor items with
  | zero =>
      cases items with
      | nil => exact ⟨[], by simp [sortParts?], .refl .nil⟩
      | cons first rest =>
          unfold SortsStably sortParts?
          simp only
          split
          · exact sortsStably_sortShort (hpreorder.mono hitems)
          · exact hother _ hitems
  | succ limit ih =>
      cases items with
      | nil => exact ⟨[], by simp [sortParts?], .refl .nil⟩
      | cons first rest =>
          have hwithin := hpreorder.mono hitems
          obtain ⟨p, position, hpivot⟩ : ∃ p position,
              pivot (precedes order) first rest = (p, position) := ⟨_, _, rfl⟩
          have hposition := getElem?_pivot (precedes order) first rest
          rw [hpivot] at hposition
          have hp : p ∈ first :: rest := List.mem_of_getElem? hposition
          have hself : precedes order p p = false := by simp [precedes, hwithin.refl p hp]
          have hsub : ∀ test : α → Bool, (first :: rest).filter test ⊆ all :=
            fun test => List.Subset.trans List.filter_sublist.subset hitems
          have hparts : partitionAt (precedes order · p) position false (first :: rest) = _ :=
            partitionAt_eq hposition hself
          have hequal : partitionAt (!precedes order p ·) position true (first :: rest) = _ :=
            partitionAt_eq hposition (by simp [hself])
          unfold SortsStably sortParts?
          simp only [hpivot, hparts, hequal]
          split
          · exact sortsStably_sortShort hwithin
          · split
            · rename_i hleast
              obtain ⟨greater, hgreater, hstable⟩ :
                  SortsStably order (sortParts? (precedes order) other? limit none) _ :=
                ih (hsub fun a => !!precedes order p a) (by simp)
              exact ⟨_, by rw [hgreater]; rfl, isStableSort_equal hwithin hp
                (le_of_isLeast hpreorder hitems hp hancestor hleast) (by simpa using hstable)⟩
            · have hbound : ∀ a ∈ some p, a ∈ all ∧
                  ∀ b ∈ (first :: rest).filter (!precedes order · p), order a b ≠ .gt := by
                rintro _ ⟨⟩
                refine ⟨hitems hp, fun b hb => ?_⟩
                rw [List.mem_filter, Bool.not_eq_true'] at hb
                exact (precedes_eq_false hwithin hb.1 hp).mp hb.2
              obtain ⟨right, hright, hrightStable⟩ := ih (hsub _) hbound
              obtain ⟨left, hleft, hleftStable⟩ := ih (hsub (precedes order · p))
                fun a ha => ⟨(hancestor a ha).1, fun b hb =>
                  (hancestor a ha).2 b (List.mem_of_mem_filter hb)⟩
              exact ⟨_, by rw [hright, Option.bind_eq_bind, Option.bind_some, hleft]; rfl,
                isStableSort_parts hwithin hp hleftStable hrightStable⟩

end SqlGateway.Sorting
