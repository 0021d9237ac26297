import SqlGateway.Proofs.Preorder

/-!
# What a stable sort gives

A stable sort of a list has the items of the list, in order, and those that are equal to each other
in the order that they had.  Nothing is said here about how it is found.  If the comparison is a
total preorder of the items there is no more than one such list (`IsStableSort.unique`), so that a
way of sorting is known by the list it comes to; and then a list may be sorted in parts: a first
item may be set aside, the parts may lie side by side if each item of the one is less than each of
the other, and everything may be done from the back.
-/

namespace SqlGateway

variable {α : Type} {order : α → α → Ordering} {items sorted : List α}

/-- A list has the given items, in order, and equal ones in the order that they had. -/
structure IsStableSort (order : α → α → Ordering) (items sorted : List α) : Prop where
  perm : sorted.Perm items
  pairwise : sorted.Pairwise fun a b => order a b ≠ .gt
  stable : ∀ a ∈ items, sorted.filter (order a · == .eq) = items.filter (order a · == .eq)

/-- A way of sorting comes to the stable sort of a list. -/
def SortsStably (order : α → α → Ordering) (sort? : List α → Option (List α)) (items : List α) :
    Prop :=
  ∃ sorted, sort? items = some sorted ∧ IsStableSort order items sorted

namespace IsPreorderOn

/-- Items that are equal to one item are equal to each other. -/
theorem eq_of_eq_of_eq (h : IsPreorderOn order items) {a b c : α} (ha : a ∈ items) (hb : b ∈ items)
    (hc : c ∈ items) (hab : order a b = .eq) (hac : order a c = .eq) : order b c = .eq := by
  have hbc := h.ne_gt_of_eq ha hb hc hab hac
  have hcb := h.ne_gt_of_eq ha hc hb hac hab
  rw [h.swap b hb c hc] at hcb
  cases hcase : order b c <;> simp_all

theorem lt_of_lt_of_ne_gt (h : IsPreorderOn order items) {a b c : α} (ha : a ∈ items)
    (hb : b ∈ items) (hc : c ∈ items) (hab : order a b = .lt) (hbc : order b c ≠ .gt) :
    order a c = .lt := by
  have hac := h.trans a ha b hb c hc (by simp [hab]) hbc
  cases hcase : order a c with
  | lt => rfl
  | gt => exact absurd hcase hac
  | eq =>
      have heq := (h.eq_of_eq ha hb hc (by simp [hab]) hbc hcase).1
      simp [hab] at heq

theorem lt_of_ne_gt_of_lt (h : IsPreorderOn order items) {a b c : α} (ha : a ∈ items)
    (hb : b ∈ items) (hc : c ∈ items) (hab : order a b ≠ .gt) (hbc : order b c = .lt) :
    order a c = .lt := by
  have hac := h.trans a ha b hb c hc hab (by simp [hbc])
  cases hcase : order a c with
  | lt => rfl
  | gt => exact absurd hcase hac
  | eq =>
      have heq := (h.eq_of_eq ha hb hc hab (by simp [hbc]) hcase).2
      simp [hbc] at heq

theorem eq_gt_iff (h : IsPreorderOn order items) {a b : α} (ha : a ∈ items) (hb : b ∈ items) :
    order a b = .gt ↔ order b a = .lt := by
  rw [h.swap a ha b hb]
  cases order a b <;> decide

/-- The comparison asked the other way round. -/
theorem flip (h : IsPreorderOn order items) : IsPreorderOn (fun a b => order b a) items where
  refl a ha := h.refl a ha
  swap a ha b hb := h.swap b hb a ha
  trans a ha b hb c hc hab hbc := h.trans c hc b hb a ha hbc hab

end IsPreorderOn

namespace IsStableSort

theorem mem_iff (h : IsStableSort order items sorted) {a : α} : a ∈ sorted ↔ a ∈ items :=
  h.perm.mem_iff

theorem length_eq (h : IsStableSort order items sorted) : sorted.length = items.length :=
  h.perm.length_eq

/-- A list that is in order is sorted already. -/
theorem refl (hpairwise : items.Pairwise fun a b => order a b ≠ .gt) :
    IsStableSort order items items where
  perm := .rfl
  pairwise := hpairwise
  stable _ _ := rfl

/-- Of items that are all equal to each other the order is kept, whatever else they have in
common. -/
theorem filter_eq (h : IsStableSort order items sorted) {test : α → Bool}
    (htied : ∀ a ∈ items, ∀ b ∈ items, test a = true → test b = true → order a b = .eq) :
    sorted.filter test = items.filter test := by
  cases hfilter : items.filter test with
  | nil =>
      rw [List.filter_eq_nil_iff] at hfilter ⊢
      exact fun a ha => hfilter a (h.mem_iff.mp ha)
  | cons a others =>
      obtain ⟨ha, htest⟩ := List.mem_filter.mp (hfilter ▸ List.mem_cons_self)
      -- the items in question are among those equal to the first of them
      have hamong : ∀ list : List α, (∀ b ∈ list, b ∈ items) →
          list.filter test = (list.filter (order a · == .eq)).filter test := by
        intro list hlist
        rw [List.filter_filter]
        refine List.filter_congr fun b hb => ?_
        cases hb' : test b with
        | false => rfl
        | true => simp [htied a ha b (hlist b hb) htest hb']
      rw [← hfilter, hamong items fun _ hb => hb, hamong sorted fun b hb => h.mem_iff.mp hb,
        h.stable a ha]

/-- For a preorder it is enough to look at tests that only equal items pass. -/
theorem of_filter_eq (hpreorder : IsPreorderOn order items) (hperm : sorted.Perm items)
    (hpairwise : sorted.Pairwise fun a b => order a b ≠ .gt)
    (hfilter : ∀ test : α → Bool,
      (∀ a ∈ items, ∀ b ∈ items, test a = true → test b = true → order a b = .eq) →
        sorted.filter test = items.filter test) : IsStableSort order items sorted where
  perm := hperm
  pairwise := hpairwise
  stable _ ha := hfilter _ fun _ hb _ hc hab hac =>
    hpreorder.eq_of_eq_of_eq ha hb hc (beq_iff_eq.mp hab) (beq_iff_eq.mp hac)

/-- Two lists of the same items that are in order are one list if equal items stand in them in the
same order. -/
theorem eq_of_pairwise {sorted' : List α} (hpreorder : IsPreorderOn order sorted)
    (hperm : sorted.Perm sorted') (hpairwise : sorted.Pairwise fun a b => order a b ≠ .gt)
    (hpairwise' : sorted'.Pairwise fun a b => order a b ≠ .gt)
    (hstable : ∀ a ∈ sorted,
      sorted.filter (order a · == .eq) = sorted'.filter (order a · == .eq)) :
    sorted = sorted' := by
  induction sorted generalizing sorted' with
  | nil => exact hperm.nil_eq
  | cons a rest ih =>
      cases sorted' with
      | nil => exact absurd hperm.symm.nil_eq (by simp)
      | cons b rest' =>
          rw [List.pairwise_cons] at hpairwise hpairwise'
          have hself : a ∈ a :: rest := List.mem_cons_self
          have hmem : b ∈ a :: rest := hperm.mem_iff.mpr List.mem_cons_self
          have haa := hpreorder.refl a hself
          -- each of the first items is no greater than the other
          have hab : order a b ≠ .gt := by
            rcases List.mem_cons.mp hmem with rfl | hmem'
            · simp [haa]
            · exact hpairwise.1 b hmem'
          have hba : order b a ≠ .gt := by
            rcases List.mem_cons.mp (hperm.mem_iff.mp hself) with rfl | hmem'
            · simp [haa]
            · exact hpairwise'.1 a hmem'
          have heq : order a b = .eq := by
            rw [hpreorder.swap a hself b hmem] at hba
            cases hcase : order a b <;> simp_all
          have hfilter := hstable a hself
          rw [List.filter_cons_of_pos (by simp [haa]), List.filter_cons_of_pos (by simp [heq]),
            List.cons.injEq] at hfilter
          obtain ⟨rfl, -⟩ := hfilter
          congr 1
          refine ih (hpreorder.mono (List.subset_cons_self _ _)) hperm.cons_inv hpairwise.2
            hpairwise'.2 fun c hc => ?_
          have hrest := hstable c (List.mem_cons_of_mem _ hc)
          simp only [List.filter_cons] at hrest
          split at hrest
          · exact (List.cons.inj hrest).2
          · exact hrest

/-- There is no more than one stable sort by a preorder. -/
theorem unique {sorted' : List α} (h : IsStableSort order items sorted)
    (h' : IsStableSort order items sorted') (hpreorder : IsPreorderOn order items) :
    sorted = sorted' :=
  eq_of_pairwise (hpreorder.mono h.perm.subset) (h.perm.trans h'.perm.symm) h.pairwise h'.pairwise
    fun a ha => by rw [h.stable a (h.mem_iff.mp ha), h'.stable a (h.mem_iff.mp ha)]

/-! ### Sorting in parts -/

/-- An item that is less than those before it and no greater than those behind it comes first. -/
theorem cons_of_least (front : List α) {back : List α} {a : α}
    (hpreorder : IsPreorderOn order (front ++ a :: back)) (hfront : ∀ b ∈ front, order a b = .lt)
    (hback : ∀ b ∈ back, order a b ≠ .gt) (h : IsStableSort order (front ++ back) sorted) :
    IsStableSort order (front ++ a :: back) (a :: sorted) := by
  have hmem : ∀ b ∈ front ++ back, b ∈ front ++ a :: back := by
    intro b hb
    simp only [List.mem_append, List.mem_cons] at hb ⊢
    tauto
  have hleast : ∀ b ∈ front ++ back, order a b ≠ .gt := by
    intro b hb
    rcases List.mem_append.mp hb with hb | hb
    · simp [hfront b hb]
    · exact hback b hb
  refine of_filter_eq hpreorder ((h.perm.cons a).trans List.perm_middle.symm) ?_ ?_
  · exact List.pairwise_cons.mpr ⟨fun b hb => hleast b (h.mem_iff.mp hb), h.pairwise⟩
  · intro test htied
    have hrest := h.filter_eq fun b hb c hc => htied b (hmem b hb) c (hmem c hc)
    rw [List.filter_append] at hrest ⊢
    cases htest : test a with
    | false => rw [List.filter_cons_of_neg (by simp [htest]), hrest,
        List.filter_cons_of_neg (by simp [htest])]
    | true =>
        have hnone : front.filter test = [] := by
          rw [List.filter_eq_nil_iff]
          intro b hb htest'
          have heq := htied a (by simp) b (by simp [hb]) htest htest'
          simp [hfront b hb] at heq
        rw [List.filter_cons_of_pos htest, hrest, List.filter_cons_of_pos htest, hnone]
        rfl

/-- Two parts of a list, of which one is less than the other, lie side by side when they are
sorted. -/
theorem append_of_lt {test : α → Bool} {left right : List α} (hpreorder : IsPreorderOn order items)
    (hleft : IsStableSort order (items.filter test) left)
    (hright : IsStableSort order (items.filter (!test ·)) right)
    (hlt : ∀ a ∈ items, ∀ b ∈ items, test a = true → test b = false → order a b = .lt) :
    IsStableSort order items (left ++ right) := by
  refine of_filter_eq hpreorder ?_ ?_ fun alike htied => ?_
  · exact (hleft.perm.append hright.perm).trans (List.filter_append_perm test items)
  · refine List.pairwise_append.mpr ⟨hleft.pairwise, hright.pairwise, fun a ha b hb => ?_⟩
    rw [hleft.mem_iff, List.mem_filter] at ha
    rw [hright.mem_iff, List.mem_filter, Bool.not_eq_true'] at hb
    simp [hlt a ha.1 b hb.1 ha.2 hb.2]
  · have htiedPart : ∀ part : α → Bool, ∀ a ∈ items.filter part, ∀ b ∈ items.filter part,
        alike a = true → alike b = true → order a b = .eq :=
      fun part a ha b hb => htied a (List.mem_of_mem_filter ha) b (List.mem_of_mem_filter hb)
    rw [List.filter_append, hleft.filter_eq (htiedPart _), hright.filter_eq (htiedPart _)]
    simp only [List.filter_filter]
    -- items that are equal to each other are all in the same part
    have hside : (∀ a ∈ items, alike a = true → test a = true) ∨
        ∀ a ∈ items, alike a = true → test a = false := by
      by_contra hboth
      simp only [not_or, not_forall, Bool.not_eq_true, Bool.not_eq_false] at hboth
      obtain ⟨⟨b, hb, halike', htest'⟩, a, ha, halike, htest⟩ := hboth
      have heq := htied a ha b hb halike halike'
      simp [hlt a ha b hb htest htest'] at heq
    have hall : ∀ part : α → Bool, (∀ a ∈ items, alike a = true → part a = true) →
        items.filter (fun a => alike a && part a) = items.filter alike := by
      intro part hpart
      refine List.filter_congr fun a ha => ?_
      cases halike : alike a with
      | false => rfl
      | true => simp [hpart a ha halike]
    have hnone : ∀ part : α → Bool, (∀ a ∈ items, alike a = true → part a = false) →
        items.filter (fun a => alike a && part a) = [] := by
      intro part hpart
      rw [List.filter_eq_nil_iff]
      intro a ha
      cases halike : alike a with
      | false => simp
      | true => simp [hpart a ha halike]
    rcases hside with hside | hside
    · rw [hall test hside, hnone _ fun a ha halike => by simp [hside a ha halike], List.append_nil]
    · rw [hnone test hside, hall _ fun a ha halike => by simp [hside a ha halike], List.nil_append]

section Parts

variable {left right left' right' : List α}

/-- A preorder of a list is one of its parts sorted, side by side. -/
theorem isPreorderOn_append (hpreorder : IsPreorderOn order (left ++ right))
    (hleft : IsStableSort order left left') (hright : IsStableSort order right right') :
    IsPreorderOn order (left' ++ right') :=
  hpreorder.mono (hleft.perm.append hright.perm).subset

/-- The parts of a list may be sorted before the whole is. -/
theorem of_append (hpreorder : IsPreorderOn order (left ++ right))
    (hleft : IsStableSort order left left') (hright : IsStableSort order right right')
    (h : IsStableSort order (left' ++ right') sorted) :
    IsStableSort order (left ++ right) sorted := by
  have hperm : (left' ++ right').Perm (left ++ right) := hleft.perm.append hright.perm
  refine of_filter_eq hpreorder (h.perm.trans hperm) h.pairwise fun alike htied => ?_
  have htied' : ∀ a ∈ left' ++ right', ∀ b ∈ left' ++ right', alike a = true → alike b = true →
      order a b = .eq := fun a ha b hb => htied a (hperm.mem_iff.mp ha) b (hperm.mem_iff.mp hb)
  rw [h.filter_eq htied', List.filter_append, List.filter_append,
    hleft.filter_eq fun a ha b hb => htied a (List.mem_append_left _ ha) b
      (List.mem_append_left _ hb),
    hright.filter_eq fun a ha b hb => htied a (List.mem_append_right _ ha) b
      (List.mem_append_right _ hb)]

end Parts

/-- A list may be sorted from the back, by the comparison asked the other way round. -/
theorem of_reverse (hpreorder : IsPreorderOn order items)
    (h : IsStableSort (fun a b => order b a) items.reverse sorted) :
    IsStableSort order items sorted.reverse := by
  refine of_filter_eq hpreorder ?_ (List.pairwise_reverse.mpr h.pairwise) fun alike htied => ?_
  · exact (List.reverse_perm _).trans (h.perm.trans (List.reverse_perm _))
  · have htied' : ∀ a ∈ items.reverse, ∀ b ∈ items.reverse, alike a = true → alike b = true →
        order b a = .eq := fun a ha b hb halike halike' =>
      htied b (List.mem_reverse.mp hb) a (List.mem_reverse.mp ha) halike' halike
    rw [List.filter_reverse, h.filter_eq htied', List.filter_reverse, List.reverse_reverse]

end IsStableSort

end SqlGateway
