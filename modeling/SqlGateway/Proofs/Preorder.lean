import Mathlib

/-!
# Preorders of the items of a list

Sorting asks of a comparison that it is a total preorder of what is sorted; on other values it may
do what it likes.  So `IsPreorderOn` speaks of the items of a list.  Comparisons are made of others
by asking a second one where the first does not decide, by reversing one and by looking at a part of
the items; each of these keeps a preorder one.
-/

namespace SqlGateway

/-- A comparison finds every item equal to itself, and says the reverse if it is asked the other way
round. -/
structure IsOrientedOn {α : Type} (order : α → α → Ordering) (items : List α) : Prop where
  refl : ∀ a ∈ items, order a a = .eq
  swap : ∀ a ∈ items, ∀ b ∈ items, order b a = (order a b).swap

/-- A comparison is a total preorder of the items, as sorting them asks. -/
structure IsPreorderOn {α : Type} (order : α → α → Ordering) (items : List α) : Prop
    extends IsOrientedOn order items where
  trans : ∀ a ∈ items, ∀ b ∈ items, ∀ c ∈ items,
    order a b ≠ .gt → order b c ≠ .gt → order a c ≠ .gt

section Preorder

variable {α β : Type} {order further : α → α → Ordering} {items : List α}

namespace IsOrientedOn

theorem lex (h : IsOrientedOn order items) (h' : IsOrientedOn further items) :
    IsOrientedOn (fun a b => (order a b).then (further a b)) items where
  refl a ha := by simp only [h.refl a ha, h'.refl a ha, Ordering.eq_then]
  swap a ha b hb := by simp only [h.swap a ha b hb, h'.swap a ha b hb, Ordering.swap_then]

theorem swapped (h : IsOrientedOn order items) :
    IsOrientedOn (fun a b => (order a b).swap) items where
  refl a ha := by simp only [h.refl a ha, Ordering.swap_eq]
  swap a ha b hb := by simp only [h.swap a ha b hb]

theorem comap {order : β → β → Ordering} {f : α → β} (h : IsOrientedOn order (items.map f)) :
    IsOrientedOn (fun a b => order (f a) (f b)) items where
  refl _ ha := h.refl _ (List.mem_map_of_mem ha)
  swap _ ha _ hb := h.swap _ (List.mem_map_of_mem ha) _ (List.mem_map_of_mem hb)

end IsOrientedOn

namespace IsPreorderOn

/-- An item between two equal ones is equal to both. -/
theorem eq_of_eq (h : IsPreorderOn order items) {a b c : α} (ha : a ∈ items) (hb : b ∈ items)
    (hc : c ∈ items) (hab : order a b ≠ .gt) (hbc : order b c ≠ .gt) (hac : order a c = .eq) :
    order a b = .eq ∧ order b c = .eq := by
  have hca : order c a ≠ .gt := by
    rw [h.swap a ha c hc, hac]
    decide
  have hba := h.trans b hb c hc a ha hbc hca
  have hcb := h.trans c hc a ha b hb hca hab
  rw [h.swap a ha b hb] at hba
  rw [h.swap b hb c hc] at hcb
  constructor
  · cases hcase : order a b <;> simp_all
  · cases hcase : order b c <;> simp_all

/-- A second comparison decides between the items that the first one does not tell apart; it needs
to be transitive among such items only. -/
theorem lex (h : IsPreorderOn order items) (h' : IsOrientedOn further items)
    (htrans : ∀ a ∈ items, ∀ b ∈ items, ∀ c ∈ items, order a b = .eq → order b c = .eq →
      further a b ≠ .gt → further b c ≠ .gt → further a c ≠ .gt) :
    IsPreorderOn (fun a b => (order a b).then (further a b)) items where
  toIsOrientedOn := h.toIsOrientedOn.lex h'
  trans a ha b hb c hc hab hbc := by
    have hfirst : ∀ {x y : Ordering}, x.then y ≠ .gt → x ≠ .gt := by
      intro x y hxy hx
      rw [hx] at hxy
      exact hxy rfl
    have hac := h.trans a ha b hb c hc (hfirst hab) (hfirst hbc)
    cases hcase : order a c with
    | lt => simp
    | gt => exact absurd hcase hac
    | eq =>
        obtain ⟨heq, heq'⟩ := h.eq_of_eq ha hb hc (hfirst hab) (hfirst hbc) hcase
        rw [heq, Ordering.eq_then] at hab
        rw [heq', Ordering.eq_then] at hbc
        rw [Ordering.eq_then]
        exact htrans a ha b hb c hc heq heq' hab hbc

theorem swapped (h : IsPreorderOn order items) :
    IsPreorderOn (fun a b => (order a b).swap) items where
  toIsOrientedOn := h.toIsOrientedOn.swapped
  trans a ha b hb c hc hab hbc := by
    rw [← h.swap a ha b hb] at hab
    rw [← h.swap b hb c hc] at hbc
    rw [← h.swap a ha c hc]
    exact h.trans c hc b hb a ha hbc hab

theorem comap {order : β → β → Ordering} {f : α → β} (h : IsPreorderOn order (items.map f)) :
    IsPreorderOn (fun a b => order (f a) (f b)) items where
  toIsOrientedOn := h.toIsOrientedOn.comap
  trans _ ha _ hb _ hc := h.trans _ (List.mem_map_of_mem ha) _ (List.mem_map_of_mem hb) _
    (List.mem_map_of_mem hc)

theorem of_ord [Ord α] [Std.TransOrd α] (items : List α) :
    IsPreorderOn (compare : α → α → Ordering) items where
  refl _ _ := Std.ReflOrd.compare_self
  swap _ _ _ _ := Std.OrientedOrd.eq_swap
  trans _ _ _ _ _ _ hab hbc := by
    simp only [ne_eq, ← Ordering.isLE_iff_ne_gt] at hab hbc ⊢
    exact Std.TransOrd.isLE_trans hab hbc

theorem mono {fewer : List α} (h : IsPreorderOn order items) (hsubset : fewer ⊆ items) :
    IsPreorderOn order fewer where
  refl a ha := h.refl a (hsubset ha)
  swap a ha b hb := h.swap a (hsubset ha) b (hsubset hb)
  trans a ha b hb c hc := h.trans a (hsubset ha) b (hsubset hb) c (hsubset hc)

/-- Items that are equal to one item do not come behind each other. -/
theorem ne_gt_of_eq (h : IsPreorderOn order items) {a b c : α} (ha : a ∈ items) (hb : b ∈ items)
    (hc : c ∈ items) (hab : order a b = .eq) (hac : order a c = .eq) : order b c ≠ .gt := by
  refine h.trans b hb a ha c hc ?_ (by rw [hac]; decide)
  rw [h.swap a ha b hb, hab]
  decide

end IsPreorderOn

end Preorder

end SqlGateway
