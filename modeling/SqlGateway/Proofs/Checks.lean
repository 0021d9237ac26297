import Mathlib.Data.List.Forall2

/-!
# Computations that may fail

Every refusal in this library is an `Except` value, and statements are read and checked by sequences
of such computations.  A sequence succeeds exactly when each of its steps does; these lemmas take it
apart, so that no proof has to open a `do` block by hand.
-/

namespace SqlGateway

variable {ε α β : Type}

theorem bind_eq_ok {first : Except ε α} {next : α → Except ε β} {result : β} :
    (first >>= next) = .ok result ↔ ∃ value, first = .ok value ∧ next value = .ok result := by
  cases first <;> simp [bind, Except.bind]

/-- A check has no result of its own: what follows it sees only that it has passed. -/
theorem check_bind_eq_ok {check : Except ε Unit} {next : Unit → Except ε β} {result : β} :
    (check >>= next) = .ok result ↔ check = .ok () ∧ next () = .ok result := by
  cases check <;> simp [bind, Except.bind]

theorem pure_eq_ok {value result : α} :
    (pure value : Except ε α) = .ok result ↔ value = result := by
  simp [pure, Except.pure]

theorem map_eq_ok {first : Except ε α} {f : α → β} {result : β} :
    (f <$> first) = .ok result ↔ ∃ value, first = .ok value ∧ f value = result := by
  cases first <;> simp [Functor.map, Except.map]

theorem forM_eq_ok {check : α → Except ε Unit} {items : List α} :
    items.forM check = .ok () ↔ ∀ item ∈ items, check item = .ok () := by
  induction items with
  | nil => simp [List.forM, pure, Except.pure]
  | cons item rest ih =>
      rw [show (item :: rest).forM check = check item >>= fun _ => rest.forM check from rfl,
        check_bind_eq_ok, List.forall_mem_cons, ih]

theorem optionForM_eq_ok {check : α → Except ε Unit} {item : Option α} :
    item.forM check = .ok () ↔ ∀ value ∈ item, check value = .ok () := by
  cases item <;> simp [Option.forM, pure, Except.pure]

theorem mapM_eq_ok {step : α → Except ε β} {items : List α} {results : List β} :
    items.mapM step = .ok results ↔
      List.Forall₂ (fun item result => step item = .ok result) items results := by
  induction items generalizing results with
  | nil => cases results <;> simp [pure, Except.pure]
  | cons item rest ih =>
      rw [List.mapM_cons, bind_eq_ok]
      constructor
      · rintro ⟨first, hfirst, hrest⟩
        obtain ⟨further, hfurther, hresult⟩ := bind_eq_ok.mp hrest
        rw [← pure_eq_ok.mp hresult]
        exact .cons hfirst (ih.mp hfurther)
      · intro hall
        obtain ⟨first, further, hfirst, hfurther, rfl⟩ := List.forall₂_cons_left_iff.mp hall
        exact ⟨first, hfirst, bind_eq_ok.mpr ⟨further, ih.mpr hfurther, rfl⟩⟩

theorem optionMapM_eq_ok {step : α → Except ε β} {item : Option α} {result : Option β} :
    item.mapM step = .ok result ↔
      Option.Rel (fun item result => step item = .ok result) item result := by
  cases item with
  | none => cases result <;> simp [pure, Except.pure]
  | some item =>
      have hmap : (some item).mapM step = some <$> step item := rfl
      rw [hmap, map_eq_ok]
      cases result <;> simp

theorem exists_eq_ok_of_isOk {computation : Except ε α} (hok : computation.isOk = true) :
    ∃ value, computation = .ok value := by
  cases computation with
  | error e => simp [Except.isOk, Except.toBool] at hok
  | ok value => exact ⟨value, rfl⟩

end SqlGateway
