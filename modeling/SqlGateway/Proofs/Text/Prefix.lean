import Mathlib.Data.List.TakeDrop
import Mathlib.Data.List.TakeWhile

/-!
# Reading as far as a test holds

Every reader of this library takes characters from the front as long as they pass a test.  On a text
that is put together from a stretch that passes and a rest that does not begin with such a
character, it takes just the stretch.
-/

namespace SqlGateway.Text

variable {α : Type} {test : α → Bool} {front rest : List α}

/-- Whether the first element, if there is one, fails a test. -/
def StopsAt (test : α → Bool) (rest : List α) : Prop :=
  ∀ c ∈ rest.head?, test c = false

@[simp] theorem stopsAt_nil : StopsAt test [] := by
  simp [StopsAt]

@[simp] theorem stopsAt_cons {c : α} : StopsAt test (c :: rest) ↔ test c = false := by
  simp [StopsAt]

/-- What is left behind the characters that pass begins with none. -/
theorem stopsAt_dropWhile (test : α → Bool) (text : List α) :
    StopsAt test (text.dropWhile test) := by
  intro c hc
  have hhead := List.head?_dropWhile_not test text
  rwa [Option.mem_def.mp hc] at hhead

/-- A reader that would not go on in the rest takes as much as it takes without the rest. -/
theorem StopsAt.takeWhile_append (hrest : StopsAt test rest) (front : List α) :
    (front ++ rest).takeWhile test = front.takeWhile test := by
  induction front with
  | nil =>
      cases rest with
      | nil => rfl
      | cons c rest => simp [stopsAt_cons.mp hrest]
  | cons c front ih => cases hc : test c <;> simp [hc, ih]

theorem StopsAt.dropWhile_append (hrest : StopsAt test rest) (front : List α) :
    (front ++ rest).dropWhile test = front.dropWhile test ++ rest := by
  have hsplit : front.takeWhile test ++ (front ++ rest).dropWhile test = front ++ rest := by
    rw [← hrest.takeWhile_append front, List.takeWhile_append_dropWhile]
  apply List.append_cancel_left
  rw [hsplit, ← List.append_assoc, List.takeWhile_append_dropWhile]

theorem takeWhile_append_of_stopsAt (hfront : ∀ c ∈ front, test c = true)
    (hrest : StopsAt test rest) : (front ++ rest).takeWhile test = front := by
  rw [hrest.takeWhile_append, List.takeWhile_eq_self_iff.mpr hfront]

theorem dropWhile_append_of_stopsAt (hfront : ∀ c ∈ front, test c = true)
    (hrest : StopsAt test rest) : (front ++ rest).dropWhile test = rest := by
  rw [hrest.dropWhile_append, List.dropWhile_eq_nil_iff.mpr hfront, List.nil_append]

theorem span_append_of_stopsAt (hfront : ∀ c ∈ front, test c = true)
    (hrest : StopsAt test rest) : (front ++ rest).span test = (front, rest) := by
  rw [List.span_eq_takeWhile_dropWhile, takeWhile_append_of_stopsAt hfront hrest,
    dropWhile_append_of_stopsAt hfront hrest]

/-- A text is cut in one place only where the characters before the cut pass a test and the one
behind it fails the test. -/
theorem append_inj_of_stopsAt {front' rest' : List α} (hfront : ∀ c ∈ front, test c = true)
    (hrest : StopsAt test rest) (hfront' : ∀ c ∈ front', test c = true)
    (hrest' : StopsAt test rest') (heq : front ++ rest = front' ++ rest') :
    front = front' ∧ rest = rest' := by
  have htake := congrArg (List.takeWhile test) heq
  have hdrop := congrArg (List.dropWhile test) heq
  rw [takeWhile_append_of_stopsAt hfront hrest, takeWhile_append_of_stopsAt hfront' hrest'] at htake
  rw [dropWhile_append_of_stopsAt hfront hrest, dropWhile_append_of_stopsAt hfront' hrest'] at hdrop
  exact ⟨htake, hdrop⟩

end SqlGateway.Text
