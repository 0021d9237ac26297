import SqlGateway.Text.Doubled

/-!
# Reading doubled quotes

A text between quotes is read back exactly when it is written with its quotes doubled, and the quote
that ends it is not followed by another one.
-/

namespace SqlGateway.Text

variable {quote : Char} {text content rest : List Char}

@[simp] theorem doubled_nil : doubled quote [] = [] := rfl

theorem doubled_cons_self : doubled quote (quote :: content) =
    quote :: quote :: doubled quote content := by
  simp [doubled]

theorem doubled_cons_of_ne {c : Char} (hc : c ≠ quote) :
    doubled quote (c :: content) = c :: doubled quote content := by
  simp [doubled, hc]

theorem readQuoted?_cons_of_ne {c : Char} (hc : c ≠ quote) :
    readQuoted? quote (c :: text) =
      (readQuoted? quote text).map fun (content, behind) => (c :: content, behind) := by
  cases text with
  | nil => simp [readQuoted?, hc]
  | cons d text => simp [readQuoted?, hc]

theorem readQuoted?_doubled (hrest : rest.head? ≠ some quote) :
    readQuoted? quote (doubled quote content ++ quote :: rest) = some (content, rest) := by
  induction content with
  | nil =>
      cases rest with
      | nil => simp [readQuoted?]
      | cons d rest =>
          have hd : d ≠ quote := by simpa using hrest
          simp [readQuoted?, hd]
  | cons c content ih =>
      by_cases hc : c = quote
      · subst hc
        simp [readQuoted?, doubled_cons_self, ih]
      · rw [doubled_cons_of_ne hc, List.cons_append, readQuoted?_cons_of_ne hc, ih]
        rfl

theorem readQuoted?_eq_some :
    readQuoted? quote text = some (content, rest) ↔
      text = doubled quote content ++ quote :: rest ∧ rest.head? ≠ some quote := by
  constructor
  · intro h
    fun_induction readQuoted? quote text generalizing content rest with
    -- the end of the text
    | case1 => simp at h
    -- a quote at the end of the text closes
    | case2 =>
        cases h
        exact ⟨rfl, by simp⟩
    -- any other character at the end
    | case3 => simp at h
    -- a character that is no quote
    | case4 c d text hc ih =>
        obtain ⟨⟨inner, behind⟩, hinner, heq⟩ := Option.map_eq_some_iff.mp h
        cases heq
        obtain ⟨htext, hbehind⟩ := ih hinner
        exact ⟨by rw [doubled_cons_of_ne hc, htext]; rfl, hbehind⟩
    -- a doubled quote
    | case5 c text hc ih =>
        obtain ⟨⟨inner, behind⟩, hinner, heq⟩ := Option.map_eq_some_iff.mp h
        cases heq
        obtain ⟨htext, hbehind⟩ := ih hinner
        rw [Decidable.not_not.mp hc, doubled_cons_self, htext]
        exact ⟨rfl, hbehind⟩
    -- a quote before another character closes
    | case6 c d text hc hd =>
        cases h
        rw [Decidable.not_not.mp hc]
        exact ⟨rfl, by simpa using hd⟩
  · rintro ⟨rfl, hrest⟩
    exact readQuoted?_doubled hrest

/-- A text in which the quote stands only in pairs. -/
inductive IsPaired (quote : Char) : List Char → Prop
  | nil : IsPaired quote []
  | other {c : Char} {text : List Char} : c ≠ quote → IsPaired quote text →
      IsPaired quote (c :: text)
  | pair {text : List Char} : IsPaired quote text → IsPaired quote (quote :: quote :: text)

/-- The texts with their quotes doubled are those in which the quote stands only in pairs. -/
theorem isPaired_iff : IsPaired quote text ↔ ∃ content, text = doubled quote content := by
  constructor
  · intro hpaired
    induction hpaired with
    | nil => exact ⟨[], rfl⟩
    | @other c text hc _ ih =>
        obtain ⟨content, rfl⟩ := ih
        exact ⟨c :: content, (doubled_cons_of_ne hc).symm⟩
    | pair _ ih =>
        obtain ⟨content, rfl⟩ := ih
        exact ⟨quote :: content, doubled_cons_self.symm⟩
  · rintro ⟨content, rfl⟩
    induction content with
    | nil => exact .nil
    | cons c content ih =>
        by_cases hc : c = quote
        · rw [hc, doubled_cons_self]
          exact .pair ih
        · rw [doubled_cons_of_ne hc]
          exact .other hc ih

/-- Joining the pairs undoes the doubling. -/
theorem undoubled_doubled : undoubled quote (doubled quote content) = content := by
  induction content with
  | nil => rfl
  | cons c content ih =>
      by_cases hc : c = quote
      · subst hc
        simp [doubled_cons_self, undoubled, ih]
      · rw [doubled_cons_of_ne hc]
        cases hrest : doubled quote content with
        | nil =>
            rw [hrest] at ih
            rw [← ih]
            rfl
        | cons d rest =>
            rw [hrest] at ih
            simp [undoubled, hc, ih]

end SqlGateway.Text
