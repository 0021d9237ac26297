import SqlGateway.Decimal.Digits

/-!
# Numerals

A numeral is written in digits after at most one sign.  The three readers of whole numbers differ in
the signs and in the numbers that they allow; each finds the number that a numeral denotes.
-/

namespace SqlGateway.Decimal

variable {text digits : List Char} {n : Int} {m : Nat}

/-- The integer that digits after at most one sign denote. -/
inductive DenotesInt : List Char → Int → Prop
  | plain {digits : List Char} (hne : digits ≠ []) (hdigits : ∀ c ∈ digits, c.isDigit = true) :
      DenotesInt digits (ofDigits digits)
  | plus {digits : List Char} (hne : digits ≠ []) (hdigits : ∀ c ∈ digits, c.isDigit = true) :
      DenotesInt ('+' :: digits) (ofDigits digits)
  | minus {digits : List Char} (hne : digits ≠ []) (hdigits : ∀ c ∈ digits, c.isDigit = true) :
      DenotesInt ('-' :: digits) (-(ofDigits digits : Int))

theorem readNat?_eq_some :
    readNat? digits = some m ↔
      digits ≠ [] ∧ (∀ c ∈ digits, c.isDigit = true) ∧ ofDigits digits = m := by
  simp [readNat?, and_assoc]

/-- No digit is a sign. -/
theorem head?_ne_of_isDigit (hdigits : ∀ c ∈ digits, c.isDigit = true) :
    digits.head? ≠ some '-' ∧ digits.head? ≠ some '+' := by
  have hfirst : ∀ c, digits.head? = some c → c.isDigit = true := by
    intro c hhead
    exact hdigits c (List.mem_of_mem_head? hhead)
  constructor
  · intro hminus
    exact absurd (hfirst _ hminus) (by decide)
  · intro hplus
    exact absurd (hfirst _ hplus) (by decide)

/-- Without a sign the digits alone are read. -/
theorem readInt?_of_head?_ne (hminus : text.head? ≠ some '-') (hplus : text.head? ≠ some '+') :
    readInt? text = (readNat? text).map fun (m : Nat) => (m : Int) := by
  unfold readInt?
  split <;> simp_all

theorem readInt?_eq_some : readInt? text = some n ↔ DenotesInt text n := by
  constructor
  · intro hread
    unfold readInt? at hread
    split at hread
    · obtain ⟨m, hm, rfl⟩ := Option.map_eq_some_iff.mp hread
      obtain ⟨hne, hdigits, rfl⟩ := readNat?_eq_some.mp hm
      exact .minus hne hdigits
    · obtain ⟨m, hm, rfl⟩ := Option.map_eq_some_iff.mp hread
      obtain ⟨hne, hdigits, rfl⟩ := readNat?_eq_some.mp hm
      exact .plus hne hdigits
    · obtain ⟨m, hm, rfl⟩ := Option.map_eq_some_iff.mp hread
      obtain ⟨hne, hdigits, rfl⟩ := readNat?_eq_some.mp hm
      exact .plain hne hdigits
  · intro hnumeral
    cases hnumeral with
    | plain hne hdigits =>
        obtain ⟨hminus, hplus⟩ := head?_ne_of_isDigit hdigits
        rw [readInt?_of_head?_ne hminus hplus, readNat?_eq_some.mpr ⟨hne, hdigits, rfl⟩]
        rfl
    | plus hne hdigits | minus hne hdigits =>
        rw [readInt?, readNat?_eq_some.mpr ⟨hne, hdigits, rfl⟩]
        rfl

theorem DenotesInt.unique {n' : Int} (hn : DenotesInt text n) (hn' : DenotesInt text n') : n = n' :=
  Option.some.inj ((readInt?_eq_some.mpr hn).symm.trans (readInt?_eq_some.mpr hn'))

theorem readInt64?_eq_some :
    readInt64? text = some n ↔ DenotesInt text n ∧ minInt64 ≤ n ∧ n ≤ maxInt64 := by
  rw [readInt64?, Option.filter_eq_some_iff, readInt?_eq_some, isInt64, Bool.and_eq_true,
    decide_eq_true_eq, decide_eq_true_eq]

/-- An unsigned number is a numeral without a minus sign. -/
theorem readUInt64?_eq_some :
    readUInt64? text = some m ↔ DenotesInt text m ∧ text.head? ≠ some '-' ∧ m ≤ maxUInt64 := by
  have hread : ∀ digits, (readNat? digits).filter (· ≤ maxUInt64) = some m ↔
      (digits ≠ [] ∧ (∀ c ∈ digits, c.isDigit = true) ∧ ofDigits digits = m) ∧ m ≤ maxUInt64 := by
    intro digits
    rw [Option.filter_eq_some_iff, readNat?_eq_some, decide_eq_true_eq]
  unfold readUInt64?
  split
  · rename_i digits
    rw [hread]
    constructor
    · rintro ⟨⟨hne, hdigits, rfl⟩, hsmall⟩
      exact ⟨.plus hne hdigits, by simp, hsmall⟩
    · rintro ⟨hnumeral, -, hsmall⟩
      generalize hn : (m : Int) = n at hnumeral
      cases hnumeral with
      | plain _ hdigits => exact absurd rfl (head?_ne_of_isDigit hdigits).2
      | plus hne hdigits => exact ⟨⟨hne, hdigits, by omega⟩, hsmall⟩
  · rename_i hplus
    rw [hread]
    constructor
    · rintro ⟨⟨hne, hdigits, rfl⟩, hsmall⟩
      exact ⟨.plain hne hdigits, (head?_ne_of_isDigit hdigits).1, hsmall⟩
    · rintro ⟨hnumeral, hminus, hsmall⟩
      generalize hn : (m : Int) = n at hnumeral
      cases hnumeral with
      | plain hne hdigits => exact ⟨⟨hne, hdigits, by omega⟩, hsmall⟩
      | plus => exact absurd rfl (hplus _)
      | minus => exact absurd rfl hminus

end SqlGateway.Decimal
