import SqlGateway.Decimal.Layout
import SqlGateway.Proofs.Text.Ascii

/-!
# The characters of numbers

Whole numbers are written in digits after at most one minus sign.  A double that is written out in
full has a point besides, or it is one of the names of infinity and of the value that is no number.
-/

namespace SqlGateway.Decimal

variable {c : Char} {digits : List Char}

theorem isDigit_of_mem_toDigits {n : Nat} : ∀ c ∈ Nat.toDigits 10 n, c.isDigit = true :=
  fun _ hc => Nat.isDigit_of_mem_toDigits (by decide) (by decide) hc

theorem toNat_lt_of_isDigit (hc : c.isDigit = true) : c.toNat < 128 :=
  Text.toNat_lt_of_isAlphanum (by simp [Char.isAlphanum, hc])

/-- A number is written in digits, with a minus sign before them if it is negative. -/
theorem toList_toString_int (n : Int) :
    (0 ≤ n ∧ (toString n).toList = Nat.toDigits 10 n.natAbs) ∨
      (n < 0 ∧ (toString n).toList = '-' :: Nat.toDigits 10 n.natAbs) := by
  cases n with
  | ofNat n =>
      refine .inl ⟨Int.natCast_nonneg n, ?_⟩
      rw [Int.toString_eq_repr, Int.repr, Nat.repr_eq_ofList_toDigits, String.toList_ofList]
      rfl
  | negSucc n =>
      refine .inr ⟨Int.negSucc_lt_zero n, ?_⟩
      rw [Int.toString_eq_repr, Int.repr, Nat.repr_eq_ofList_toDigits]
      simp

theorem toString_int_ne_nil (n : Int) : (toString n).toList ≠ [] := by
  rcases toList_toString_int n with ⟨-, htext⟩ | ⟨-, htext⟩
  · rw [htext]
    exact Nat.toDigits_ne_nil
  · rw [htext]
    exact List.cons_ne_nil _ _

theorem mem_toString_int {n : Int} : ∀ c ∈ (toString n).toList, c.isDigit = true ∨ c = '-' := by
  intro c hc
  rcases toList_toString_int n with ⟨-, htext⟩ | ⟨-, htext⟩
  · rw [htext] at hc
    exact .inl (isDigit_of_mem_toDigits c hc)
  · rw [htext] at hc
    rcases List.mem_cons.mp hc with rfl | hc
    · exact .inr rfl
    · exact .inl (isDigit_of_mem_toDigits c hc)

/-! ### Doubles -/

theorem mem_positionalDigits {exponent : Int} (hdigits : ∀ c ∈ digits, c.isDigit = true) :
    ∀ c ∈ positionalDigits .plain digits exponent, c.isDigit = true ∨ c = '.' := by
  intro c hc
  have hzero : ∀ {n : Nat}, c ∈ List.replicate n '0' → c.isDigit = true := by
    intro n hzero
    rw [(List.mem_replicate.mp hzero).2]
    decide
  rw [positionalDigits] at hc
  split at hc
  · simp only [Layout.plain, List.append_nil, List.mem_append] at hc
    exact .inl (hc.elim (hdigits c) hzero)
  simp only at hc
  split at hc
  · simp only [List.mem_cons, List.mem_append] at hc
    rcases hc with rfl | rfl | hc | hc
    · exact .inl (by decide)
    · exact .inr rfl
    · exact .inl (hzero hc)
    · exact .inl (hdigits c hc)
  · simp only [List.mem_cons, List.mem_append] at hc
    rcases hc with hc | rfl | hc
    · exact .inl (hdigits c (List.mem_of_mem_take hc))
    · exact .inr rfl
    · exact .inl (hdigits c (List.mem_of_mem_drop hc))

/-- The characters of a double that is written out in full. -/
theorem mem_floatText (x : Float) : ∀ c ∈ (floatText .plain x).toList,
    c.isDigit = true ∨ c ∈ ['.', '-', 'N', 'a', 'i', 'n', 'f'] := by
  have hmagnitude : ∀ c ∈ (if x.isInf then ['i', 'n', 'f']
      else (shortest Layout.plain.tie x.toBits).layOut .plain),
      c.isDigit = true ∨ c ∈ ['.', '-', 'N', 'a', 'i', 'n', 'f'] := by
    intro c hc
    split at hc
    · simp only [List.mem_cons, List.not_mem_nil, or_false] at hc
      rcases hc with rfl | rfl | rfl <;> decide
    · rcases mem_positionalDigits isDigit_of_mem_toDigits c hc with hdigit | rfl
      · exact .inl hdigit
      · exact .inr List.mem_cons_self
  intro c hc
  rw [floatText] at hc
  split at hc
  · have hname : ∀ c ∈ "NaN".toList, c ∈ ['.', '-', 'N', 'a', 'i', 'n', 'f'] := by decide
    exact .inr (hname c hc)
  simp only [String.toList_ofList] at hc
  split at hc
  · rcases List.mem_cons.mp hc with rfl | hc
    · exact .inr (by decide)
    · exact hmagnitude c hc
  · exact hmagnitude c hc

theorem floatText_ne_nil (x : Float) : (floatText .plain x).toList ≠ [] := by
  have hdigits : ∀ {n : Nat} {exponent : Int},
      positionalDigits .plain (Nat.toDigits 10 n) exponent ≠ [] := by
    intro n exponent
    have hne := Nat.toDigits_ne_nil (n := n) (b := 10)
    unfold positionalDigits
    split
    · simp [hne]
    · simp only
      split <;> simp
  unfold floatText
  split
  · simp
  · rw [String.toList_ofList]
    split
    · exact List.cons_ne_nil _ _
    · split
      · simp
      · exact hdigits

end SqlGateway.Decimal
