import SqlGateway.Text.Blank

/-!
# ASCII characters one by one

Most character classes of this library are ASCII, and how two of them lie to each other is settled
by looking at the 128 characters.
-/

namespace SqlGateway.Text

/-- What holds of the characters of a list is decided by going through the list.  Libraries can go
through all characters there are, which must not be tried first. -/
instance (priority := high) decidableForallMem {p : Char → Prop} [DecidablePred p]
    (text : List Char) : Decidable (∀ c ∈ text, p c) :=
  List.decidableBAll p text

/-- What holds of each of the first 128 characters holds of every ASCII character. -/
theorem forall_ascii {p : Char → Prop} (hall : ∀ n : Fin 128, p (Char.ofNat n)) {c : Char}
    (hc : c.toNat < 128) : p c := by
  have h := hall ⟨c.toNat, hc⟩
  simpa using h

theorem toNat_lt_of_isAlphanum {c : Char} (hc : c.isAlphanum = true) : c.toNat < 128 := by
  have hval : c.toNat = c.val.toNat := rfl
  have hZ : 'Z'.val.toNat = 90 := rfl
  have hz : 'z'.val.toNat = 122 := rfl
  have h9 : '9'.val.toNat = 57 := rfl
  unfold Char.isAlphanum Char.isAlpha Char.isUpper Char.isLower Char.isDigit at hc
  simp only [Bool.or_eq_true, Bool.and_eq_true, decide_eq_true_eq, UInt32.le_iff_toNat_le,
    ge_iff_le] at hc
  omega

end SqlGateway.Text
