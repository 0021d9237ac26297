import SqlGateway.Identifier
import SqlGateway.Proofs.Text.Ascii

/-!
# What a plain identifier holds

A plain identifier is never empty, and none of its characters separates anything in a request: no
comma, no colon, no star and no blank.
-/

namespace SqlGateway

@[simp] theorem checkIdentifier_eq_ok {name : String} :
    checkIdentifier name = .ok () ↔ isIdentifier name = true := by
  unfold checkIdentifier
  split <;> simp_all

theorem isIdentifierPart_of_isIdentifierStart {c : Char} (hc : isIdentifierStart c = true) :
    isIdentifierPart c = true := by
  simp only [isIdentifierStart, isIdentifierPart, Char.isAlphanum, Bool.or_eq_true] at hc ⊢
  exact hc.imp_left Or.inl

theorem toNat_lt_of_isIdentifierPart {c : Char} (hc : isIdentifierPart c = true) :
    c.toNat < 128 := by
  simp only [isIdentifierPart, Bool.or_eq_true, beq_iff_eq] at hc
  rcases hc with hc | rfl
  · exact Text.toNat_lt_of_isAlphanum hc
  · decide

theorem isBlank_eq_false_of_isIdentifierPart {c : Char} (hc : isIdentifierPart c = true) :
    Text.isBlank c = false :=
  Text.forall_ascii (p := fun c => isIdentifierPart c = true → Text.isBlank c = false)
    (by decide) (toNat_lt_of_isIdentifierPart hc) hc

/-- The characters of a plain identifier are ASCII letters, digits and underscores. -/
theorem isIdentifierPart_of_mem {name : String} (hname : isIdentifier name = true) {c : Char}
    (hc : c ∈ name.toList) : isIdentifierPart c = true := by
  unfold isIdentifier at hname
  cases h : name.toList with
  | nil => simp [h] at hc
  | cons first rest =>
      rw [h] at hname hc
      rw [isIdentifierChars, Bool.and_eq_true] at hname
      rcases List.mem_cons.mp hc with rfl | hrest
      · exact isIdentifierPart_of_isIdentifierStart hname.1
      · exact List.all_eq_true.mp hname.2 c hrest

theorem toList_ne_nil_of_isIdentifier {name : String} (hname : isIdentifier name = true) :
    name.toList ≠ [] := by
  intro h
  simp [isIdentifier, h, isIdentifierChars] at hname

theorem not_mem_of_isIdentifier {name : String} (hname : isIdentifier name = true) {c : Char}
    (hc : isIdentifierPart c = false) : c ∉ name.toList := by
  intro hmem
  simp [isIdentifierPart_of_mem hname hmem] at hc

end SqlGateway
