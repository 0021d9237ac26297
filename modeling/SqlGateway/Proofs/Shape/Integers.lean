import SqlGateway.Proofs.Shape.Items
import SqlGateway.Proofs.Sql.Parser.Meaning

/-!
# Integers on every way of reading

An integer of 64 bits is read as a bare token, as an entry of a list of values, as the operand of a
short condition, and as an expression of the grammar.  The first three take the sign and the digits
together.  The grammar reads the sign as an operator before the digits, so there the magnitude is
read first, and the magnitude of the least integer is too large: it becomes a double, and so does
what the sign is put before.
-/

namespace SqlGateway

open Decimal Sql

namespace Sql

/-- The expression of an integer: its magnitude, behind a sign if it is negative. -/
def Expr.ofInt (n : Int) : Expr :=
  let magnitude : Expr := .literal (.number (toString n.natAbs) false)
  if n < 0 then .unary .minus magnitude else magnitude

end Sql

namespace Shape

variable {n : Int} {column : String}

/-- The grammar reads this expression from the text of the integer. -/
theorem exists_written_ofInt (byWord : Bool) (n : Int) : ∃ written,
    Writes (toString n).toList written ∧ Parser.IsOperand byWord written (Expr.ofInt n) := by
  rw [Expr.ofInt, Nat.toString_eq_ofList_toDigits]
  rcases toList_toString_int n with ⟨hn, htext⟩ | ⟨hn, htext⟩
  · rw [htext, if_neg (by omega)]
    exact ⟨_, writes_number (isUnsigned_toDigits _), Parser.isOperand_number _⟩
  · rw [htext, if_pos hn]
    exact ⟨_, writes_negative (isUnsigned_toDigits _), Parser.isOperand_negative _⟩

theorem toValue_magnitude {m : Nat} (hm : isInt64 m = true) :
    (Expr.literal (.number (toString m) false)).toValue = .ok (.int m) := by
  have hnumeral : Value.ofNumeral? (toString (m : Int)).toList = some (.int m) :=
    ofNumeral?_toString hm
  have htext : toString (m : Int) = toString m := rfl
  rw [Expr.toValue, Literal.toValue, ← htext, hnumeral]

/-- The magnitude of the least integer is read as a double. -/
theorem toValue_magnitude_least :
    (Expr.literal (.number (toString minInt64.natAbs) false)).toValue =
      .ok (.float (nearestFloat minInt64.natAbs 0)) := by
  have htext : (toString minInt64.natAbs).toList = "9223372036854775808".toList := by decide
  rw [Expr.toValue, Literal.toValue, htext]
  rfl

/-- An integer becomes a double on the way through the grammar exactly if it is the least one. -/
theorem toValue_ofInt (hn : isInt64 n = true) :
    (Expr.ofInt n).toValue = .ok (if n = minInt64 then .float (floatOfInt n) else .int n) := by
  have hnegated : ∀ {e : Expr} {value : Value}, e.toValue = .ok value →
      (Expr.unary .minus e).toValue = negated value := by
    intro e value he
    rw [Expr.toValue, he]
    rfl
  have hrange : minInt64 ≤ n ∧ n ≤ maxInt64 := by simpa [isInt64] using hn
  have hbounds : minInt64 = -(maxInt64 + 1) ∧ 0 < maxInt64 := by decide
  rw [Expr.ofInt]
  by_cases hleast : n = minInt64
  · subst hleast
    have hneg : minInt64 < 0 := by omega
    rw [if_pos hneg, if_pos rfl, hnegated toValue_magnitude_least, floatOfInt, if_pos hneg]
    rfl
  · have hmagnitude : isInt64 n.natAbs = true := by
      simp only [isInt64, Bool.and_eq_true, decide_eq_true_eq]
      omega
    rw [if_neg hleast]
    split
    · have hvalue : -(n.natAbs : Int) = n := by omega
      rw [hnegated (toValue_magnitude hmagnitude), negated, hvalue]
    · have hvalue : (n.natAbs : Int) = n := by omega
      rw [toValue_magnitude hmagnitude, hvalue]

/-- An integer of 64 bits is read as itself as a bare token, as a list of values and as the operand
of a condition.  The expression that the grammar makes of it, wherever it stands, has this value
too, but for the least integer, which becomes the double of that value. -/
theorem readings_toString (hn : isInt64 n = true) (hcolumn : isIdentifier column = true) :
    Value.ofToken (toString n).toList = .int n ∧
      readValues (toString n).toList = .ok [.int n] ∧
      readCondition? (column ++ " = " ++ toString n).toList =
        some { column, op := .eq, value := .int n } ∧
      (∀ byWord, ∃ written, Writes (toString n).toList written ∧
        Parser.IsOperand byWord written (Expr.ofInt n)) ∧
      (Expr.ofInt n).toValue = .ok (if n = minInt64 then .float (floatOfInt n) else .int n) := by
  have hchars : (Value.int n).sqlChars = (toString n).toList := by rw [Value.sqlChars]
  refine ⟨?_, ?_, ?_, fun byWord => exists_written_ofInt byWord n, toValue_ofInt hn⟩
  · rw [← hchars]
    exact ofToken_sqlChars (.int hn)
  · have hlist : listText Value.sqlChars [.int n] = (toString n).toList := by
      simp [listText, hchars]
    rw [← hlist]
    exact readValues_listText (by simp) (by simpa using .int hn)
  · have hc : Comparison.IsShort { column, op := .eq, value := .int n } :=
      { isIdentifier := hcolumn
        op := by simp
        isShort := .int hn
        isOperand := .inl ⟨n, rfl⟩ }
    have htext : (column ++ " = " ++ toString n).toList =
        (Comparison.sqlText { column, op := .eq, value := .int n }).toList := by
      rw [toList_comparison, hchars]
      simp [Operator.symbol]
    rw [htext]
    exact readCondition?_sqlText hc

/-- The integer next to the least one. -/
theorem readings_toString_next :
    Value.ofToken "-9223372036854775807".toList = .int (-9223372036854775807) ∧
      readValues "-9223372036854775807".toList = .ok [.int (-9223372036854775807)] ∧
      readCondition? "c = -9223372036854775807".toList =
        some { column := "c", op := .eq, value := .int (-9223372036854775807) } ∧
      (Expr.ofInt (-9223372036854775807)).toValue = .ok (.int (-9223372036854775807)) := by
  obtain ⟨htoken, hvalues, hcondition, -, hexpression⟩ :=
    readings_toString (n := -9223372036854775807) (show isInt64 _ = true by decide)
      (show isIdentifier "c" = true by decide)
  exact ⟨htoken, hvalues, hcondition, hexpression⟩

/-- The expression of the least integer is read as a double. -/
theorem not_forall_toValue_ofInt :
    ¬∀ n : Int, isInt64 n = true → (Expr.ofInt n).toValue = .ok (.int n) := by
  intro hexact
  have hleast : isInt64 minInt64 = true := by decide
  have hvalue := hexact minInt64 hleast
  rw [toValue_ofInt hleast, if_pos rfl] at hvalue
  cases hvalue

end Shape

end SqlGateway
