import SqlGateway.Proofs.Sql.Lowering

/-!
# Negation stays within 64 bits

A minus sign before an operand is put on after the operand has been read, without a check of the
range.  It needs none: a number without a sign of its own is at least zero, so the only integer of
64 bits without an opposite, the least one, is never read, and what signs make of the others keeps

  `-maxInt64 ≤ n ∧ n ≤ maxInt64`

The invariant is `Value.IsNegatable`.  It holds of what a number is read as, and a sign keeps it.
-/

namespace SqlGateway

open Decimal

/-- Every integer in a value, at whatever depth, has an opposite of 64 bits. -/
inductive Value.IsNegatable : Value → Prop
  | null : IsNegatable .null
  | bool (b : Bool) : IsNegatable (.bool b)
  | int {n : Int} : -maxInt64 ≤ n → n ≤ maxInt64 → IsNegatable (.int n)
  | float (x : Float) : IsNegatable (.float x)
  | string (text : String) : IsNegatable (.string text)
  | list {items : List Value} : (∀ item ∈ items, IsNegatable item) → IsNegatable (.list items)

theorem Value.isNegatable_int {n : Int} :
    (Value.int n).IsNegatable ↔ -maxInt64 ≤ n ∧ n ≤ maxInt64 := by
  constructor
  · rintro (_ | _ | ⟨hleast, hgreatest⟩)
    exact ⟨hleast, hgreatest⟩
  · rintro ⟨hleast, hgreatest⟩
    exact .int hleast hgreatest

/-- The least integer of 64 bits lies one below all that have an opposite. -/
theorem minInt64_eq : minInt64 = -maxInt64 - 1 := by decide

namespace Sql

variable {text : List Char} {value : Value}

/-! ### Numbers and signs -/

/-- Without a minus sign at its front a number is at least zero. -/
theorem nonneg_of_denotesInt {n : Int} (hfront : text.head? ≠ some '-')
    (hnumeral : DenotesInt text n) : 0 ≤ n := by
  cases hnumeral with
  | plain | plus => exact Int.natCast_nonneg _
  | minus => exact absurd rfl hfront

theorem isNegatable_of_isNumber (hfront : text.head? ≠ some '-')
    (hnumber : Value.IsNumber text value) : value.IsNegatable := by
  cases hnumber with
  | @int n hnumeral hleast hgreatest =>
      have hnonneg : 0 ≤ n := nonneg_of_denotesInt hfront hnumeral
      refine .int ?_ hgreatest
      omega
  | float _ _ => exact .float _

namespace Expr

variable {e child : Expr}

/-! ### Expressions -/

/-- An expression is no number, or a number without a minus sign of its own. -/
def IsUnsigned (e : Expr) : Prop :=
  ∀ text isLong, e = literal (.number text isLong) → text.toList.head? ≠ some '-'

/-- The numbers in an expression, wherever they stand, have no minus sign of their own. -/
def HasUnsignedNumbers (e : Expr) : Prop :=
  ∀ node : Expr, node.IsPart e → node.IsUnsigned

theorem HasUnsignedNumbers.of_isPart {part : Expr} (hnumbers : e.HasUnsignedNumbers)
    (hpart : part.IsPart e) : part.HasUnsignedNumbers :=
  fun node hnode => hnumbers node (hnode.trans hpart)

theorem HasUnsignedNumbers.of_isChild (hnumbers : e.HasUnsignedNumbers) (hchild : child.IsChild e) :
    child.HasUnsignedNumbers :=
  hnumbers.of_isPart (.single hchild)

theorem hasUnsignedNumbers_of_children (hself : e.IsUnsigned)
    (hchildren : ∀ child : Expr, child.IsChild e → child.HasUnsignedNumbers) :
    e.HasUnsignedNumbers :=
  forall_isPart hself hchildren

theorem hasUnsignedNumbers_number {text : String} {isLong : Bool}
    (hfront : text.toList.head? ≠ some '-') :
    (literal (.number text isLong)).HasUnsignedNumbers := by
  refine hasUnsignedNumbers_of_children ?_ nofun
  rintro _ _ ⟨⟩
  exact hfront

theorem HasUnsignedNumbers.minus (hnumbers : e.HasUnsignedNumbers) :
    (unary .minus e).HasUnsignedNumbers := by
  refine hasUnsignedNumbers_of_children nofun ?_
  rintro _ ⟨⟩
  exact hnumbers

theorem HasUnsignedNumbers.group (hnumbers : e.HasUnsignedNumbers) :
    (group e).HasUnsignedNumbers := by
  refine hasUnsignedNumbers_of_children nofun ?_
  rintro _ ⟨⟩
  exact hnumbers

theorem hasUnsignedNumbers_tuple {items : List Expr}
    (hitems : ∀ item ∈ items, item.HasUnsignedNumbers) : (tuple items).HasUnsignedNumbers := by
  refine hasUnsignedNumbers_of_children nofun fun child hchild => ?_
  cases hchild with
  | tuple hitem => exact hitems child hitem

mutual

/-- What an expression stands for is negatable, by induction on why it does. -/
theorem Denotes.isNegatable {e : Expr} {value : Value} (hdenotes : e.Denotes value)
    (hnumbers : e.HasUnsignedNumbers) : value.IsNegatable := by
  cases hdenotes with
  | null => exact .null
  | bool b => exact .bool b
  | string _ text => exact .string text
  | name id => exact .string id.text
  | number hnumber => exact isNegatable_of_isNumber (hnumbers _ .refl _ _ rfl) hnumber
  | group hinner => exact hinner.isNegatable (hnumbers.of_isChild (.group _))
  | plus hoperand => exact hoperand.isNegatable (hnumbers.of_isChild (.unary .plus _))
  | minusInt hoperand =>
      -- the range that is kept is as far on both sides of zero
      obtain ⟨hleast, hgreatest⟩ := Value.isNegatable_int.mp
        (hoperand.isNegatable (hnumbers.of_isChild (.unary .minus _)))
      apply Value.IsNegatable.int
      · omega
      · omega
  | minusFloat => exact .float _
  | tuple hitems =>
      exact .list (hitems.isNegatable fun _ hitem => hnumbers.of_isChild (.tuple hitem))

theorem DenoteAll.isNegatable {items : List Expr} {values : List Value}
    (hdenote : DenoteAll items values) (hnumbers : ∀ item ∈ items, item.HasUnsignedNumbers) :
    ∀ value ∈ values, value.IsNegatable := by
  cases hdenote with
  | nil => exact List.forall_mem_nil _
  | cons hfirst hrest =>
      obtain ⟨hfront, hback⟩ := List.forall_mem_cons.mp hnumbers
      exact List.forall_mem_cons.mpr ⟨hfirst.isNegatable hfront, hrest.isNegatable hback⟩

end

/-- If the numbers of an expression have no sign of their own, every integer in its value has an
opposite of 64 bits, and no minus sign in the expression is ever put before the least integer. -/
theorem toValue_isNegatable (hnumbers : e.HasUnsignedNumbers) :
    (∀ value, e.toValue = .ok value → value.IsNegatable) ∧
    ∀ operand n, (unary .minus operand).IsPart e → operand.toValue = .ok (.int n) →
      n ≠ minInt64 ∧ isInt64 (-n) = true := by
  refine ⟨fun value hvalue => (toValue_eq_ok.mp hvalue).isNegatable hnumbers, ?_⟩
  intro operand n hpart hoperand
  have hnegatable : (Value.int n).IsNegatable := (toValue_eq_ok.mp hoperand).isNegatable
    ((hnumbers.of_isPart hpart).of_isChild (.unary .minus operand))
  obtain ⟨hleast, hgreatest⟩ := Value.isNegatable_int.mp hnegatable
  have hmin := minInt64_eq
  constructor
  · omega
  · simp only [isInt64, Bool.and_eq_true, decide_eq_true_eq]
    omega

/-- The greatest integer behind two signs, beside the magnitude of the least one behind one sign. -/
theorem toValue_isNegatable_tuple :
    (∀ value,
      (tuple [unary .minus (group (unary .minus (literal (.number "9223372036854775807" false)))),
        unary .minus (literal (.number "9223372036854775808" false))]).toValue = .ok value →
          value.IsNegatable) ∧
      (-9223372036854775807 : Int) ≠ minInt64 ∧ isInt64 9223372036854775807 = true := by
  have hgreatest :
      (literal (.number "9223372036854775807" false)).HasUnsignedNumbers :=
    hasUnsignedNumbers_number (by decide)
  have hleast : (literal (.number "9223372036854775808" false)).HasUnsignedNumbers :=
    hasUnsignedNumbers_number (by decide)
  have htuple : (tuple
      [unary .minus (group (unary .minus (literal (.number "9223372036854775807" false)))),
        unary .minus (literal (.number "9223372036854775808" false))]).HasUnsignedNumbers := by
    refine hasUnsignedNumbers_tuple fun item hitem => ?_
    rcases List.mem_pair.mp hitem with rfl | rfl
    · exact hgreatest.minus.group.minus
    · exact hleast.minus
  obtain ⟨hvalues, hsigns⟩ := toValue_isNegatable htuple
  refine ⟨hvalues, ?_⟩
  have hsign := hsigns (group (unary .minus (literal (.number "9223372036854775807" false))))
    (-9223372036854775807) (.single (.tuple List.mem_cons_self)) rfl
  simpa using hsign

end Expr

end Sql

end SqlGateway
