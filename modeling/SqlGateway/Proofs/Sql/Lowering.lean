import Mathlib.Logic.Relation
import SqlGateway.Proofs.Decimal.Text
import SqlGateway.Proofs.Request.Clause
import SqlGateway.Proofs.Sql.Modifiers

/-!
# Conditions are lowered as a whole or not at all

Three recursions lower a condition: one for clauses, one for columns and one for values.  The main
statement has two sides.  A clause comes back from every expression that spells it, with whatever
parentheses around any part of it.  And an expression with a node that the gateway cannot serve is
refused, however deep the node stands: a lowered expression is sound, that is, it has no such node,
and neither has an expression that names a column or stands for a value.
-/

namespace SqlGateway

/-! ### Clauses that can be spelled -/

/-- A single value without a fraction.  The least integer is left out, as its magnitude is no
integer of 64 bits. -/
inductive Value.IsScalar : Value → Prop
  | null : IsScalar .null
  | bool (b : Bool) : IsScalar (.bool b)
  | int {n : Int} : Decimal.minInt64 < n → n ≤ Decimal.maxInt64 → IsScalar (.int n)
  | string (text : String) : IsScalar (.string text)

/-- A comparison with a value of the kind that its operator expects. -/
inductive Comparison.IsServed : Comparison → Prop
  | compare {column : String} {op : Operator} {value : Value} :
      op ∈ [Operator.eq, .neq, .gt, .gte, .lt, .lte] → value.IsScalar →
        IsServed { column, op, value }
  | like {column : String} {op : Operator} (pattern : String) : op ∈ [Operator.like, .ilike] →
      IsServed { column, op, value := .string pattern }
  | isIn {column : String} {values : List Value} : values ≠ [] →
      (∀ value ∈ values, value.IsScalar) → IsServed { column, op := .isIn, value := .list values }
  | isNull {column : String} : IsServed { column, op := .is, value := .null }
  | isBool {column : String} (b : Bool) : IsServed { column, op := .is, value := .bool b }

/-- Only a membership has a list on its right. -/
theorem Comparison.IsServed.isScalar {c : Comparison} (hserved : c.IsServed) (hop : c.op ≠ .isIn) :
    c.value.IsScalar := by
  cases hserved with
  | compare _ hvalue => exact hvalue
  | like pattern _ => exact .string pattern
  | isIn _ _ => exact absurd rfl hop
  | isNull => exact .null
  | isBool b => exact .bool b

namespace Sql

namespace Expr

/-! ### Spelling -/

/-- A literal for a value; a negative number is a minus sign before a positive one. -/
inductive SpellsValue : Expr → Value → Prop
  | null : SpellsValue (literal .null) .null
  | bool (b : Bool) : SpellsValue (literal (.bool b)) (.bool b)
  | string (quote : Char) (text : String) :
      SpellsValue (literal (.string quote text)) (.string text)
  | number {text : String} {isLong : Bool} : text.toList ≠ [] →
      (∀ c ∈ text.toList, c.isDigit = true) →
        SpellsValue (literal (.number text isLong)) (.int (Decimal.ofDigits text.toList))
  | negative {operand : Expr} {n : Int} : 0 < n → SpellsValue operand (.int n) →
      SpellsValue (unary .minus operand) (.int (-n))
  | group {inner : Expr} {value : Value} : SpellsValue inner value → SpellsValue (group inner) value

/-- An expression for a clause, any part of it perhaps in parentheses. -/
inductive Spells : Expr → Predicate → Prop
  | group {inner : Expr} {clause : Predicate} : Spells inner clause → Spells (group inner) clause
  | and {left right : Expr} {first second : Predicate} : Spells left first → Spells right second →
      Spells (binary left .and right) (.and first second)
  | or {left right : Expr} {first second : Predicate} : Spells left first → Spells right second →
      Spells (binary left .or right) (.or first second)
  | compare {left right : Expr} {sign : BinaryOp} {column : String} {op : Operator}
      {value : Value} :
      (sign, op) ∈ comparisonSigns → left.NamesColumn column → right.SpellsValue value →
        Spells (binary left sign right) (.compare { column, op, value })
  | inList {operand : Expr} {items : List Expr} {column : String} {values : List Value} :
      operand.NamesColumn column → List.Forall₂ SpellsValue items values →
        Spells (inList operand items false)
          (.compare { column, op := .isIn, value := .list values })
  | isNull {operand : Expr} {column : String} : operand.NamesColumn column →
      Spells (isNull operand false) (.compare { column, op := .is, value := .null })
  | isBool {operand : Expr} {column : String} (b : Bool) : operand.NamesColumn column →
      Spells (isBool operand b false) (.compare { column, op := .is, value := .bool b })
  | like {operand pattern : Expr} {caseless : Bool} {column : String} {value : Value} :
      operand.NamesColumn column → pattern.SpellsValue value →
        Spells (like operand pattern none false caseless false)
          (.compare { column, op := if caseless then .ilike else .like, value })

variable {e node child : Expr} {items : List Expr} {column : String} {value : Value}
  {values : List Value} {clause : Predicate}

/-- What spells a value without a fraction stands for it. -/
theorem SpellsValue.denotes (hspells : e.SpellsValue value) (hvalue : value.IsScalar) :
    e.Denotes value := by
  have hbounds : Decimal.minInt64 = -(Decimal.maxInt64 + 1) ∧ 0 < Decimal.maxInt64 := by decide
  induction hspells with
  | null => exact .null
  | bool b => exact .bool b
  | string quote text => exact .string quote text
  | number hne hdigits =>
      cases hvalue with
      | int hleast hgreatest =>
          exact .number (.int (.plain hne hdigits) (Int.le_of_lt hleast) hgreatest)
  | @negative operand n hpositive _ ih =>
      cases hvalue with
      | int hleast _ => exact .minusInt (ih (.int (by omega) (by omega)))
  | group _ ih => exact .group (ih hvalue)

theorem denoteAll_of_forall₂ (hspells : List.Forall₂ SpellsValue items values)
    (hvalues : ∀ value ∈ values, value.IsScalar) : DenoteAll items values := by
  induction hspells with
  | nil => exact .nil
  | cons hfirst _ ih =>
      obtain ⟨hvalue, hrest⟩ := List.forall_mem_cons.mp hvalues
      exact .cons (hfirst.denotes hvalue) (ih hrest)

/-- An expression that spells a clause states it. -/
theorem Spells.states (hspells : e.Spells clause) (hserved : ∀ c ∈ clause.leaves, c.IsServed) :
    e.States clause := by
  induction hspells with
  | group _ ih => exact .group (ih hserved)
  | and _ _ ihleft ihright =>
      obtain ⟨hleft, hright⟩ := List.forall_mem_append.mp hserved
      exact .and (ihleft hleft) (ihright hright)
  | or _ _ ihleft ihright =>
      obtain ⟨hleft, hright⟩ := List.forall_mem_append.mp hserved
      exact .or (ihleft hleft) (ihright hright)
  | @compare left right sign column op value hsign hcolumn hvalue =>
      have hother : op ≠ .isIn := by
        have htable : ∀ entry ∈ comparisonSigns, entry.2 ≠ .isIn := by decide
        exact htable _ hsign
      have hserved := hserved _ List.mem_cons_self
      exact .compare hsign hcolumn (hvalue.denotes (hserved.isScalar hother))
  | @inList operand items column values hcolumn hitems =>
      have hscalars : ∀ value ∈ values, value.IsScalar := by
        cases hserved _ List.mem_cons_self with
        | compare hop _ => simp at hop
        | isIn _ hvalues => exact hvalues
      exact .inList hcolumn (denoteAll_of_forall₂ hitems hscalars)
  | isNull hcolumn => exact .isNull hcolumn
  | isBool b hcolumn => exact .isBool hcolumn
  | @like operand pattern caseless column value hcolumn hvalue =>
      have hother : (if caseless then Operator.ilike else .like) ≠ .isIn := by
        cases caseless <;> decide
      have hserved := hserved _ List.mem_cons_self
      exact .like hcolumn (hvalue.denotes (hserved.isScalar hother))

/-! ### Soundness -/

/-- A node that the gateway cannot serve, wherever it stands. -/
inductive IsRefused : Expr → Prop
  | not (operand : Expr) : IsRefused (unary .not operand)
  | complement (operand : Expr) : IsRefused (unary .complement operand)
  | notIn (operand : Expr) (items : List Expr) : IsRefused (inList operand items true)
  | notLike (operand pattern : Expr) (escape : Option Literal) (caseless any : Bool) :
      IsRefused (like operand pattern escape true caseless any)
  | isNotNull (operand : Expr) : IsRefused (isNull operand true)
  | isNotBool (operand : Expr) (truth : Bool) : IsRefused (isBool operand truth true)
  | between (operand low high : Expr) (negated : Bool) :
      IsRefused (between operand low high negated)
  /-- Exclusive disjunction, arithmetic, and any other operator that neither joins nor compares. -/
  | operator (left right : Expr) (spelling : String) :
      IsRefused (binary left (.other spelling) right)
  | call (name : List Ident) (tail : String) : IsRefused (call name tail)
  | bracedCall (name : List Ident) (tail : String) : IsRefused (bracedCall name tail)
  | subquery (text : String) : IsRefused (subquery text)
  | access (text : String) : IsRefused (access text)
  | other (text : String) : IsRefused (other text)

/-- Whether an expression is an immediate part of another. -/
inductive IsChild : Expr → Expr → Prop
  | group (inner : Expr) : IsChild inner (group inner)
  | tuple {item : Expr} {items : List Expr} : item ∈ items → IsChild item (tuple items)
  | unary (op : UnaryOp) (operand : Expr) : IsChild operand (unary op operand)
  | left (left : Expr) (op : BinaryOp) (right : Expr) : IsChild left (binary left op right)
  | right (left : Expr) (op : BinaryOp) (right : Expr) : IsChild right (binary left op right)
  | member (operand : Expr) (items : List Expr) (negated : Bool) :
      IsChild operand (inList operand items negated)
  | listItem {item operand : Expr} {items : List Expr} {negated : Bool} : item ∈ items →
      IsChild item (inList operand items negated)
  | text (operand pattern : Expr) (escape : Option Literal) (negated caseless any : Bool) :
      IsChild operand (like operand pattern escape negated caseless any)
  | pattern (operand pattern : Expr) (escape : Option Literal) (negated caseless any : Bool) :
      IsChild pattern (like operand pattern escape negated caseless any)
  | isNull (operand : Expr) (negated : Bool) : IsChild operand (isNull operand negated)
  | isBool (operand : Expr) (truth negated : Bool) : IsChild operand (isBool operand truth negated)
  | between {part operand low high : Expr} {negated : Bool} : part ∈ [operand, low, high] →
      IsChild part (between operand low high negated)

/-- Whether an expression stands in another, be it the whole of it. -/
def IsPart : Expr → Expr → Prop :=
  Relation.ReflTransGen IsChild

/-- No part of an expression is refused. -/
def IsSound (e : Expr) : Prop :=
  ∀ node : Expr, node.IsPart e → ¬node.IsRefused

/-- What holds of an expression and of all parts of its children holds of all its parts. -/
theorem forall_isPart {p : Expr → Prop} (hself : p e)
    (hchildren : ∀ child : Expr, child.IsChild e → ∀ node : Expr, node.IsPart child → p node) :
    ∀ node : Expr, node.IsPart e → p node := by
  intro node hpart
  rcases Relation.ReflTransGen.cases_tail hpart with rfl | ⟨child, hnode, hchild⟩
  · exact hself
  · exact hchildren child hchild node hnode

theorem isSound_of_children (hself : ¬e.IsRefused)
    (hchildren : ∀ child : Expr, child.IsChild e → child.IsSound) : e.IsSound :=
  forall_isPart hself hchildren

theorem isSound_group {inner : Expr} (hinner : inner.IsSound) : (group inner).IsSound := by
  refine isSound_of_children nofun fun child hchild => ?_
  cases hchild with
  | group => exact hinner

theorem isSound_binary {left right : Expr} {op : BinaryOp}
    (hself : ¬(binary left op right).IsRefused) (hleft : left.IsSound) (hright : right.IsSound) :
    (binary left op right).IsSound := by
  refine isSound_of_children hself fun child hchild => ?_
  cases hchild with
  | left => exact hleft
  | right => exact hright

/-- An expression that names a column is sound. -/
theorem NamesColumn.isSound (hnames : e.NamesColumn column) : e.IsSound := by
  induction hnames with
  | name id => exact isSound_of_children nofun nofun
  | qualified front id => exact isSound_of_children nofun nofun
  | group _ ih => exact isSound_group ih

mutual

/-- An expression that stands for a value is sound. -/
theorem Denotes.isSound {e : Expr} {value : Value} (hdenotes : e.Denotes value) : e.IsSound := by
  cases hdenotes with
  | null | bool | string | number | name => exact isSound_of_children nofun nofun
  | group hinner => exact isSound_group hinner.isSound
  | plus hoperand | minusInt hoperand | minusFloat hoperand =>
      refine isSound_of_children nofun fun child hchild => ?_
      cases hchild with
      | unary => exact hoperand.isSound
  | tuple hitems =>
      refine isSound_of_children nofun fun child hchild => ?_
      cases hchild with
      | tuple hmem => exact hitems.isSound child hmem

theorem DenoteAll.isSound {items : List Expr} {values : List Value}
    (hdenote : DenoteAll items values) : ∀ item ∈ items, item.IsSound := by
  cases hdenote with
  | nil => exact List.forall_mem_nil _
  | cons hfirst hrest => exact List.forall_mem_cons.mpr ⟨hfirst.isSound, hrest.isSound⟩

end

/-- An expression that states a clause is sound. -/
theorem isSound_of_toPredicate (hclause : e.toPredicate = .ok clause) : e.IsSound := by
  fun_induction toPredicate e generalizing clause with
  -- an expression in parentheses
  | case1 inner ih => exact isSound_group (ih hclause)
  -- a conjunction
  | case2 left right ihleft ihright =>
      obtain ⟨first, hfirst, hrest⟩ := bind_eq_ok.mp hclause
      obtain ⟨second, hsecond, -⟩ := bind_eq_ok.mp hrest
      exact isSound_binary (by rintro ⟨⟩) (ihleft hfirst) (ihright hsecond)
  -- a disjunction
  | case3 left right ihleft ihright =>
      obtain ⟨first, hfirst, hrest⟩ := bind_eq_ok.mp hclause
      obtain ⟨second, hsecond, -⟩ := bind_eq_ok.mp hrest
      exact isSound_binary (by rintro ⟨⟩) (ihleft hfirst) (ihright hsecond)
  -- any other operator between two operands, which has to be a comparison
  | case4 left sign right =>
      obtain ⟨op, hop, hrest⟩ := bind_eq_ok.mp hclause
      obtain ⟨column, hcolumn, hrest⟩ := bind_eq_ok.mp hrest
      obtain ⟨value, hvalue, -⟩ := bind_eq_ok.mp hrest
      have hsign : ¬(binary left sign right).IsRefused := by
        rintro ⟨⟩
        contradiction
      exact isSound_binary hsign (columnName_eq_ok.mp hcolumn).isSound
        (toValue_eq_ok.mp hvalue).isSound
  -- `IN`
  | case5 operand items =>
      obtain ⟨values, hvalues, hrest⟩ := bind_eq_ok.mp hclause
      obtain ⟨column, hcolumn, -⟩ := bind_eq_ok.mp hrest
      refine isSound_of_children (by rintro ⟨⟩) fun child hchild => ?_
      cases hchild with
      | member => exact (columnName_eq_ok.mp hcolumn).isSound
      | listItem hmem => exact (toValues_eq_ok.mp hvalues).isSound child hmem
  -- `IS NULL`
  | case7 operand =>
      obtain ⟨column, hcolumn, -⟩ := bind_eq_ok.mp hclause
      refine isSound_of_children (by rintro ⟨⟩) fun child hchild => ?_
      cases hchild with
      | isNull => exact (columnName_eq_ok.mp hcolumn).isSound
  -- `IS TRUE` and `IS FALSE`
  | case8 operand truth =>
      obtain ⟨column, hcolumn, -⟩ := bind_eq_ok.mp hclause
      refine isSound_of_children (by rintro ⟨⟩) fun child hchild => ?_
      cases hchild with
      | isBool => exact (columnName_eq_ok.mp hcolumn).isSound
  -- `LIKE` and `ILIKE`
  | case11 operand pattern escape caseless any =>
      obtain ⟨column, hcolumn, hrest⟩ := bind_eq_ok.mp hclause
      obtain ⟨value, hvalue, -⟩ := bind_eq_ok.mp hrest
      refine isSound_of_children (by rintro ⟨⟩) fun child hchild => ?_
      cases hchild with
      | text => exact (columnName_eq_ok.mp hcolumn).isSound
      | pattern => exact (toValue_eq_ok.mp hvalue).isSound
  -- `NOT IN`, `IS NOT` with null and with a truth value, `NOT LIKE`, and all that is no condition
  | case6 | case9 | case10 | case12 | case13 => contradiction

/-! ### Lowering -/

theorem exists_spellsValue (hvalue : value.IsScalar) : ∃ e : Expr, e.SpellsValue value := by
  have hnumber : ∀ n : Nat,
      (literal (.number (String.ofList (Nat.toDigits 10 n)) false)).SpellsValue (.int n) := by
    intro n
    have hvalue : Decimal.ofDigits (Nat.toDigits 10 n) = n := Nat.ofDigitChars_ten_toDigits
    have hspells : (literal (.number (String.ofList (Nat.toDigits 10 n)) false)).SpellsValue _ :=
      .number (by simp [Nat.toDigits_ne_nil]) (by simpa using Decimal.isDigit_of_mem_toDigits)
    rwa [String.toList_ofList, hvalue] at hspells
  cases hvalue with
  | null => exact ⟨_, .null⟩
  | bool b => exact ⟨_, .bool b⟩
  | string text => exact ⟨_, .string '\'' text⟩
  | @int n _ _ =>
      obtain ⟨m, rfl | rfl⟩ := n.eq_nat_or_neg
      · exact ⟨_, hnumber m⟩
      · rcases Nat.eq_zero_or_pos m with rfl | hpositive
        · exact ⟨_, hnumber 0⟩
        · exact ⟨_, .negative (Int.natCast_pos.mpr hpositive) (hnumber m)⟩

theorem exists_forall₂_spellsValue (hvalues : ∀ value ∈ values, value.IsScalar) :
    ∃ items : List Expr, List.Forall₂ SpellsValue items values := by
  induction values with
  | nil => exact ⟨[], .nil⟩
  | cons value values ih =>
      obtain ⟨hvalue, hrest⟩ := List.forall_mem_cons.mp hvalues
      obtain ⟨e, he⟩ := exists_spellsValue hvalue
      obtain ⟨items, hitems⟩ := ih hrest
      exact ⟨e :: items, .cons he hitems⟩

/-- A clause whose comparisons are served has an expression. -/
theorem exists_spells (clause : Predicate) (hserved : ∀ c ∈ clause.leaves, c.IsServed) :
    ∃ e : Expr, e.Spells clause := by
  induction clause with
  | and left right ihleft ihright =>
      obtain ⟨hleft, hright⟩ := List.forall_mem_append.mp hserved
      obtain ⟨first, hfirst⟩ := ihleft hleft
      obtain ⟨second, hsecond⟩ := ihright hright
      exact ⟨_, .and hfirst hsecond⟩
  | or left right ihleft ihright =>
      obtain ⟨hleft, hright⟩ := List.forall_mem_append.mp hserved
      obtain ⟨first, hfirst⟩ := ihleft hleft
      obtain ⟨second, hsecond⟩ := ihright hright
      exact ⟨_, .or hfirst hsecond⟩
  | compare c =>
      have hcolumn : ∀ column : String, (Expr.name (.bare column)).NamesColumn column :=
        fun column => .name (.bare column)
      cases hserved c List.mem_cons_self with
      | @compare column op value hop hvalue =>
          obtain ⟨e, he⟩ := exists_spellsValue hvalue
          have hsigns : ∀ op ∈ [Operator.eq, .neq, .gt, .gte, .lt, .lte],
              ∃ sign, (sign, op) ∈ comparisonSigns := by
            simp [comparisonSigns]
          obtain ⟨sign, hsign⟩ := hsigns op hop
          exact ⟨_, .compare hsign (hcolumn column) he⟩
      | @like column op pattern hop =>
          have hcaseless : ∃ caseless : Bool,
              (if caseless then Operator.ilike else .like) = op := by
            rcases List.mem_pair.mp hop with rfl | rfl
            · exact ⟨false, rfl⟩
            · exact ⟨true, rfl⟩
          obtain ⟨caseless, rfl⟩ := hcaseless
          exact ⟨_, .like (hcolumn column) (.string '\'' pattern)⟩
      | @isIn column values _ hvalues =>
          obtain ⟨items, hitems⟩ := exists_forall₂_spellsValue hvalues
          exact ⟨_, .inList (hcolumn column) hitems⟩
      | @isNull column => exact ⟨_, .isNull (hcolumn column)⟩
      | @isBool column b => exact ⟨_, .isBool b (hcolumn column)⟩

/-- A clause whose comparisons are served can be spelled, and is recovered from every expression
that spells it.  An expression with a refused node anywhere in it is refused. -/
theorem toPredicate_whole_or_refused :
    (∀ clause : Predicate, (∀ c ∈ clause.leaves, c.IsServed) →
      (∃ e : Expr, e.Spells clause) ∧ ∀ e : Expr, e.Spells clause → e.toPredicate = .ok clause) ∧
    ∀ e node : Expr, node.IsPart e → node.IsRefused → ∃ fault, e.toPredicate = .error fault := by
  constructor
  · intro clause hserved
    refine ⟨exists_spells clause hserved, fun e hspells => ?_⟩
    exact (states_iff.mp (hspells.states hserved)).1
  · intro e node hpart hrefused
    cases hclause : e.toPredicate with
    | error fault => exact ⟨fault, rfl⟩
    | ok clause => exact absurd hrefused (isSound_of_toPredicate hclause node hpart)

/-- A disjunction in parentheses with a qualified column, a negative number and a list, and a
negation inside a list. -/
theorem toPredicate_whole_or_refused_nested :
    (group (binary
      (binary (group (qualified [.bare "t", .bare "a"])) .gte
        (unary .minus (group (literal (.number "05" false)))))
      .or
      (group (inList (name (.bare "b")) [literal (.string '\'' "x"), group (literal .null)]
        false)))).toPredicate =
      .ok (.or (.compare { column := "a", op := .gte, value := .int (-5) })
        (.compare { column := "b", op := .isIn, value := .list [.string "x", .null] })) ∧
    ∃ fault, (group (inList (name (.bare "b"))
      [literal .null, tuple [unary .not (name (.bare "c"))]] false)).toPredicate =
        .error fault := by
  obtain ⟨hwhole, hrefused⟩ := toPredicate_whole_or_refused
  constructor
  · refine (hwhole _ ?_).2 _ (.group (.or (.compare (by decide) (.group (.qualified [.bare "t"] _))
      (.negative (by decide) (.group (.number (by decide) (by decide))))) (.group (.inList (.name _)
        (.cons (.string _ _) (.cons (.group .null) .nil))))))
    intro c hc
    simp only [Predicate.leaves, List.singleton_append, List.mem_cons, List.not_mem_nil,
      or_false] at hc
    rcases hc with rfl | rfl
    · exact .compare (by decide) (.int (by decide) (by decide))
    · refine .isIn (by simp) fun value hvalue => ?_
      simp only [List.mem_cons, List.not_mem_nil, or_false] at hvalue
      rcases hvalue with rfl | rfl
      · exact .string "x"
      · exact .null
  · refine hrefused _ (unary .not (name (.bare "c"))) ?_ (.not _)
    exact ((Relation.ReflTransGen.single (.tuple List.mem_cons_self)).tail
      (.listItem (List.mem_cons_of_mem _ List.mem_cons_self))).tail (.group _)

end Expr

end Sql

end SqlGateway
