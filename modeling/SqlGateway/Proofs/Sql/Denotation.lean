import SqlGateway.Proofs.Checks
import SqlGateway.Proofs.Decimal.Numeral
import SqlGateway.Proofs.Text.Prefix
import SqlGateway.Sql.Statement

/-!
# What the parts of a statement stand for

Names, columns, values, signs and counts have a meaning of their own, given here by one rule for
each form in which they can be written.  A part without a rule has no meaning for the gateway.  Each
of the functions that lower these parts is shown to find the meaning of a part exactly where it has
one, so that what is said about statements further on does not rest on these functions.
-/

namespace SqlGateway

/-! ### Numbers -/

/-- The value of a number as written: an integer if it is one of 64 bits, and otherwise the nearest
double. -/
inductive Value.IsNumber : List Char → Value → Prop
  | int {text : List Char} {n : Int} (hnumeral : Decimal.DenotesInt text n)
      (hleast : Decimal.minInt64 ≤ n) (hgreatest : n ≤ Decimal.maxInt64) : IsNumber text (.int n)
  | float {text : List Char} {x : Float}
      (hother : ∀ n, Decimal.DenotesInt text n → n < Decimal.minInt64 ∨ Decimal.maxInt64 < n)
      (hread : Decimal.readFloat? text = some x) : IsNumber text (.float x)

theorem Value.ofNumeral?_eq_some {text : List Char} {value : Value} :
    ofNumeral? text = some value ↔ IsNumber text value := by
  unfold ofNumeral?
  cases hint : Decimal.readInt64? text with
  | some n =>
      obtain ⟨hnumeral, hleast, hgreatest⟩ := Decimal.readInt64?_eq_some.mp hint
      constructor
      · rintro ⟨⟩
        exact .int hnumeral hleast hgreatest
      · intro hnumber
        cases hnumber with
        | int hother hleast hgreatest =>
            have hagain := Decimal.readInt64?_eq_some.mpr ⟨hother, hleast, hgreatest⟩
            rw [hint] at hagain
            rw [Option.some.inj hagain]
        | float hother _ => have := hother n hnumeral; omega
  | none =>
      have hother : ∀ n, Decimal.DenotesInt text n →
          n < Decimal.minInt64 ∨ Decimal.maxInt64 < n := by
        intro n hnumeral
        by_contra hrange
        have hread := Decimal.readInt64?_eq_some.mpr ⟨hnumeral, by omega, by omega⟩
        rw [hint] at hread
        contradiction
      constructor
      · intro hfloat
        obtain ⟨x, hread, rfl⟩ := Option.map_eq_some_iff.mp hfloat
        exact .float hother hread
      · intro hnumber
        cases hnumber with
        | int hnumeral hleast hgreatest => have := hother _ hnumeral; omega
        | float _ hread => rw [hread, Option.map_some]

namespace Sql

/-! ### Names -/

/-- The quotes that may stand around a name. -/
def nameQuotes : List Char := ['\x60', '"']

/-- A text with any number of quotes at its two ends, and the name between them. -/
inductive Encloses : String → String → Prop
  | intro {front bare back : List Char} (hfront : ∀ c ∈ front, c ∈ nameQuotes)
      (hback : ∀ c ∈ back, c ∈ nameQuotes) (hfirst : ∀ c ∈ bare.head?, c ∉ nameQuotes)
      (hlast : ∀ c ∈ bare.getLast?, c ∉ nameQuotes) :
      Encloses (String.ofList (front ++ bare ++ back)) (String.ofList bare)

theorem isNameQuote_iff {c : Char} : isNameQuote c = true ↔ c ∈ nameQuotes := by
  simp [isNameQuote, nameQuotes]

theorem stopsAt_isNameQuote {letters : List Char} :
    Text.StopsAt isNameQuote letters ↔ ∀ c ∈ letters.head?, c ∉ nameQuotes := by
  simp only [Text.StopsAt, ← Bool.not_eq_true, isNameQuote_iff]

/-- What is left behind the quotes in front is the name with the quotes at its end. -/
theorem encloses_bareName (text : String) : Encloses text (bareName text) := by
  have hquotes : ∀ {letters : List Char}, ∀ c ∈ letters.takeWhile isNameQuote, c ∈ nameQuotes :=
    fun _ hc => isNameQuote_iff.mp (List.mem_takeWhile_imp hc)
  have hmiddle := Text.stopsAt_dropWhile isNameQuote text.toList
  generalize hsplit : text.toList.dropWhile isNameQuote = middle at hmiddle
  have hbare := Text.stopsAt_dropWhile isNameQuote middle.reverse
  have hends : middle = (middle.reverse.dropWhile isNameQuote).reverse ++
      (middle.reverse.takeWhile isNameQuote).reverse := by
    rw [← List.reverse_append, List.takeWhile_append_dropWhile, List.reverse_reverse]
  have htext : text = String.ofList (text.toList.takeWhile isNameQuote ++
      (middle.reverse.dropWhile isNameQuote).reverse ++
        (middle.reverse.takeWhile isNameQuote).reverse) := by
    rw [List.append_assoc, ← hends, ← hsplit, List.takeWhile_append_dropWhile, String.ofList_toList]
  have hname : bareName text = String.ofList (middle.reverse.dropWhile isNameQuote).reverse := by
    rw [bareName, hsplit]
  rw [hname]
  nth_rewrite 1 [htext]
  refine .intro hquotes (fun c hc => hquotes c (List.mem_reverse.mp hc)) ?_ ?_
  · -- the name begins as the text does behind the quotes in front, unless it is empty
    intro c hc
    refine stopsAt_isNameQuote.mp hmiddle c ?_
    rw [hends, List.head?_append, Option.mem_def.mp hc, Option.some_or]
    rfl
  · rw [List.getLast?_reverse]
    exact stopsAt_isNameQuote.mp hbare

/-- A name without the quotes before and behind it is what they enclose. -/
theorem bareName_eq_iff {text name : String} : bareName text = name ↔ Encloses text name := by
  constructor
  · rintro rfl
    exact encloses_bareName text
  · rintro ⟨hfront, hback, hfirst, hlast⟩
    rename_i front bare back
    have hdropped : ∀ {quotes rest : List Char}, (∀ c ∈ quotes, c ∈ nameQuotes) →
        (∀ c ∈ rest.head?, c ∉ nameQuotes) → (quotes ++ rest).dropWhile isNameQuote = rest :=
      fun hquotes hrest => Text.dropWhile_append_of_stopsAt
        (fun c hc => isNameQuote_iff.mpr (hquotes c hc)) (stopsAt_isNameQuote.mpr hrest)
    have hreversed : (back.reverse ++ bare.reverse).dropWhile isNameQuote = bare.reverse :=
      hdropped (fun c hc => hback c (List.mem_reverse.mp hc)) (by rwa [List.head?_reverse])
    cases bare with
    | nil =>
        have hall : ∀ c ∈ front ++ back, c ∈ nameQuotes := fun c hc =>
          (List.mem_append.mp hc).elim (hfront c) (hback c)
        have hnone := hdropped hall (by simp : ∀ c ∈ ([] : List Char).head?, c ∉ nameQuotes)
        rw [List.append_nil] at hnone
        simp [bareName, hnone]
    | cons c bare =>
        have hrest :
            ((front ++ (c :: bare)) ++ back).dropWhile isNameQuote = c :: bare ++ back := by
          rw [List.append_assoc]
          exact hdropped hfront (by simpa using hfirst)
        rw [bareName, String.toList_ofList, hrest, List.reverse_append, hreversed,
          List.reverse_reverse]

/-! ### Columns -/

/-- A column by its name, perhaps behind other names with points between them. -/
inductive Expr.NamesColumn : Expr → String → Prop
  | name (id : Ident) : NamesColumn (name id) id.text
  | qualified (front : List Ident) (id : Ident) : NamesColumn (qualified (front ++ [id])) id.text
  | group {inner : Expr} {column : String} : NamesColumn inner column →
      NamesColumn (group inner) column

variable {e : Expr} {items : List Expr} {column : String} {value : Value} {values : List Value}

theorem Expr.NamesColumn.columnName_eq (hnames : e.NamesColumn column) :
    e.columnName = .ok column := by
  induction hnames with
  | name id => rfl
  | qualified front id => simp [columnName]
  | group _ ih => rwa [columnName]

theorem Expr.namesColumn_of_columnName : ∀ {e : Expr} {column : String},
    e.columnName = .ok column → e.NamesColumn column
  | name id, _, rfl => .name id
  | qualified parts, _, hcolumn => by
      rw [columnName] at hcolumn
      split at hcolumn
      · rename_i id hlast
        obtain ⟨front, rfl⟩ := List.getLast?_eq_some_iff.mp hlast
        rw [← Except.ok.inj hcolumn]
        exact .qualified front id
      · contradiction
  | group inner, _, hcolumn => .group (namesColumn_of_columnName hcolumn)

theorem Expr.columnName_eq_ok : e.columnName = .ok column ↔ e.NamesColumn column :=
  ⟨namesColumn_of_columnName, NamesColumn.columnName_eq⟩

/-! ### Signs -/

/-- The signs of the six comparisons. -/
def comparisonSigns : List (BinaryOp × Operator) :=
  [(.eq, .eq), (.neq, .neq), (.gt, .gt), (.gte, .gte), (.lt, .lt), (.lte, .lte)]

theorem BinaryOp.toOperator_eq_ok {sign : BinaryOp} {op : Operator} :
    sign.toOperator = .ok op ↔ (sign, op) ∈ comparisonSigns := by
  cases sign <;> cases op <;> simp [toOperator, comparisonSigns]

/-! ### Values -/

mutual

/-- The value that an expression stands for. -/
inductive Expr.Denotes : Expr → Value → Prop
  | null : Denotes (literal .null) .null
  | bool (b : Bool) : Denotes (literal (.bool b)) (.bool b)
  | string (quote : Char) (text : String) : Denotes (literal (.string quote text)) (.string text)
  | number {text : String} {isLong : Bool} {value : Value} :
      Value.IsNumber text.toList value → Denotes (literal (.number text isLong)) value
  /-- A bare name is a text. -/
  | name (id : Ident) : Denotes (name id) (.string id.text)
  | group {inner : Expr} {value : Value} : Denotes inner value → Denotes (group inner) value
  | plus {operand : Expr} {value : Value} : Denotes operand value →
      Denotes (unary .plus operand) value
  | minusInt {operand : Expr} {n : Int} : Denotes operand (.int n) →
      Denotes (unary .minus operand) (.int (-n))
  | minusFloat {operand : Expr} {x : Float} : Denotes operand (.float x) →
      Denotes (unary .minus operand) (.float (-x))
  | tuple {items : List Expr} {values : List Value} : DenoteAll items values →
      Denotes (tuple items) (.list values)

/-- The values that several expressions stand for, one by one. -/
inductive Expr.DenoteAll : List Expr → List Value → Prop
  | nil : DenoteAll [] []
  | cons {first : Expr} {rest : List Expr} {value : Value} {values : List Value} :
      Denotes first value → DenoteAll rest values → DenoteAll (first :: rest) (value :: values)

end

/-- A minus sign turns a number into its opposite, and stands before nothing else. -/
theorem negated_eq_ok {operand value : Value} :
    negated operand = .ok value ↔
      (∃ n, operand = .int n ∧ .int (-n) = value) ∨
        ∃ x, operand = .float x ∧ .float (-x) = value := by
  cases operand <;> simp [negated]

theorem Literal.toValue_eq_ok {l : Literal} :
    l.toValue = .ok value ↔ (Expr.literal l).Denotes value := by
  constructor
  · intro hvalue
    cases l with
    | null => cases hvalue; exact .null
    | bool b => cases hvalue; exact .bool b
    | string quote text => cases hvalue; exact .string quote text
    | number text isLong =>
        rw [toValue] at hvalue
        split at hvalue
        · rename_i read hread
          rw [← Except.ok.inj hvalue]
          exact .number (Value.ofNumeral?_eq_some.mp hread)
        · contradiction
    | _ => contradiction
  · intro hdenotes
    cases hdenotes with
    | null | bool | string => rfl
    | number hnumber => rw [toValue, Value.ofNumeral?_eq_some.mpr hnumber]

namespace Expr

mutual

theorem Denotes.toValue_eq {e : Expr} {value : Value} (hdenotes : e.Denotes value) :
    e.toValue = .ok value := by
  cases hdenotes with
  | null | bool | string | number => rw [toValue, Literal.toValue_eq_ok]; constructor <;> assumption
  | name id => rw [toValue]
  | group hinner => rw [toValue, hinner.toValue_eq]
  | plus hoperand => rw [toValue, hoperand.toValue_eq]
  | minusInt hoperand => rw [toValue, hoperand.toValue_eq]; rfl
  | minusFloat hoperand => rw [toValue, hoperand.toValue_eq]; rfl
  | tuple hitems => rw [toValue, hitems.toValues_eq]; rfl

theorem DenoteAll.toValues_eq {items : List Expr} {values : List Value}
    (hdenote : DenoteAll items values) : toValues items = .ok values := by
  cases hdenote with
  | nil => rfl
  | cons hfirst hrest =>
      rw [toValues, hfirst.toValue_eq, hrest.toValues_eq]
      rfl

end

mutual

theorem denotes_of_toValue : ∀ {e : Expr} {value : Value}, e.toValue = .ok value → e.Denotes value
  | literal l, _, hvalue => by
      rw [toValue] at hvalue
      exact Literal.toValue_eq_ok.mp hvalue
  | name id, _, hvalue => by
      rw [toValue] at hvalue
      cases hvalue
      exact .name id
  | group inner, _, hvalue => by
      rw [toValue] at hvalue
      exact .group (denotes_of_toValue hvalue)
  | unary .plus operand, _, hvalue => by
      rw [toValue] at hvalue
      exact .plus (denotes_of_toValue hvalue)
  | unary .minus operand, _, hvalue => by
      rw [toValue] at hvalue
      obtain ⟨inner, hinner, hopposite⟩ := bind_eq_ok.mp hvalue
      rcases negated_eq_ok.mp hopposite with ⟨n, rfl, rfl⟩ | ⟨x, rfl, rfl⟩
      · exact .minusInt (denotes_of_toValue hinner)
      · exact .minusFloat (denotes_of_toValue hinner)
  | tuple items, _, hvalue => by
      rw [toValue] at hvalue
      obtain ⟨values, hvalues, rfl⟩ := map_eq_ok.mp hvalue
      exact .tuple (denoteAll_of_toValues hvalues)

theorem denoteAll_of_toValues : ∀ {items : List Expr} {values : List Value},
    toValues items = .ok values → DenoteAll items values
  | [], _, hvalues => by
      cases hvalues
      exact .nil
  | first :: rest, _, hvalues => by
      obtain ⟨value, hfirst, hrest⟩ := bind_eq_ok.mp hvalues
      obtain ⟨further, hfurther, hresult⟩ := bind_eq_ok.mp hrest
      rw [← pure_eq_ok.mp hresult]
      exact .cons (denotes_of_toValue hfirst) (denoteAll_of_toValues hfurther)

end

theorem toValue_eq_ok : e.toValue = .ok value ↔ e.Denotes value :=
  ⟨denotes_of_toValue, Denotes.toValue_eq⟩

theorem toValues_eq_ok : toValues items = .ok values ↔ DenoteAll items values :=
  ⟨denoteAll_of_toValues, DenoteAll.toValues_eq⟩

/-! ### Counts -/

/-- The count that an expression stands for: a number without a minus sign that has 64 bits at most,
or any expression for an integer that is not negative. -/
inductive Counts : Expr → Nat → Prop
  | number {text : String} {isLong : Bool} {n : Nat} (hnumeral : Decimal.DenotesInt text.toList n)
      (hsign : text.toList.head? ≠ some '-') (hsmall : n ≤ Decimal.maxUInt64) :
      Counts (literal (.number text isLong)) n
  | value {e : Expr} {n : Nat} (hvalue : e.Denotes (.int n)) : Counts e n

theorem countOfValue_eq_ok {n : Nat} : countOfValue e = .ok n ↔ e.Denotes (.int n) := by
  rw [← toValue_eq_ok]
  unfold countOfValue
  split
  · rename_i m hvalue
    rw [hvalue, Except.ok.injEq, Value.int.injEq]
    split
    · rw [Except.ok.injEq]
      omega
    · simp only [reduceCtorEq, false_iff]
      omega
  · rename_i hother
    exact iff_of_false nofun (hother n)

theorem toCount_eq_ok {n : Nat} : e.toCount = .ok n ↔ e.Counts n := by
  constructor
  · intro hcount
    unfold toCount at hcount
    split at hcount
    · split at hcount
      · rename_i m hread
        obtain ⟨hnumeral, hsign, hsmall⟩ := Decimal.readUInt64?_eq_some.mp hread
        rw [← Except.ok.inj hcount]
        exact .number hnumeral hsign hsmall
      · exact .value (countOfValue_eq_ok.mp hcount)
    · exact .value (countOfValue_eq_ok.mp hcount)
  · intro hcounts
    cases hcounts with
    | number hnumeral hsign hsmall =>
        rw [toCount, Decimal.readUInt64?_eq_some.mpr ⟨hnumeral, hsign, hsmall⟩]
    | value hvalue =>
        unfold toCount
        split
        · split
          · -- the number without a sign is the integer that the text denotes
            rename_i m hread
            obtain ⟨hnumeral, -, -⟩ := Decimal.readUInt64?_eq_some.mp hread
            cases hvalue with
            | number hnumber =>
                cases hnumber with
                | int hsame _ _ => rw [Int.natCast_inj.mp (hnumeral.unique hsame)]
          · exact countOfValue_eq_ok.mpr hvalue
        · exact countOfValue_eq_ok.mpr hvalue

end Expr

end Sql

end SqlGateway
