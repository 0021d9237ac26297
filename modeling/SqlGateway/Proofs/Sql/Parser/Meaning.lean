import SqlGateway.Proofs.Checks
import SqlGateway.Proofs.Sql.Parser.Clause
import SqlGateway.Sql.Statement

/-!
# The parts of plain statements

Which tokens state a value, a condition, a select list and an order.  Each part is given by what the
grammar reads wherever the part stands, together with what the reading is lowered to, so that a
statement is put together from its parts without a look at their tokens.
-/

namespace SqlGateway.Sql.Parser

variable {tokens written tail : List Token} {w : Word} {value : Value} {depth : Nat}
  {byWord : Bool}

/-! ### Values -/

/-- The tokens that state a value wherever they stand; before a word only if `byWord` holds. -/
inductive IsValue (byWord : Bool) : List Token → Value → Prop
  | word {w : Word} : w.keyword ∉ formWords byWord → IsValue byWord [.word w] (.string w.text)
  | literal {w : Word} {l : Literal} {value : Value} :
      (w.keyword, l) ∈ [("TRUE", Literal.bool true), ("FALSE", .bool false), ("NULL", .null)] →
        l.toValue = .ok value → IsValue byWord [.word w] value
  | string (quote : Char) (text : String) : IsValue byWord [.string quote text] (.string text)
  | number {text : String} {value : Value} :
      Value.ofNumeral? text.toList = some value → IsValue byWord [.number text false] value
  | negative {text : String} {magnitude value : Value} :
      Value.ofNumeral? text.toList = some magnitude → negated magnitude = .ok value →
        IsValue byWord [.symbol "-", .number text false] value

theorem IsValue.exists_operand (hvalue : IsValue byWord written value) :
    ∃ e, IsOperand byWord written e ∧ e.toValue = .ok value := by
  cases hvalue with
  | word hw => exact ⟨_, isOperand_word hw, by rw [Expr.toValue]; rfl⟩
  | literal hword hl => exact ⟨_, isOperand_literalWord hword, by rw [Expr.toValue, hl]⟩
  | string quote text => exact ⟨_, isOperand_string quote text, by rw [Expr.toValue]; rfl⟩
  | number hnumeral =>
      refine ⟨_, isOperand_number _, ?_⟩
      simp [Expr.toValue, Literal.toValue, hnumeral]
  | negative hnumeral hnegated =>
      refine ⟨_, isOperand_negative _, ?_⟩
      simp [Expr.toValue, Literal.toValue, hnumeral, bind, Except.bind, hnegated]

/-- Behind a sign a value is no element of an array type. -/
theorem IsValue.holdsNoElement (hvalue : IsValue byWord written value)
    (htail : isQuiet [] tail = true)
    (sign : String) : holdsNoElement (.symbol sign :: (written ++ tail)) = true := by
  unfold Parser.holdsNoElement
  split
  · rename_i w rest heq
    cases hvalue <;> simp_all
  · rfl

theorem IsValue.headKeyword_append (hvalue : IsValue byWord written value) :
    headKeyword (written ++ tail) = headKeyword written := by
  cases hvalue <;> rfl

theorem IsValue.headSymbol_append (hvalue : IsValue byWord written value) :
    headSymbol (written ++ tail) ∈ ["", "-"] := by
  cases hvalue <;> simp [headSymbol]

/-- The values of several items are those of the items. -/
theorem exists_operands {items : List (List Token)} {values : List Value}
    (hitems : List.Forall₂ (IsValue byWord) items values) :
    ∃ expressions, List.Forall₂ (IsOperand byWord) items expressions ∧
      Expr.toValues expressions = .ok values := by
  induction hitems with
  | nil => exact ⟨[], .nil, by rw [Expr.toValues]⟩
  | cons hvalue _ ih =>
      obtain ⟨e, hoperand, he⟩ := hvalue.exists_operand
      obtain ⟨expressions, hoperands, hexpressions⟩ := ih
      refine ⟨e :: expressions, .cons hoperand hoperands, ?_⟩
      simp [Expr.toValues, he, hexpressions, bind, Except.bind, pure, Except.pure]

/-! ### Conditions -/

/-- The words that may follow a condition. -/
def conditionEnds : List String := ["ORDER"]

/-- The tokens that state an optional condition, a `WHERE` clause or none; before a word only if
`byWord` holds. -/
structure IsFilter (byWord : Bool) (tokens : List Token) (filter : Option Predicate) : Prop where
  clause : ∀ tail, AtClause conditionEnds tail → AtClause ["WHERE", "ORDER"] (tokens ++ tail)
  read : ∀ depth tail, AtClause conditionEnds tail → (isWordNext tail = true → byWord = true) →
    ∃ condition, clause? ["WHERE"] (nestedWithin (depth + 3)).fullExpr (tokens ++ tail) =
      .ok (condition, tail) ∧ optionalPredicate condition = .ok filter

theorem isFilter_nil : IsFilter byWord [] none where
  clause _ hclause := hclause.mono (by decide)
  read _ _ hclause _ := ⟨none, clause?_of_clause hclause (by decide) [] _, rfl⟩

/-- The operators that comparisons stand for. -/
def operatorSigns : List (String × Operator) :=
  [("=", .eq), ("!=", .neq), ("<>", .neq), (">", .gt), (">=", .gte), ("<", .lt), ("<=", .lte)]

theorem isFilter_comparison {marker : Word} {sign : String} {op : Operator}
    (hmarker : marker.keyword = "WHERE") (hw : w.keyword ∉ formWords false)
    (hsign : (sign, op) ∈ operatorSigns) (hvalue : IsValue byWord written value)
    (hquantifier : headKeyword written ∉ quantifiers) :
    IsFilter byWord (.word marker :: .word w :: .symbol sign :: written)
      (some (.compare { column := w.text, op, value })) where
  clause tail _ := by
    rw [List.cons_append]
    exact atClause_word (by rw [hmarker]; decide)
  read depth tail hclause hnext := by
    obtain ⟨e, hoperand, he⟩ := hvalue.exists_operand
    have htail : isQuiet [] tail = true := by
      rcases hclause with rfl | ⟨next, rest, rfl, hkeyword⟩
      · rfl
      · have horder : next.keyword = "ORDER" := by simpa [conditionEnds] using hkeyword
        simp [isQuiet, horder, literalWords, typeWords]
    have hends : Ends tail := ends_of_clause hclause (by decide)
    obtain ⟨binary, hbinary, hop⟩ : ∃ binary, (sign, binary) ∈ comparisons ∧
        binary.toOperator = .ok op := by
      simp only [operatorSigns, List.mem_cons, Prod.mk.injEq, List.not_mem_nil, or_false] at hsign
      rcases hsign with ⟨rfl, rfl⟩ | ⟨rfl, rfl⟩ | ⟨rfl, rfl⟩ | ⟨rfl, rfl⟩ | ⟨rfl, rfl⟩ |
        ⟨rfl, rfl⟩ | ⟨rfl, rfl⟩
      · exact ⟨.eq, by decide, rfl⟩
      · exact ⟨.neq, by decide, rfl⟩
      · exact ⟨.neq, by decide, rfl⟩
      · exact ⟨.gt, by decide, rfl⟩
      · exact ⟨.gte, by decide, rfl⟩
      · exact ⟨.lt, by decide, rfl⟩
      · exact ⟨.lte, by decide, rfl⟩
    have hread := fullExpr_comparison depth hw hbinary hoperand
      (hvalue.holdsNoElement htail sign) (by rwa [hvalue.headKeyword_append]) hends hnext
    refine ⟨some (.binary (.name w.ident) binary e), clause?_of_eq hmarker hread, ?_⟩
    have hpredicate : (Expr.binary (.name w.ident) binary e).toPredicate =
        .ok (.compare { column := w.text, op, value }) := by
      cases binary <;> simp_all [Expr.toPredicate, BinaryOp.toOperator, Expr.columnName, bind,
        Except.bind, pure, Except.pure, Word.ident, comparisons]
    simp [optionalPredicate, hpredicate]

/-! ### Select lists -/

/-- The words that change a `SELECT` where its list is expected. -/
def selectForms : List String := ["ALL", "DISTINCT", "TOP"]

/-- The tokens that state a select list. -/
structure IsFields (tokens : List Token) (columns : List SelectColumn) : Prop where
  ne_nil : tokens ≠ []
  form : headKeyword tokens ∉ selectForms
  read : ∀ depth tail, AtClause ["FROM"] tail → ∃ items,
    selectItems (nestedWithin (depth + 2)) (tokens ++ tail) = .ok (items, tail) ∧
      items.mapM SelectItem.toColumn = .ok columns

theorem isFields_star : IsFields [.symbol "*"] [.star] where
  ne_nil := List.cons_ne_nil _ _
  form := by decide
  read _ _ hclause := ⟨[.star], selectItems_star hclause, rfl⟩

/-- The column that an entry stands for. -/
def Entry.selectColumn (entry : Entry) : SelectColumn :=
  .named entry.column.text (entry.label.map (·.2.text))

theorem isFields_entries {entries : List Entry} (hentries : entries ≠ [])
    (hplain : ∀ entry ∈ entries, entry.IsPlain)
    (hform : ∀ entry ∈ entries.head?, entry.column.keyword ∉ selectForms) :
    IsFields (commaTokens (entries.map Entry.words)) (entries.map Entry.selectColumn) where
  ne_nil := by
    cases entries with
    | nil => exact absurd rfl hentries
    | cons entry entries => simp [commaTokens, Entry.words]
  form := by
    cases entries with
    | nil => exact absurd rfl hentries
    | cons entry entries => exact hform entry rfl
  read depth tail hclause := by
    refine ⟨entries.map Entry.item, selectItems_entries hentries hplain hclause, ?_⟩
    rw [mapM_eq_ok, List.forall₂_map_left_iff, List.forall₂_map_right_iff, List.forall₂_same]
    rintro ⟨column, label⟩ -
    cases label <;> rfl

/-! ### Orders -/

/-- The tokens that state an order, which nothing follows. -/
structure IsOrder (tokens : List Token) (keys : List OrderKey) : Prop where
  clause : AtClause conditionEnds tokens
  read : ∀ depth, ∃ order,
    clause? ["ORDER", "BY"] (sortItems (nestedWithin (depth + 2))) tokens = .ok (order, []) ∧
      optionalKeys (order.map fun items => { keys := .listed items }) = .ok keys

theorem isOrder_nil : IsOrder [] [] where
  clause := atClause_nil _
  read _ := ⟨none, clause?_nil (by decide) _ _, rfl⟩

theorem isOrder_word {first second : Word} (direction : Option Word)
    (hfirst : first.keyword = "ORDER") (hsecond : second.keyword = "BY")
    (hw : w.keyword ∉ formWords direction.isSome)
    (hdirection : ∀ d ∈ direction, d.keyword ∈ ["ASC", "DESC"]) :
    IsOrder (.word first :: .word second :: .word w :: direction.toList.map .word)
      [{ column := w.text
         direction := if direction.any (·.keyword == "DESC") then .descending
           else .ascending }] where
  clause := atClause_word (by rw [hfirst]; decide)
  read depth := by
    refine ⟨some [{ expr := .name w.ident, ascending := direction.map (·.keyword == "ASC"),
                    nullsFirst := none }], ?_, ?_⟩
    · have hitems := sortItems_word depth hw hdirection
      simp [clause?, keywords?, dropKeywords?, Token.isKeyword, hfirst, hsecond, hitems]
    · rcases direction with _ | d
      · rfl
      · have hd : d.keyword = "ASC" ∨ d.keyword = "DESC" := by simpa using hdirection d rfl
        rcases hd with hd | hd <;>
          simp [optionalKeys, SortKeys.toKeys, SortItem.toKey, Expr.columnName, Word.ident, hd,
            bind, Except.bind, pure, Except.pure]

end SqlGateway.Sql.Parser
