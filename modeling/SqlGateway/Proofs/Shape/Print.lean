import Mathlib.Data.List.Basic
import SqlGateway.Identifier
import SqlGateway.Proofs.Shape.Core
import SqlGateway.Shape.Fragment

/-!
# Short statements as text

How a statement is written, and which statements are short: those that fit the shapes as they are.
The text of a short statement is its own normal form.  It is put together from pieces that the
scanner of the normal form leaves as they are, each with the space that separates it from the piece
before.
-/

namespace SqlGateway

/-! ### Writing statements -/

/-- The text of a sort key; an ascending one is written with its direction or without it. -/
def OrderKey.sqlText (marked : Bool) (key : OrderKey) : String :=
  key.column ++
    match key.direction with
    | .ascending => if marked then " ASC" else ""
    | .descending => " DESC"

/-- The text of an assignment. -/
def Assignment.sqlText (a : Assignment) : String :=
  a.column ++ " = " ++ a.value.sqlText

/-- The text of a row. -/
def rowText (values : List Value) : String :=
  "(" ++ ", ".intercalate (values.map Value.sqlText) ++ ")"

/-- The text of a `WHERE` clause, with the space before it. -/
def whereText : Option Predicate → String
  | none => ""
  | some clause => " WHERE " ++ clause.sqlText

/-- The text of an order, with the space before it. -/
def orderText (marked : Bool) : List OrderKey → String
  | [] => ""
  | keys => " ORDER BY " ++ ", ".intercalate (keys.map (OrderKey.sqlText marked))

/-- The text of a query without bounds. -/
def SelectStatement.sqlText (marked : Bool) (s : SelectStatement) : String :=
  "SELECT " ++ ", ".intercalate (s.columns.map SelectColumn.sqlText) ++ " FROM " ++ s.table ++
    whereText s.filter ++ orderText marked s.order

/-- The text of an insertion. -/
def InsertStatement.sqlText (s : InsertStatement) : String :=
  "INSERT INTO " ++ s.table ++ " (" ++ ", ".intercalate s.columns ++ ") VALUES " ++
    ", ".intercalate (s.rows.map rowText)

/-- The text of an update. -/
def UpdateStatement.sqlText (s : UpdateStatement) : String :=
  "UPDATE " ++ s.table ++ " SET " ++ ", ".intercalate (s.assignments.map Assignment.sqlText) ++
    whereText s.filter

/-- The text of a deletion. -/
def DeleteStatement.sqlText (s : DeleteStatement) : String :=
  "DELETE FROM " ++ s.table ++ whereText s.filter

/-- The text of a statement without bounds. -/
def Statement.sqlText (marked : Bool) : Statement → String
  | select s => s.sqlText marked
  | insert s => s.sqlText
  | update s => s.sqlText
  | delete s => s.sqlText

/-! ### Short statements -/

/-- Values without a fraction that are no lists. -/
inductive Value.IsAtom : Value → Prop
  | null : IsAtom .null
  | bool (b : Bool) : IsAtom (.bool b)
  | int {n : Int} : Decimal.isInt64 n = true → IsAtom (.int n)
  | string (text : String) : IsAtom (.string text)

/-- Values of a row: no fraction, no list, and no text over several lines. -/
inductive Value.IsShort : Value → Prop
  | null : IsShort .null
  | bool (b : Bool) : IsShort (.bool b)
  | int {n : Int} : Decimal.isInt64 n = true → IsShort (.int n)
  | string {text : String} : '\n' ∉ text.toList → IsShort (.string text)

theorem Value.IsShort.isAtom {value : Value} (hvalue : value.IsShort) : value.IsAtom := by
  cases hvalue with
  | null => exact .null
  | bool b => exact .bool b
  | int hn => exact .int hn
  | string _ => exact .string _

/-- Values of an assignment: besides, no number with a sign and no text with a single quote. -/
structure Value.IsPlain (value : Value) : Prop where
  isShort : value.IsShort
  nonneg : ∀ n, value = .int n → 0 ≤ n
  unquoted : ∀ text, value = .string text → '\'' ∉ text.toList

/-- Comparisons by order or equality with a number or a text. -/
structure Comparison.IsShort (c : Comparison) : Prop where
  isIdentifier : isIdentifier c.column = true
  op : c.op ∈ [Operator.eq, .neq, .gt, .gte, .lt, .lte]
  isShort : c.value.IsShort
  isOperand : (∃ n, c.value = .int n) ∨ ∃ text, c.value = .string text

/-- Comparisons that a condition can state: of any column that is a name for the shapes, by order or
equality, with an integer or a text. -/
structure Comparison.IsSingle (c : Comparison) : Prop where
  column_ne_nil : c.column.toList ≠ []
  column_parts : ∀ d ∈ c.column.toList, Shape.isNamePart d = true
  op : c.op ∈ [Operator.eq, .neq, .gt, .gte, .lt, .lte]
  isOperand : (∃ n, c.value = .int n ∧ Decimal.isInt64 n = true) ∨ ∃ text, c.value = .string text

/-- No filter, or one comparison. -/
inductive IsShortFilter : Option Predicate → Prop
  | none : IsShortFilter none
  | compare {c : Comparison} : c.IsShort → IsShortFilter (some (.compare c))

/-- A column by its name, neither the name nor the label a word that changes a query. -/
structure SelectColumn.IsShort (name : String) (label : Option String) : Prop where
  name : isIdentifier name = true ∧ Shape.isSelectKeyword name.toList = false
  label : ∀ text ∈ label, isIdentifier text = true ∧ Shape.isSelectKeyword text.toList = false

/-- All columns, or one or more by name. -/
inductive IsShortList : List SelectColumn → Prop
  | star : IsShortList [.star]
  | named {columns : List SelectColumn} : columns ≠ [] →
      (∀ column ∈ columns, ∃ name label, column = .named name label ∧
        SelectColumn.IsShort name label) → IsShortList columns

/-- The statements that fit the shapes. -/
inductive Statement.IsShort : Statement → Prop
  | select {table : String} {columns : List SelectColumn} {filter : Option Predicate}
      {order : List OrderKey} : isIdentifier table = true → IsShortList columns →
        IsShortFilter filter → (filter.isSome = true → 2 ≤ columns.length) → order.length ≤ 1 →
          (∀ key ∈ order, isIdentifier key.column = true) →
            IsShort (.select { table, columns, filter, order, limit := none, offset := none })
  | insert {table : String} {columns : List String} {values : List Value} :
      isIdentifier table = true → columns ≠ [] → (∀ column ∈ columns, isIdentifier column = true) →
        values.length = columns.length → (∀ value ∈ values, value.IsShort) →
          IsShort (.insert { table, columns, rows := [values] })
  | update {table column : String} {value : Value} {filter : Option Predicate} :
      isIdentifier table = true → isIdentifier column = true → value.IsPlain →
        IsShortFilter filter →
          IsShort (.update { table, assignments := [{ column, value }], filter })
  | delete {table : String} {filter : Option Predicate} :
      isIdentifier table = true → IsShortFilter filter → IsShort (.delete { table, filter })

end SqlGateway

namespace SqlGateway.Shape

open Text

variable {text rest front : List Char} {c : Char}

/-! ### Kept pieces -/

/-- A text that the scanner of the normal form leaves as it is, with no quote open behind it. -/
structure IsKept (text : List Char) : Prop where
  squeeze_eq : squeeze none false text = text
  quoteAfter_eq : quoteAfter none text = none

theorem IsKept.nil : IsKept [] :=
  ⟨rfl, rfl⟩

theorem IsKept.append (hfront : IsKept front) (hrest : IsKept rest) : IsKept (front ++ rest) where
  squeeze_eq := by
    rw [squeeze_append_of_kept hfront.squeeze_eq, hfront.quoteAfter_eq, hrest.squeeze_eq]
  quoteAfter_eq := by rw [quoteAfter_append, hfront.quoteAfter_eq, hrest.quoteAfter_eq]

/-- Whether a character is neither blank nor a quote. -/
def isSolid (c : Char) : Bool :=
  !isBlank c && !opensQuote c

theorem IsKept.solid (htext : text.all isSolid = true) : IsKept text := by
  induction text with
  | nil => exact .nil
  | cons c text ih =>
      rw [List.all_cons, Bool.and_eq_true, isSolid, Bool.and_eq_true, Bool.not_eq_true',
        Bool.not_eq_true'] at htext
      obtain ⟨⟨hblank, hquote⟩, hrest⟩ := htext
      have hnext : nextQuote none c = none := by simp [nextQuote, hquote]
      constructor
      · rw [squeeze_plain hblank, hnext, (ih hrest).squeeze_eq]
      · rw [quoteAfter_cons, hnext, (ih hrest).quoteAfter_eq]

/-- A space before a piece is kept, if the piece does not begin with a blank itself. -/
theorem IsKept.space (hkept : IsKept (c :: text)) (hc : isBlank c = false) :
    IsKept (' ' :: c :: text) where
  squeeze_eq := by rw [squeeze_blank (by decide), squeeze_pending hc, hkept.squeeze_eq]
  quoteAfter_eq := hkept.quoteAfter_eq

theorem squeeze_doubled {quote : Char} (hquote : isQuote quote = true) (content : List Char) :
    squeeze (some quote) false (doubled quote content ++ [quote]) =
        doubled quote content ++ [quote] ∧
      quoteAfter (some quote) (doubled quote content ++ [quote]) = none := by
  have hopens := nextQuote_of_isQuote hquote
  have hblank := isBlank_of_isQuote hquote
  have hcloses : nextQuote (some quote) quote = none := by simp [nextQuote]
  induction content with
  | nil =>
      constructor
      · rw [doubled_nil, List.nil_append, squeeze_quoted, hcloses]
        rfl
      · rw [doubled_nil, List.nil_append, quoteAfter_cons, hcloses]
        rfl
  | cons c content ih =>
      obtain ⟨hsqueeze, hafter⟩ := ih
      by_cases hc : c = quote
      · -- the first quote of a pair closes, the second one opens again
        subst hc
        rw [doubled_cons_self, List.cons_append, List.cons_append]
        constructor
        · rw [squeeze_quoted, hcloses, squeeze_plain hblank, hopens, hsqueeze]
        · rw [quoteAfter_cons, hcloses, quoteAfter_cons, hopens, hafter]
      · have hstays : nextQuote (some quote) c = some quote := by simp [nextQuote, hc]
        rw [doubled_cons_of_ne hc, List.cons_append]
        constructor
        · rw [squeeze_quoted, hstays, hsqueeze]
        · rw [quoteAfter_cons, hstays, hafter]

theorem IsKept.quoted {quote : Char} (hquote : isQuote quote = true) (content : List Char) :
    IsKept (quote :: (doubled quote content ++ [quote])) := by
  obtain ⟨hsqueeze, hafter⟩ := squeeze_doubled hquote content
  constructor
  · rw [squeeze_plain (isBlank_of_isQuote hquote), nextQuote_of_isQuote hquote, hsqueeze]
  · rw [quoteAfter_cons, nextQuote_of_isQuote hquote, hafter]

/-! ### Pieces with a space between them -/

/-- A kept text with nothing at its ends that the normal form cuts off. -/
structure IsPiece (text : List Char) : Prop where
  ne_nil : text ≠ []
  kept : IsKept text
  head : ∀ c ∈ text.head?, isBlank c = false
  last : ∀ c ∈ text.getLast?, isBlank c = false ∧ c ≠ ';'

theorem IsPiece.append (hfront : IsPiece front) (hrest : IsPiece rest) :
    IsPiece (front ++ rest) where
  ne_nil := by simp [hfront.ne_nil]
  kept := hfront.kept.append hrest.kept
  head := by
    rw [List.head?_append_of_ne_nil _ hfront.ne_nil]
    exact hfront.head
  last := by
    rw [List.getLast?_append_of_ne_nil _ hrest.ne_nil]
    exact hrest.last

theorem IsPiece.join (hfront : IsPiece front) (hrest : IsPiece rest) :
    IsPiece (front ++ ' ' :: rest) where
  ne_nil := by simp
  kept := by
    refine hfront.kept.append ?_
    cases hchars : rest with
    | nil => exact absurd hchars hrest.ne_nil
    | cons c chars =>
        rw [hchars] at hrest
        exact hrest.kept.space (hrest.head c rfl)
  head := by
    rw [List.head?_append_of_ne_nil _ hfront.ne_nil]
    exact hfront.head
  last := by
    rw [List.append_cons, List.getLast?_append_of_ne_nil _ hrest.ne_nil]
    exact hrest.last

theorem IsPiece.solid (hne : text ≠ []) (htext : ∀ c ∈ text, isSolid c = true ∧ c ≠ ';') :
    IsPiece text where
  ne_nil := hne
  kept := .solid (List.all_eq_true.mpr fun c hc => (htext c hc).1)
  head c hc := by
    have hsolid := (htext c (List.mem_of_mem_head? hc)).1
    rw [isSolid, Bool.and_eq_true, Bool.not_eq_true'] at hsolid
    exact hsolid.1
  last c hc := by
    obtain ⟨hsolid, hsemicolon⟩ := htext c (List.mem_of_mem_getLast? hc)
    rw [isSolid, Bool.and_eq_true, Bool.not_eq_true'] at hsolid
    exact ⟨hsolid.1, hsemicolon⟩

theorem IsPiece.quoted {quote : Char} (hquote : isQuote quote = true) (content : List Char) :
    IsPiece (quote :: (doubled quote content ++ [quote])) := by
  have hplain : isBlank quote = false ∧ quote ≠ ';' :=
    ⟨isBlank_of_isQuote hquote, of_isQuote (p := fun c => c ≠ ';') (by decide) (by decide) hquote⟩
  refine ⟨List.cons_ne_nil _ _, .quoted hquote content, ?_, ?_⟩
  · rintro c ⟨⟩
    exact hplain.1
  · rw [← List.cons_append, List.getLast?_concat]
    rintro c ⟨⟩
    exact hplain

/-- A piece is its own normal form. -/
theorem IsPiece.normalize_eq (hpiece : IsPiece text) : normalize text = text := by
  have htrim : trim text = text := by
    rw [trim, trimStart_eq_self hpiece.head, trimEnd_eq_self fun c hc => (hpiece.last c hc).1]
  have hsemicolon : text.getLast? ≠ some ';' := fun hc => (hpiece.last ';' hc).2 rfl
  rw [normalize_eq_squeeze, core, htrim, dropSemicolon, if_neg hsemicolon, hpiece.kept.squeeze_eq]

end SqlGateway.Shape
