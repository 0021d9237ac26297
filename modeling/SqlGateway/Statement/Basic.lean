import SqlGateway.Value.Basic

/-!
# Statements

The gateway knows four statements, each about one table.  A `WHERE` clause is a tree of
comparisons; a comparison has a bare column on its left and a literal, or a list of literals, on
its right.  Texts of the parts follow SQL, with parentheses around every `AND` and `OR`.
-/

namespace SqlGateway

/-! ### Kinds and operators -/

/-- What a statement does. -/
inductive StatementKind where
  | select
  | insert
  | update
  | delete
  deriving DecidableEq, Repr

namespace StatementKind

/-- The four kinds, in the order in which a statement's keyword is looked for. -/
def all : List StatementKind := [select, insert, update, delete]

/-- The keyword in small letters. -/
def keyword : StatementKind → String
  | select => "select"
  | insert => "insert"
  | update => "update"
  | delete => "delete"

/-- The keyword in capital letters. -/
def text : StatementKind → String
  | select => "SELECT"
  | insert => "INSERT"
  | update => "UPDATE"
  | delete => "DELETE"

end StatementKind

/-- The comparisons that the table service can filter by. -/
inductive Operator where
  | eq
  | neq
  | gt
  | gte
  | lt
  | lte
  | like
  | ilike
  | isIn
  | is
  deriving DecidableEq, Repr

namespace Operator

/-- The SQL spelling. -/
def symbol : Operator → String
  | eq => "="
  | neq => "!="
  | gt => ">"
  | gte => ">="
  | lt => "<"
  | lte => "<="
  | like => "LIKE"
  | ilike => "ILIKE"
  | isIn => "IN"
  | is => "IS"

/-- The name of the filter in the table service. -/
def filterName : Operator → String
  | eq => "eq"
  | neq => "neq"
  | gt => "gt"
  | gte => "gte"
  | lt => "lt"
  | lte => "lte"
  | like => "like"
  | ilike => "ilike"
  | isIn => "in"
  | is => "is"

/-- The ten operators. -/
def all : List Operator := [eq, neq, gt, gte, lt, lte, like, ilike, isIn, is]

/-- The operator with a given SQL spelling, in any case of ASCII letters; inequality has two. -/
def ofSymbol? (symbol : String) : Option Operator :=
  match String.ofList (symbol.toList.map Char.toUpper) with
  | "=" => some eq
  | "!=" => some neq
  | "<>" => some neq
  | ">" => some gt
  | ">=" => some gte
  | "<" => some lt
  | "<=" => some lte
  | "LIKE" => some like
  | "ILIKE" => some ilike
  | "IN" => some isIn
  | "IS" => some is
  | _ => none

/-- The operator with a given filter name. -/
def ofFilterName? (name : String) : Option Operator :=
  all.find? fun op => op.filterName == name

end Operator

/-! ### Conditions -/

/-- A column compared with a value. -/
structure Comparison where
  column : String
  op : Operator
  value : Value

/-- The SQL text of a comparison. -/
def Comparison.sqlText (c : Comparison) : String :=
  c.column ++ " " ++ c.op.symbol ++ " " ++ c.value.sqlText

/-- Equality of comparisons, with that of values. -/
def Comparison.same (c d : Comparison) : Bool :=
  c.column == d.column && c.op == d.op && c.value.same d.value

/-- A `WHERE` clause. -/
inductive Predicate where
  | compare (c : Comparison)
  | and (left right : Predicate)
  | or (left right : Predicate)

namespace Predicate

/-- The SQL text of a clause. -/
def sqlText : Predicate → String
  | compare c => c.sqlText
  | and left right => "(" ++ left.sqlText ++ " AND " ++ right.sqlText ++ ")"
  | or left right => "(" ++ left.sqlText ++ " OR " ++ right.sqlText ++ ")"

/-- Equality of clauses, with that of values. -/
def same : Predicate → Predicate → Bool
  | compare c, compare d => c.same d
  | and left right, and left' right' => same left left' && same right right'
  | or left right, or left' right' => same left left' && same right right'
  | _, _ => false

end Predicate

/-! ### Columns and order -/

/-- One entry of a select list. -/
inductive SelectColumn where
  /-- Every column. -/
  | star
  /-- One column, given another name in the result if there is a label. -/
  | named (name : String) (label : Option String)
  deriving DecidableEq, Repr

/-- The SQL text of a select column. -/
def SelectColumn.sqlText : SelectColumn → String
  | star => "*"
  | named name none => name
  | named name (some label) => name ++ " AS " ++ label

/-- The direction of a sort. -/
inductive Direction where
  | ascending
  | descending
  deriving DecidableEq, Repr

/-- A column to sort by. -/
structure OrderKey where
  column : String
  direction : Direction
  deriving DecidableEq, Repr

/-! ### The four statements -/

/-- A query for rows.  Counts are those of 64 bits without a sign. -/
structure SelectStatement where
  table : String
  columns : List SelectColumn
  filter : Option Predicate
  order : List OrderKey
  limit : Option Nat
  offset : Option Nat

/-- New rows, each meant to have one value per column. -/
structure InsertStatement where
  table : String
  columns : List String
  rows : List (List Value)

/-- `column = value` in a `SET` list. -/
structure Assignment where
  column : String
  value : Value

/-- Equality of assignments, with that of values. -/
def Assignment.same (a b : Assignment) : Bool :=
  a.column == b.column && a.value.same b.value

/-- A change of rows. -/
structure UpdateStatement where
  table : String
  assignments : List Assignment
  filter : Option Predicate

/-- A removal of rows. -/
structure DeleteStatement where
  table : String
  filter : Option Predicate

/-- A statement about one table. -/
inductive Statement where
  | select (s : SelectStatement)
  | insert (s : InsertStatement)
  | update (s : UpdateStatement)
  | delete (s : DeleteStatement)

/-- Equality of lists, by a given equality of their items. -/
def sameList {α : Type} (same : α → α → Bool) : List α → List α → Bool
  | [], [] => true
  | x :: xs, y :: ys => same x y && sameList same xs ys
  | _, _ => false

/-- Equality of optional values, by a given equality of what they hold. -/
def sameOption {α : Type} (same : α → α → Bool) : Option α → Option α → Bool
  | none, none => true
  | some x, some y => same x y
  | _, _ => false

namespace Statement

/-- What a statement does. -/
def kind : Statement → StatementKind
  | select _ => .select
  | insert _ => .insert
  | update _ => .update
  | delete _ => .delete

/-- The table a statement is about. -/
def table : Statement → String
  | select s => s.table
  | insert s => s.table
  | update s => s.table
  | delete s => s.table

/-- The `WHERE` clause of a statement. -/
def filter : Statement → Option Predicate
  | select s => s.filter
  | insert _ => none
  | update s => s.filter
  | delete s => s.filter

/-- Equality of statements, with that of values. -/
def same : Statement → Statement → Bool
  | select s, select t =>
    s.table == t.table && s.columns == t.columns && sameOption Predicate.same s.filter t.filter &&
      s.order == t.order && s.limit == t.limit && s.offset == t.offset
  | insert s, insert t =>
    s.table == t.table && s.columns == t.columns && sameList (sameList Value.same) s.rows t.rows
  | update s, update t =>
    s.table == t.table && sameList Assignment.same s.assignments t.assignments &&
      sameOption Predicate.same s.filter t.filter
  | delete s, delete t => s.table == t.table && sameOption Predicate.same s.filter t.filter
  | _, _ => false

end Statement

end SqlGateway
