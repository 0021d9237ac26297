import SqlGateway.Sql.Token

/-!
# Syntax of SQL

What the grammar finds in a statement.  The gateway serves statements about one table with plain
conditions, so only what it can serve, or has to refuse by name, is kept as a tree.  Everything else
that the grammar accepts is kept as its canonical text, which is all that an error message needs: a
function call has a name and the text of its arguments, a subquery is a text, and so are joins.
This keeps expressions and queries from being defined through each other.

A clause that stands in no statement of this grammar but in those of other dialects is in the tree
as well, so that it can be said what becomes of it.  It is absent unless it is given.
-/

namespace SqlGateway.Sql

/-- A name, and the quote that it was written with. -/
structure Ident where
  text : String
  quote : Option Char
  deriving DecidableEq, Repr

/-- A name without quotes. -/
def Ident.bare (text : String) : Ident :=
  { text, quote := none }

/-- The name that a word stands for. -/
def Word.ident (w : Word) : Ident :=
  { text := w.text, quote := if w.isQuoted then some '\x60' else none }

/-! ### Expressions -/

/-- A literal. -/
inductive Literal where
  | null
  | bool (b : Bool)
  /-- A number as written, and whether the letter `L` follows it. -/
  | number (text : String) (isLong : Bool)
  | string (quote : Char) (text : String)
  | bytes (quote : Char) (text : String)
  | national (text : String)
  | hex (text : String)
  | placeholder (text : String)
  deriving DecidableEq, Repr

/-- Operators before an operand. -/
inductive UnaryOp where
  | plus
  | minus
  | not
  | complement
  deriving DecidableEq, Repr

/-- Operators between two operands. -/
inductive BinaryOp where
  | and
  | or
  | eq
  | neq
  | gt
  | gte
  | lt
  | lte
  /-- Any other operator, by its canonical spelling. -/
  | other (spelling : String)
  deriving DecidableEq, Repr

/-- An expression. -/
inductive Expr where
  /-- A name alone. -/
  | name (id : Ident)
  /-- Names with points between them. -/
  | qualified (parts : List Ident)
  | literal (value : Literal)
  /-- An expression in parentheses. -/
  | group (inner : Expr)
  /-- Several expressions in parentheses. -/
  | tuple (items : List Expr)
  | unary (op : UnaryOp) (operand : Expr)
  | binary (left : Expr) (op : BinaryOp) (right : Expr)
  | inList (operand : Expr) (items : List Expr) (negated : Bool)
  /-- A match with a pattern.  `caseless` is that of `ILIKE`, and `any` that of `LIKE ANY`. -/
  | like (operand pattern : Expr) (escape : Option Literal) (negated caseless any : Bool)
  | isNull (operand : Expr) (negated : Bool)
  | isBool (operand : Expr) (truth negated : Bool)
  | between (operand low high : Expr) (negated : Bool)
  /-- A function call: the name, and the text of what follows it. -/
  | call (name : List Ident) (tail : String)
  /-- A function call in braces. -/
  | bracedCall (name : List Ident) (tail : String)
  /-- A query in parentheses, by its text. -/
  | subquery (text : String)
  /-- A part of the value of an expression, by its text. -/
  | access (text : String)
  /-- Any other form, by its text. -/
  | other (text : String)

instance : Inhabited Expr := ⟨.literal .null⟩

/-! ### Tables -/

/-- Another name for a table, and names for its columns if they are given. -/
structure TableLabel where
  /-- Whether `AS` stands before the name. -/
  isExplicit : Bool
  name : Ident
  /-- The names of the columns, each perhaps with a type, as texts. -/
  columns : List String

/-- A table by name. -/
structure NamedTable where
  name : List Ident
  /-- The path to the part of a document that holds the rows. -/
  path : Option String := none
  partitions : List Ident := []
  arguments : Option (List String) := none
  /-- Whether the number of each row is a further column. -/
  ordinality : Bool := false
  label : Option TableLabel := none
  /-- Which indexes to use. -/
  indexHints : List String := []
  /-- What is said in parentheses behind `WITH`, such as that locked rows are left out. -/
  hints : List String := []
  /-- The time whose rows are taken. -/
  version : Option String := none
  /-- The share of the rows that is taken. -/
  sample : Option String := none

/-- What rows come from. -/
inductive TableFactor where
  | named (table : NamedTable)
  /-- Tables joined inside parentheses, by their text. -/
  | joined (text : String)
  /-- Anything else, by its text. -/
  | other (text : String)

/-- A table, and the texts of what is joined to it. -/
structure TableSource where
  table : TableFactor
  joins : List String

/-! ### Queries -/

/-- An entry of a select list. -/
inductive SelectItem where
  /-- All columns. -/
  | star
  /-- All columns, some of them left out, replaced or given other names. -/
  | starBut (changes : String)
  | qualifiedStar (name : List Ident)
  | expr (e : Expr) (label : Option Ident)
  /-- Any other form, by its text. -/
  | other (text : String)

/-- A sort key, its direction if it is written, and whether nulls come first if that is written. -/
structure SortItem where
  expr : Expr
  ascending : Option Bool
  nullsFirst : Option Bool
  /-- The rows that are put into the gaps between the values of the key. -/
  fill : Option String := none

/-- What rows are sorted by. -/
inductive SortKeys where
  | listed (items : List SortItem)
  /-- All columns of the result. -/
  | all (ascending nullsFirst : Option Bool)

/-- The order of rows. -/
structure Order where
  keys : SortKeys
  /-- How the other columns of rows that fill gaps are found. -/
  interpolation : Option String := none

/-- The bounds on the number of rows. -/
inductive Bounds where
  /-- A limit, and an offset with the word behind it.  With keys the limit is one for each group of
  rows that agree on them. -/
  | limitOffset (limit : Option Expr) (offset : Option (Expr × String)) (keys : List String)
  /-- `LIMIT offset, limit`. -/
  | pair (offset limit : Expr)

/-- What rows are grouped by. -/
structure Grouping where
  /-- The keys; nothing stands for all columns that are no totals. -/
  keys : Option (List String)
  /-- Further totals, and further sets of keys. -/
  totals : List String

/-- No groups. -/
def Grouping.absent : Grouping :=
  { keys := some [], totals := [] }

/-- A `SELECT`.  Clauses that the gateway refuses or leaves out are texts. -/
structure Select where
  /-- The type that each row is made one value of. -/
  valueTable : Option String := none
  distinct : Option String
  top : Option String
  items : List SelectItem
  /-- The columns that are left out of the result. -/
  exclude : Option String := none
  into : Option String
  sources : List TableSource
  lateralViews : List String
  /-- The condition that is tested before the others. -/
  prewhere : Option String := none
  condition : Option Expr
  groupBy : Grouping
  clustering : List String
  having : Option Expr
  /-- Windows that are given names. -/
  windows : Option String
  /-- The condition on windows. -/
  qualify : Option String
  /-- Whether the condition on windows stands before the windows. -/
  qualifyFirst : Bool
  /-- How each row leads to further rows. -/
  connectBy : Option String := none

/-- Rows written out. -/
structure Values where
  /-- The keyword, `VALUES` or `VALUE`. -/
  keyword : String
  /-- Whether the word `ROW` stands before a row. -/
  explicitRow : Bool
  rows : List (List Expr)

/-- The body of a query. -/
inductive Body where
  | select (s : Select)
  | values (v : Values)
  /-- Any other body, by its text. -/
  | other (text : String)

/-- A lock on the rows, or the form that the result is written in. -/
structure Lock where
  text : String
  /-- Whether rows that others have locked are left out. -/
  skipsLocked : Bool

/-- A query. -/
structure Query where
  /-- The text of the `WITH` clause. -/
  preamble : Option String
  body : Body
  order : Option Order
  bounds : Option Bounds
  settings : List String := []
  fetch : Option String
  /-- The locks, and the form that the result is written in. -/
  locks : List Lock
  /-- The format of the result. -/
  format : Option String := none
  /-- The steps that the rows are passed through. -/
  pipes : List String := []

/-- A query that consists of its body. -/
def Query.ofBody (preamble : Option String) (body : Body) : Query :=
  { preamble, body, order := none, bounds := none, fetch := none, locks := [] }

/-! ### Commands -/

/-- `target = value`, the target by its text. -/
structure SetItem where
  target : String
  value : Expr

/-- What rows are put into. -/
inductive InsertTarget where
  | table (name : List Ident)
  /-- A function that takes the rows, by its text. -/
  | function (text : String)

/-- An `INSERT` or `REPLACE`.  Clauses that the gateway refuses or leaves out are texts. -/
structure Insert where
  replaces : Bool
  ignores : Bool
  /-- What is done about a conflict, as far as a word after `OR` says it. -/
  choice : Option String
  priority : Option String
  /-- Whether the new rows take the place of all others. -/
  overwrites : Bool
  /-- The further words before the table, each with a blank before it. -/
  opening : String
  target : InsertTarget
  /-- Another name for the table. -/
  label : Option Ident := none
  columns : List Ident
  partition : Option String
  /-- Further columns, written behind the partition. -/
  laterColumns : List Ident := []
  settings : List String := []
  assignments : List SetItem
  source : Option Query
  /-- Rows written in a format of their own. -/
  formatted : Option String := none
  /-- Another name for the new row. -/
  rowName : Option String
  /-- What is done about rows that exist already. -/
  onConflict : Option String
  returning : Option String

/-- The further tables of an update, before or behind the assignments. -/
inductive UpdateSources where
  | before (sources : List TableSource)
  | behind (sources : List TableSource)

/-- An `UPDATE`. -/
structure Update where
  /-- What is done about a conflict, as far as a word after `OR` says it. -/
  choice : Option String
  target : TableSource
  sources : Option UpdateSources
  assignments : List SetItem
  condition : Option Expr
  returning : Option String
  limit : Option Expr

/-- A `DELETE`. -/
structure Delete where
  /-- The tables named before `FROM`. -/
  targets : List (List Ident)
  sources : List TableSource
  extraSources : List TableSource
  condition : Option Expr
  returning : Option String
  order : List SortItem
  limit : Option Expr

/-- A parsed statement. -/
inductive Command where
  | query (q : Query)
  | insert (i : Insert)
  | update (u : Update)
  | delete (d : Delete)
  /-- Any other statement, by the first word of its canonical text. -/
  | other (keyword : String)

end SqlGateway.Sql
