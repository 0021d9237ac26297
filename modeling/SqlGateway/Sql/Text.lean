import SqlGateway.Sql.Ast

/-!
# The canonical text of SQL

How parsed SQL is written again: keywords in capitals, one space between words, and the literals and
names as they were read.  Error messages quote these texts.
-/

namespace SqlGateway.Sql

/-- Texts with a separator between them. -/
def commaText (texts : List String) : String :=
  ", ".intercalate texts

/-! ### Names and literals -/

/-- A text with its quotes doubled, as far as they are not doubled or escaped already: a quote after
a backslash is left alone, and so is a pair of quotes.  `before` is the character before. -/
def requoted (quote : Char) (before : Char) : List Char → List Char
  | [] => []
  | [c] => if c = quote && before ≠ '\\' then [quote, quote] else [c]
  | c :: d :: rest =>
    if c = quote then
      if before = '\\' then c :: requoted quote before (d :: rest)
      else if d = quote then c :: d :: requoted quote c rest
      else c :: c :: requoted quote c (d :: rest)
    else c :: requoted quote c (d :: rest)

/-- A text between quotes. -/
def quotedText (quote : Char) (text : String) : String :=
  String.ofList (quote :: (requoted quote '\x00' text.toList ++ [quote]))

/-- The text of a name. -/
def Ident.sqlText (id : Ident) : String :=
  match id.quote with
  | none => id.text
  | some quote => quotedText quote id.text

/-- The text of names with points between them. -/
def nameText (parts : List Ident) : String :=
  ".".intercalate (parts.map Ident.sqlText)

/-- The text of a literal. -/
def Literal.sqlText : Literal → String
  | null => "NULL"
  | bool true => "true"
  | bool false => "false"
  | number text isLong => if isLong then text ++ "L" else text
  | string quote text => quotedText quote text
  | bytes quote text => "B" ++ String.singleton quote ++ text ++ String.singleton quote
  | national text => "N'" ++ text ++ "'"
  | hex text => "X'" ++ text ++ "'"
  | placeholder text => text

/-! ### Expressions -/

/-- The text of an operator, with the blank that follows a word. -/
def UnaryOp.sqlText : UnaryOp → String
  | plus => "+"
  | minus => "-"
  | not => "NOT "
  | complement => "~"

/-- The text of an operator. -/
def BinaryOp.sqlText : BinaryOp → String
  | and => "AND"
  | or => "OR"
  | eq => "="
  | neq => "<>"
  | gt => ">"
  | gte => ">="
  | lt => "<"
  | lte => "<="
  | other spelling => spelling

/-- The word before a negated operator. -/
def negationText (negated : Bool) : String :=
  if negated then "NOT " else ""

namespace Expr

mutual

/-- The text of an expression. -/
def sqlText : Expr → String
  | name id => id.sqlText
  | qualified parts => nameText parts
  | literal value => value.sqlText
  | group inner => "(" ++ sqlText inner ++ ")"
  | tuple items => "(" ++ commaText (sqlTexts items) ++ ")"
  | unary op operand => op.sqlText ++ sqlText operand
  | binary left op right => sqlText left ++ " " ++ op.sqlText ++ " " ++ sqlText right
  | inList operand items negated =>
    sqlText operand ++ " " ++ negationText negated ++ "IN (" ++ commaText (sqlTexts items) ++ ")"
  | like operand pattern escape negated caseless any =>
    sqlText operand ++ " " ++ negationText negated ++ (if caseless then "ILIKE " else "LIKE ") ++
      (if any then "ANY " else "") ++ sqlText pattern ++
      (match escape with
      | none => ""
      | some value => " ESCAPE " ++ value.sqlText)
  | isNull operand negated => sqlText operand ++ " IS " ++ negationText negated ++ "NULL"
  | isBool operand truth negated =>
    sqlText operand ++ " IS " ++ negationText negated ++ (if truth then "TRUE" else "FALSE")
  | between operand low high negated =>
    sqlText operand ++ " " ++ negationText negated ++ "BETWEEN " ++ sqlText low ++ " AND " ++
      sqlText high
  | call callee tail => nameText callee ++ tail
  | bracedCall callee tail => "\x7bfn " ++ nameText callee ++ tail ++ "\x7d"
  | subquery text => "(" ++ text ++ ")"
  | access text => text
  | other text => text

/-- The texts of expressions. -/
def sqlTexts : List Expr → List String
  | [] => []
  | item :: rest => sqlText item :: sqlTexts rest

end

end Expr

/-- A clause that may be left out, with what stands before it. -/
def clauseText (opening : String) : Option String → String
  | none => ""
  | some text => opening ++ text

/-- Texts with commas between them, with what stands before and behind them; empty without any. -/
def listText (opening : String) (texts : List String) (closing : String) : String :=
  if texts.isEmpty then "" else opening ++ commaText texts ++ closing

/-! ### Tables -/

/-- The text of another name for a table, with the blank before it. -/
def TableLabel.sqlText (label : TableLabel) : String :=
  (if label.isExplicit then " AS " else " ") ++ label.name.sqlText ++
    listText " (" label.columns ")"

/-- The text of what rows come from. -/
def TableFactor.sqlText : TableFactor → String
  | named table =>
    nameText table.name ++ clauseText "" table.path ++
      listText "PARTITION (" (table.partitions.map Ident.sqlText) ")" ++
      clauseText "(" (table.arguments.map (commaText · ++ ")")) ++
      (if table.ordinality then " WITH ORDINALITY" else "") ++
      (table.label.map TableLabel.sqlText).getD "" ++
      String.join (table.indexHints.map (" " ++ ·)) ++ listText " WITH (" table.hints ")" ++
      clauseText " " table.version ++ clauseText " " table.sample
  | joined text => text
  | other text => text

/-- The text of a table with its joins. -/
def TableSource.sqlText (source : TableSource) : String :=
  source.table.sqlText ++ String.join source.joins

/-- The text of tables with commas between them, with what stands before them. -/
def sourcesText (opening : String) (sources : List TableSource) : String :=
  listText opening (sources.map TableSource.sqlText) ""

/-! ### Queries -/

/-- The text of an entry of a select list. -/
def SelectItem.sqlText : SelectItem → String
  | star => "*"
  | starBut changes => "* " ++ changes
  | qualifiedStar name => nameText name ++ ".*"
  | expr e none => e.sqlText
  | expr e (some label) => e.sqlText ++ " AS " ++ label.sqlText
  | other text => text

/-- The text of a direction and of the place of nulls. -/
def directionText (ascending nullsFirst : Option Bool) : String :=
  (match ascending with
    | none => ""
    | some true => " ASC"
    | some false => " DESC") ++
  (match nullsFirst with
    | none => ""
    | some true => " NULLS FIRST"
    | some false => " NULLS LAST")

/-- The text of a sort key. -/
def SortItem.sqlText (item : SortItem) : String :=
  item.expr.sqlText ++ directionText item.ascending item.nullsFirst ++ clauseText " " item.fill

/-- The text of sort keys. -/
def orderText (items : List SortItem) : String :=
  listText " ORDER BY " (items.map SortItem.sqlText) ""

/-- The text of an order. -/
def Order.sqlText (order : Order) : String :=
  (match order.keys with
    | .listed items => orderText items
    | .all ascending nullsFirst => " ORDER BY ALL" ++ directionText ascending nullsFirst) ++
  clauseText " " order.interpolation

/-- The text of the bounds of a query. -/
def Bounds.sqlText : Bounds → String
  | limitOffset limit offset keys =>
    clauseText " LIMIT " (limit.map Expr.sqlText) ++
      clauseText " OFFSET " (offset.map fun (e, rows) => e.sqlText ++ rows) ++
      listText " BY " keys ""
  | pair offset limit => " LIMIT " ++ offset.sqlText ++ ", " ++ limit.sqlText

/-- The text of what rows are grouped by. -/
def Grouping.sqlText (grouping : Grouping) : String :=
  match grouping.keys with
  | none => " GROUP BY ALL" ++ String.join grouping.totals
  | some keys => listText " GROUP BY " keys (String.join grouping.totals)

/-- The text of a `SELECT`. -/
def Select.sqlText (s : Select) : String :=
  "SELECT" ++ clauseText " " s.valueTable ++ clauseText " " s.distinct ++ clauseText " " s.top ++
    listText " " (s.items.map SelectItem.sqlText) "" ++ clauseText " " s.exclude ++
    clauseText " INTO " s.into ++ sourcesText " FROM " s.sources ++
    String.join s.lateralViews ++ clauseText " PREWHERE " s.prewhere ++
    clauseText " WHERE " (s.condition.map Expr.sqlText) ++
    s.groupBy.sqlText ++ String.join s.clustering ++
    clauseText " HAVING " (s.having.map Expr.sqlText) ++
    (if s.qualifyFirst then clauseText " QUALIFY " s.qualify ++ clauseText " WINDOW " s.windows
      else clauseText " WINDOW " s.windows ++ clauseText " QUALIFY " s.qualify) ++
    clauseText " " s.connectBy

/-- The text of rows written out. -/
def Values.sqlText (v : Values) : String :=
  v.keyword ++ " " ++ commaText (v.rows.map fun row =>
    (if v.explicitRow then "ROW(" else "(") ++ commaText (Expr.sqlTexts row) ++ ")")

/-- The text of a body. -/
def Body.sqlText : Body → String
  | select s => s.sqlText
  | values v => v.sqlText
  | other text => text

/-- The text of a lock. -/
def Lock.sqlText (lock : Lock) : String :=
  lock.text ++ (if lock.skipsLocked then " SKIP LOCKED" else "")

/-- The text of a query. -/
def Query.sqlText (q : Query) : String :=
  (match q.preamble with
  | none => ""
  | some text => text ++ " ") ++
    q.body.sqlText ++ (q.order.map Order.sqlText).getD "" ++
    (q.bounds.map Bounds.sqlText).getD "" ++ listText " SETTINGS " q.settings "" ++
    clauseText " " q.fetch ++ String.join (q.locks.map fun lock => " " ++ lock.sqlText) ++
    clauseText " " q.format ++ String.join (q.pipes.map (" |> " ++ ·))

/-! ### Changes -/

/-- The text of an assignment. -/
def SetItem.sqlText (item : SetItem) : String :=
  item.target ++ " = " ++ item.value.sqlText

/-- The text of assignments. -/
def assignmentsText (items : List SetItem) : String :=
  commaText (items.map SetItem.sqlText)

/-- The text of what rows are put into. -/
def InsertTarget.sqlText : InsertTarget → String
  | table name => nameText name
  | function text => "FUNCTION " ++ text

/-- What stands before the columns of an insertion. -/
def Insert.headText (i : Insert) : String :=
  (match i.choice with
  | some choice => "INSERT " ++ choice ++ " INTO"
  | none =>
    (if i.replaces then "REPLACE" else "INSERT") ++ clauseText " " i.priority ++
      (if i.ignores then " IGNORE" else "") ++ (if i.overwrites then " OVERWRITE" else "") ++
      i.opening) ++
    " " ++ i.target.sqlText ++ clauseText " AS " (i.label.map Ident.sqlText) ++ " "

/-- The text of an insertion. -/
def Insert.sqlText (i : Insert) : String :=
  i.headText ++
    listText "(" (i.columns.map Ident.sqlText) ") " ++
    clauseText "PARTITION (" (i.partition.map (· ++ ") ")) ++
    listText "(" (i.laterColumns.map Ident.sqlText) ") " ++
    listText "SETTINGS " i.settings " " ++
    (match i.source, i.formatted with
    | some source, _ => source.sqlText
    | none, formatted =>
      if !i.assignments.isEmpty then "SET " ++ assignmentsText i.assignments
      else formatted.getD "DEFAULT VALUES") ++
    clauseText " AS " i.rowName ++ clauseText " ON " i.onConflict ++
    clauseText " RETURNING " i.returning

/-- The text of an update. -/
def Update.sqlText (u : Update) : String :=
  "UPDATE " ++ clauseText "" (u.choice.map (· ++ " ")) ++ u.target.sqlText ++
    (match u.sources with
    | some (.before sources) =>
      sourcesText " FROM " sources ++ " SET " ++ assignmentsText u.assignments
    | some (.behind sources) =>
      " SET " ++ assignmentsText u.assignments ++ sourcesText " FROM " sources
    | none => " SET " ++ assignmentsText u.assignments) ++
    clauseText " WHERE " (u.condition.map Expr.sqlText) ++ clauseText " RETURNING " u.returning ++
    clauseText " LIMIT " (u.limit.map Expr.sqlText)

/-- The text of a deletion. -/
def Delete.sqlText (d : Delete) : String :=
  "DELETE" ++ listText " " (d.targets.map nameText) "" ++
    sourcesText " FROM " d.sources ++ sourcesText " USING " d.extraSources ++
    clauseText " WHERE " (d.condition.map Expr.sqlText) ++ clauseText " RETURNING " d.returning ++
    orderText d.order ++ clauseText " LIMIT " (d.limit.map Expr.sqlText)

end SqlGateway.Sql
