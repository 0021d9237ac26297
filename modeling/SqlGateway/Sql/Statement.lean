import SqlGateway.Error
import SqlGateway.Sql.Parser.Command
import SqlGateway.Value.Literal

/-!
# Statements from SQL

A parsed statement becomes one of the four that the gateway knows, or is refused with the construct
that stands in the way.  Where several do, the order of the checks decides which one is named.
-/

namespace SqlGateway.Sql

/-! ### Values and columns -/

/-- The value of a literal. -/
def Literal.toValue : Literal → Except Error Value
  | null => .ok .null
  | bool b => .ok (.bool b)
  | number text _ =>
    match Value.ofNumeral? text.toList with
    | some value => .ok value
    | none => .error (.value (.numeral text))
  | string _ text => .ok (.string text)
  | placeholder text => .error (.value (.placeholder text))
  | other => .error (.value (.expression other.sqlText))

/-- A number with the opposite sign. -/
def negated : Value → Except Error Value
  | .int n => .ok (.int (-n))
  | .float x => .ok (.float (-x))
  | value => .error (.value (.negated value))

namespace Expr

mutual

/-- The value of an expression.  A bare name is a text, and a tuple a list. -/
def toValue : Expr → Except Error Value
  | literal value => value.toValue
  | group inner => toValue inner
  | unary .minus operand => toValue operand >>= negated
  | unary .plus operand => toValue operand
  | name id => .ok (.string id.text)
  | tuple items => Value.list <$> toValues items
  | binary _ op _ => .error (.operator op.sqlText)
  | e => .error (.value (.expression e.sqlText))

/-- The values of expressions. -/
def toValues : List Expr → Except Error (List Value)
  | [] => .ok []
  | e :: rest => do
    let value ← toValue e
    return value :: (← toValues rest)

end

/-- The column that an expression names; of a qualified name the last part. -/
def columnName : Expr → Except Error String
  | name id => .ok id.text
  | qualified parts =>
    match parts.getLast? with
    | some id => .ok id.text
    | none => .error (.unsupported .emptyColumn)
  | group inner => columnName inner
  | binary _ op _ => .error (.operator op.sqlText)
  | e => .error (.unsupported (.columnExpression e.sqlText))

/-- The count that the value of an expression gives, which is an integer and not negative. -/
def countOfValue (e : Expr) : Except Error Nat :=
  match toValue e with
  | .ok (.int n) => if 0 ≤ n then .ok n.toNat else .error (.value (.count e.sqlText))
  | _ => .error (.value (.count e.sqlText))

/-- The count that an expression gives.  Counts have 64 bits without a sign. -/
def toCount : Expr → Except Error Nat
  | literal (.number text isLong) =>
    match Decimal.readUInt64? text.toList with
    | some n => .ok n
    | none => countOfValue (literal (.number text isLong))
  | e => countOfValue e

end Expr

/-! ### Conditions -/

/-- The comparison that an operator stands for. -/
def BinaryOp.toOperator : BinaryOp → Except Error Operator
  | eq => .ok .eq
  | neq => .ok .neq
  | gt => .ok .gt
  | gte => .ok .gte
  | lt => .ok .lt
  | lte => .ok .lte
  | op => .error (.operator op.sqlText)

/-- The condition that an expression states. -/
def Expr.toPredicate : Expr → Except Error Predicate
  | group inner => toPredicate inner
  | binary left .and right => do
    let first ← toPredicate left
    return .and first (← toPredicate right)
  | binary left .or right => do
    let first ← toPredicate left
    return .or first (← toPredicate right)
  | binary left op right => do
    let op ← op.toOperator
    let column ← left.columnName
    return .compare { column, op, value := ← right.toValue }
  | inList operand items false => do
    let values ← toValues items
    return .compare { column := ← operand.columnName, op := .isIn, value := .list values }
  | inList _ _ true => .error (.operator "NOT IN")
  | isNull operand false => do
    return .compare { column := ← operand.columnName, op := .is, value := .null }
  | isBool operand truth false => do
    return .compare { column := ← operand.columnName, op := .is, value := .bool truth }
  | isNull _ true => .error (.operator "IS NOT")
  | isBool _ _ true => .error (.operator "IS NOT")
  | like operand pattern _ false caseless _ => do
    let column ← operand.columnName
    let op := if caseless then Operator.ilike else Operator.like
    return .compare { column, op, value := ← pattern.toValue }
  | like _ _ _ true caseless _ =>
    .error (.operator (if caseless then "NOT ILIKE" else "NOT LIKE"))
  | e => .error (.unsupported (.whereExpression e.sqlText))

/-- The condition of an optional clause. -/
def optionalPredicate (condition : Option Expr) : Except Error (Option Predicate) :=
  condition.mapM Expr.toPredicate

/-! ### Tables -/

/-- Whether a character is a quote that may surround a name. -/
def isNameQuote (c : Char) : Bool :=
  c == '\x60' || c == '"'

/-- A name without the quotes at its two ends. -/
def bareName (name : String) : String :=
  String.ofList ((name.toList.dropWhile isNameQuote).reverse.dropWhile isNameQuote).reverse

/-- The name of a table that nothing is joined to. -/
def TableSource.tableName (kind : StatementKind) (source : TableSource) : Except Error String :=
  if source.joins.isEmpty then
    match source.table with
    | .named table => .ok (bareName (nameText table.name))
    | table => .error (.unsupported (.tableExpression kind table.sqlText))
  else .error (.unsupported .join)

/-- The name of the only table among those given. -/
def onlyTable (kind : StatementKind) (several : Construct) :
    List TableSource → Except Error String
  | [] => .error (.missingTable kind)
  | [source] => source.tableName kind
  | _ => .error (.unsupported several)

/-- Refuses a construct where it is used. -/
def refuse (isUsed : Bool) (construct : Construct) : Except Error Unit :=
  if isUsed then .error (.unsupported construct) else .ok ()

/-! ### Queries -/

/-- The column that an entry of a select list stands for. -/
def SelectItem.toColumn : SelectItem → Except Error SelectColumn
  | star => .ok .star
  | starBut _ => .ok .star
  | expr e label => do return .named (← e.columnName) (label.map Ident.text)
  | item => .error (.unsupported (.selectItem item.sqlText))

/-- The column to sort by, and its direction. -/
def SortItem.toKey (item : SortItem) : Except Error OrderKey := do
  return {
    column := ← item.expr.columnName
    direction := if item.ascending = some false then .descending else .ascending }

/-- The keys to sort by. -/
def SortKeys.toKeys : SortKeys → Except Error (List OrderKey)
  | listed items => items.mapM SortItem.toKey
  | all _ _ => .error (.unsupported .orderByAll)

/-- The keys to sort by of a query that may have no order. -/
def optionalKeys : Option Order → Except Error (List OrderKey)
  | none => .ok []
  | some order => order.keys.toKeys

/-- The limit and the offset. -/
def Bounds.toCounts : Bounds → Except Error (Option Nat × Option Nat)
  | limitOffset limit offset keys => do
    refuse (!keys.isEmpty) .limitBy
    let count ← limit.mapM Expr.toCount
    return (count, ← offset.mapM fun part => part.1.toCount)
  | pair offset limit => do
    let count ← limit.toCount
    return (some count, some (← offset.toCount))

/-- The limit and the offset of a query that may have no bounds. -/
def optionalCounts : Option Bounds → Except Error (Option Nat × Option Nat)
  | none => .ok (none, none)
  | some bounds => bounds.toCounts

/-- Whether there are keys to group by. -/
def Grouping.isUsed (grouping : Grouping) : Bool :=
  match grouping.keys with
  | none => true
  | some keys => !keys.isEmpty

/-- The query for rows that a query states. -/
def Query.toSelect (q : Query) : Except Error SelectStatement := do
  refuse q.preamble.isSome .withClause
  match q.body with
  | .select s =>
    refuse s.distinct.isSome .distinct
    refuse s.groupBy.isUsed .groupBy
    refuse s.having.isSome .having
    let table ← onlyTable .select .severalTables s.sources
    let columns ← s.items.mapM SelectItem.toColumn
    let filter ← optionalPredicate s.condition
    let order ← optionalKeys q.order
    let (limit, offset) ← optionalCounts q.bounds
    return { table, columns, filter, order, limit, offset }
  | _ => .error (.unsupported .setOperation)

/-! ### Changes -/

/-- The rows that the source of an insertion writes out. -/
def writtenRows : Option Query → Except Error (List (List Value))
  | none => .error (.unsupported .insertWithoutValues)
  | some source =>
    match source.body with
    | .values v => v.rows.mapM Expr.toValues
    | _ => .error (.unsupported .insertSelect)

/-- The new rows that an insertion states. -/
def Insert.toInsert (i : Insert) : Except Error InsertStatement := do
  refuse i.replaces .replaceInto
  refuse i.ignores .insertIgnore
  refuse i.onConflict.isSome .insertOnDuplicateKey
  refuse (!i.assignments.isEmpty) .insertSet
  refuse i.returning.isSome .insertReturning
  refuse i.columns.isEmpty .insertWithoutColumns
  let rows ← writtenRows i.source
  return { table := bareName i.target.sqlText, columns := i.columns.map Ident.text, rows }

/-- The assignment that an item of a `SET` list states. -/
def SetItem.toAssignment (item : SetItem) : Except Error Assignment := do
  return { column := bareName item.target, value := ← item.value.toValue }

/-- The change of rows that an update states. -/
def Update.toUpdate (u : Update) : Except Error UpdateStatement := do
  refuse u.limit.isSome .updateLimit
  refuse u.sources.isSome .updateFrom
  refuse u.returning.isSome .updateReturning
  refuse u.choice.isSome .updateOr
  let table ← u.target.tableName .update
  let assignments ← u.assignments.mapM SetItem.toAssignment
  return { table, assignments, filter := ← optionalPredicate u.condition }

/-- The removal of rows that a deletion states. -/
def Delete.toDelete (d : Delete) : Except Error DeleteStatement := do
  refuse (!d.targets.isEmpty) .deleteFromSeveral
  refuse d.limit.isSome .deleteLimit
  let table ← onlyTable .delete .deleteFromSeveral d.sources
  return { table, filter := ← optionalPredicate d.condition }

/-! ### Statements -/

/-- The statement that a parsed one stands for. -/
def Command.toStatement : Command → Except Error Statement
  | query q => .select <$> q.toSelect
  | insert i => .insert <$> i.toInsert
  | update u => .update <$> u.toUpdate
  | delete d => .delete <$> d.toDelete
  | other keyword => .error (.statementKind keyword)

end SqlGateway.Sql

namespace SqlGateway

/-- The statement in a text, which holds exactly one. -/
def Statement.ofSql (text : List Char) : Except Error Statement :=
  match Sql.Command.ofText? text with
  | none => .error .grammar
  | some [] => .error .noStatement
  | some [command] => command.toStatement
  | some _ => .error (.unsupported .multipleStatements)

end SqlGateway
