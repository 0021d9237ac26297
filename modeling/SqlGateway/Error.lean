import SqlGateway.Statement.Basic
import SqlGateway.Text.Quoted

/-!
# Errors

Each way in which the gateway can fail is a cause with the data that describe it.  `Error.message`
words it, and `Error.status` is the status that a service would answer with; without one, the
caller's default applies.
-/

namespace SqlGateway

/-- Where a list of inserted values stops making sense. -/
inductive ListFault where
  /-- The very first item cannot be read; the text is what stands in its place. -/
  | noItem (rest : String)
  /-- Something other than a comma follows an item. -/
  | leftOver (rest : String)

/-- Why a statement fits none of the short shapes. -/
inductive ShapeError where
  | format (kind : StatementKind)
  | fieldList (text : String)
  | columnList (text : String)
  | condition (text : String) (kind : StatementKind)
  | valueList (text : String) (fault : ListFault)

/-- What cannot be expressed as a request to the table service. -/
inductive Construct where
  | multipleStatements
  | replaceInto
  | insertIgnore
  | insertOnDuplicateKey
  | insertSet
  | insertReturning
  | insertWithoutColumns
  | insertWithoutValues
  | insertSelect
  | insertWithoutRows
  | updateLimit
  | updateFrom
  | updateReturning
  | updateOr
  | updateWithoutAssignments
  | deleteFromSeveral
  | deleteLimit
  | withClause
  | setOperation
  | distinct
  | groupBy
  | having
  | severalTables
  | join
  | orderByAll
  | limitBy
  | tableExpression (kind : StatementKind) (text : String)
  | selectItem (text : String)
  | emptyColumn
  | columnExpression (text : String)
  | whereExpression (text : String)
  | andInsideOr

/-- Why something is no value of the kind needed. -/
inductive ValueFault where
  | numeral (text : String)
  | placeholder (text : String)
  | expression (text : String)
  | negated (value : Value)
  | count (text : String)
  | truthOperand (value : Value)
  | listOperand (op : Operator) (column : String)

/-- Why the table service could not be asked, or its answer not be read. -/
inductive HttpFault where
  /-- There is no response, for the reason that the transport gives. -/
  | transport (text : String)
  | undecodableBody

/-- Why there is no configuration. -/
inductive ConfigFault where
  | urlNotSet
  | unreadable

/-- The ways in which the gateway fails. -/
inductive Error where
  /-- The text does not follow the grammar of SQL. -/
  | grammar
  /-- The text holds no statement. -/
  | noStatement
  | shape (fault : ShapeError)
  | arity (columns values : Nat)
  | identifier (name : String)
  | tableNotAllowed (table : String)
  | statementKind (keyword : String)
  | operator (symbol : String)
  | unsupported (construct : Construct)
  | value (fault : ValueFault)
  | missingTable (kind : StatementKind)
  | config (fault : ConfigFault)
  | http (fault : HttpFault)
  | io

namespace ListFault

/-- The wording of a fault in a list of values. -/
def message : ListFault → String
  | noItem rest =>
    "Error(Error \x7b input: " ++ Text.quoted rest ++ ", code: TakeWhile1 \x7d)"
  | leftOver rest => "Error(Error \x7b input: " ++ Text.quoted rest ++ ", code: Eof \x7d)"

end ListFault

namespace ShapeError

/-- The wording of a shape error. -/
def message : ShapeError → String
  | format kind => "Unrecognized " ++ kind.text ++ " statement format"
  | fieldList text => "Unsupported field list '" ++ text ++ "'"
  | columnList text => "Unsupported column list '" ++ text ++ "'"
  | condition text kind =>
    "WHERE clause '" ++ text ++ "' is not supported by the simple " ++ kind.text ++ " path"
  | valueList text fault => "Malformed VALUES list '" ++ text ++ "': " ++ fault.message

end ShapeError

namespace Construct

/-- The name of a construct. -/
def text : Construct → String
  | multipleStatements => "multiple statements"
  | replaceInto => "REPLACE INTO"
  | insertIgnore => "INSERT IGNORE"
  | insertOnDuplicateKey => "INSERT ... ON DUPLICATE KEY UPDATE"
  | insertSet => "INSERT ... SET"
  | insertReturning => "INSERT ... RETURNING"
  | insertWithoutColumns => "INSERT without a column list"
  | insertWithoutValues => "INSERT without VALUES"
  | insertSelect => "INSERT ... SELECT"
  | insertWithoutRows => "INSERT without rows"
  | updateLimit => "UPDATE ... LIMIT"
  | updateFrom => "UPDATE ... FROM"
  | updateReturning => "UPDATE ... RETURNING"
  | updateOr => "UPDATE OR ..."
  | updateWithoutAssignments => "UPDATE without assignments"
  | deleteFromSeveral => "multi-table DELETE"
  | deleteLimit => "DELETE ... LIMIT"
  | withClause => "WITH"
  | setOperation => "set operations and subqueries"
  | distinct => "DISTINCT"
  | groupBy => "GROUP BY"
  | having => "HAVING"
  | severalTables => "multiple tables in FROM"
  | join => "JOIN"
  | orderByAll => "ORDER BY ALL"
  | limitBy => "LIMIT BY"
  | tableExpression kind text => kind.text ++ " target " ++ text
  | selectItem text => "select item " ++ text
  | emptyColumn => "empty column reference"
  | columnExpression text => "expression " ++ text
  | whereExpression text => "WHERE expression " ++ text
  | andInsideOr => "AND nested inside OR"

end Construct

namespace ValueFault

/-- The wording of a value fault. -/
def message : ValueFault → String
  | numeral text => "invalid numeric literal: " ++ text
  | placeholder text => "parameter placeholder " ++ text ++ " is not supported"
  | expression text => text
  | negated value => "-" ++ value.sqlText
  | count text => "expected a non-negative integer, got " ++ text
  | truthOperand value => "IS expects NULL, TRUE or FALSE, got " ++ value.sqlText
  | listOperand op column => "list value for " ++ op.symbol ++ " on column " ++ column

end ValueFault

namespace HttpFault

/-- The wording of a transport fault. -/
def message : HttpFault → String
  | transport text => text
  | undecodableBody => "invalid response body: error decoding response body"

end HttpFault

namespace ConfigFault

/-- The wording of a configuration fault. -/
def message : ConfigFault → String
  | urlNotSet => "rest.url is not set"
  | unreadable => ""

end ConfigFault

namespace Error

/-- The wording of an error. -/
def message : Error → String
  | grammar => "Syntax error"
  | noStatement => "Syntax error: empty statement"
  | shape fault => "Invalid statement: " ++ fault.message
  | arity columns values =>
    "Column count (" ++ toString columns ++ ") does not match value count (" ++ toString values ++
      ")"
  | identifier name => "Invalid identifier: '" ++ name ++ "'"
  | tableNotAllowed table => "Table not allowed: '" ++ table ++ "'"
  | statementKind keyword => "Unsupported query type: " ++ keyword
  | operator symbol => "Unsupported operator: " ++ symbol
  | unsupported construct => "Unsupported construct: " ++ construct.text
  | value fault => "Invalid value: " ++ fault.message
  | missingTable kind => "No table found in " ++ kind.text ++ " statement"
  | config fault => "Configuration error: " ++ fault.message
  | http fault => "HTTP error: " ++ fault.message
  | io => "IO error: "

/-- The status of an error, if it has one of its own. -/
def status : Error → Option Nat
  | shape _ => some 400
  | arity _ _ => some 400
  | identifier _ => some 400
  | tableNotAllowed _ => some 403
  | _ => none

/-- Whether an error is about a text that the grammar has read.  For such a text no shape is tried
any more. -/
def isGrammatical : Error → Bool
  | grammar => false
  | noStatement => false
  | _ => true

end Error

end SqlGateway
