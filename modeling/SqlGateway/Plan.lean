import SqlGateway.Outcome
import SqlGateway.Request.OfStatement
import SqlGateway.Shape.Normalize
import SqlGateway.Shape.Recognize
import SqlGateway.Sql.Statement

/-!
# Plans

A plan is the statement found in a text together with the request it becomes.  A text of a short
shape is read without the grammar.  Otherwise the grammar reads it; a text that the grammar refuses
gets a second, more lenient try at the shape that its keyword names.  Whatever the way, the table
has to be a plain identifier and, if there is a list of allowed tables, has to be in it.
-/

namespace SqlGateway

/-- The way in which a statement was found. -/
inductive Route where
  | simple
  | parsed
  | fallback
  deriving DecidableEq, Repr

/-- The name of a route. -/
def Route.name : Route → String
  | simple => "simple"
  | parsed => "parsed"
  | fallback => "fallback"

/-- A statement that is ready to be executed. -/
structure Plan where
  route : Route
  statement : Statement
  request : Request

namespace Plan

/-- Whether a text contains another. -/
def contains (part : List Char) : List Char → Bool
  | [] => part.isEmpty
  | c :: rest => part.isPrefixOf (c :: rest) || contains part rest

/-- The kind that a refused text seems to be of: that of its first word, or else the first kind
whose keyword stands anywhere in it. -/
def seemingKind (text : List Char) : Option StatementKind :=
  let small := text.map Char.toLower
  let first := Text.firstPart small
  match StatementKind.all.find? fun kind => first == kind.keyword.toList with
  | some kind => some kind
  | none => StatementKind.all.find? fun kind => contains kind.keyword.toList small

/-- Refuses a table that is no plain identifier or not among those allowed. -/
def checkTable (allowed : Option (List String)) (table : String) : Except Error Unit := do
  checkIdentifier table
  match allowed with
  | none => return
  | some tables => if tables.contains table then return else .error (.tableNotAllowed table)

/-- The plan for a statement. -/
def ofStatement (allowed : Option (List String)) (route : Route) (statement : Statement) :
    Except Error Plan := do
  checkTable allowed statement.table
  return { route, statement, request := ← statement.toRequest }

/-- The second try at a text that the grammar refused for the given reason. -/
def recover (allowed : Option (List String)) (fault : Error) (text : List Char) :
    Except Error Plan :=
  match seemingKind text with
  | none => .error fault
  | some kind => do
    match ← Shape.recognize kind .fallback text with
    | some statement => ofStatement allowed .fallback statement
    | none => .error (.shape (.format kind))

/-- The plan that the grammar gives for a normalized text. -/
def ofGrammar (allowed : Option (List String)) (text : List Char) : Except Error Plan :=
  match Statement.ofSql text with
  | .ok statement => ofStatement allowed .parsed statement
  | .error fault => if fault.isGrammatical then .error fault else recover allowed fault text

/-- The plan for a normalized text. -/
def ofNormalized (allowed : Option (List String)) (text : List Char) : Except Error Plan :=
  match Shape.classify text with
  | none => ofGrammar allowed text
  | some kind => do
    match ← Shape.recognize kind .fast text with
    | some statement => ofStatement allowed .simple statement
    | none => ofGrammar allowed text

/-- The plan for a text. -/
def ofSql (allowed : Option (List String)) (sql : String) : Except Error Plan :=
  ofNormalized allowed (Shape.normalize sql.toList)

end Plan

/-- Plans a statement and sends its request; a statement that cannot be planned is answered without
sending anything. -/
def answerSql {m : Type → Type} [Monad m] (allowed : Option (List String))
    (send : Request → m Outcome) (sql : String) : m Outcome :=
  match Plan.ofSql allowed sql with
  | .ok plan => send plan.request
  | .error error => pure (.ofError error)

end SqlGateway
