import SqlGateway.Shape.Fragment
import SqlGateway.Shape.Pattern

/-!
# Recognizing short statements

`classify` says which shape a normalized text has, and `recognize` reads the text as a statement of
a given kind.  On the fast pass a text that is not wholly understood is left to the grammar.  On the
fallback pass the grammar has refused it already, and what is not understood is an error; only the
condition of a query may then be left out.  A change never loses its condition.
-/

namespace SqlGateway.Shape

/-- How strictly a text is taken. -/
inductive Pass where
  /-- Anything short of a full match is left to the grammar. -/
  | fast
  /-- The grammar has refused the text; what does not match is an error. -/
  | fallback
  deriving DecidableEq, Repr

/-! ### Classification -/

/-- Whether a text has the shape of a removal. -/
def isDelete (text : List Char) : Bool :=
  (DeletePattern.match? text).isSome

/-- Whether a text has the shape of a change of one column. -/
def isUpdate (text : List Char) : Bool :=
  UpdatePattern.isPlain text

/-- Whether a text has the shape of an insertion. -/
def isInsert (text : List Char) : Bool :=
  (InsertPattern.match? text).isSome

/-- Whether a text has the shape of a query for several columns, or of one without a condition. -/
def isSelect (text : List Char) : Bool :=
  SelectPattern.hasSeveralFields text || SelectPattern.isUnconditional text

/-- Whether a text has the shape of a given kind. -/
def hasShape (text : List Char) : StatementKind → Bool
  | .select => isSelect text
  | .insert => isInsert text
  | .update => isUpdate text
  | .delete => isDelete text

/-- The kind whose shape a text has; the shapes of changes are looked at first. -/
def classify (text : List Char) : Option StatementKind :=
  [StatementKind.delete, .update, .insert, .select].find? (hasShape text)

/-! ### Recognition -/

/-- The outcome for a text that does not match: none on the fast pass, an error on the other. -/
def notApplicable {α : Type} (pass : Pass) (fault : ShapeError) : Except Error (Option α) :=
  match pass with
  | .fast => .ok none
  | .fallback => .error (.shape fault)

/-- The condition of a change: none at all, or one that is understood as a whole. -/
def readFilter (pass : Pass) (kind : StatementKind) :
    Option (List Char) → Except Error (Option (Option Predicate))
  | none => .ok (some none)
  | some clause =>
    match readCondition? clause with
    | some c => .ok (some (some (.compare c)))
    | none => notApplicable pass (.condition (String.ofList clause) kind)

/-- Reads a removal. -/
def recognizeDelete (pass : Pass) (text : List Char) : Except Error (Option Statement) :=
  match DeletePattern.match? text with
  | none => notApplicable pass (.format .delete)
  | some found => do
    let filter? ← readFilter pass .delete found.clause
    return filter?.map fun filter => .delete { table := String.ofList found.table, filter }

/-- Reads a change. -/
def recognizeUpdate (pass : Pass) (text : List Char) : Except Error (Option Statement) :=
  match UpdatePattern.match? text with
  | none => notApplicable pass (.format .update)
  | some found => do
    let filter? ← readFilter pass .update found.clause
    return filter?.map fun filter =>
      .update {
        table := String.ofList found.table
        assignments :=
          [{ column := String.ofList found.column, value := Value.ofToken found.value }]
        filter }

/-- Reads an insertion of one row. -/
def recognizeInsert (pass : Pass) (text : List Char) : Except Error (Option Statement) :=
  match InsertPattern.match? text with
  | none => notApplicable pass (.format .insert)
  | some found =>
    match readColumns? found.columns with
    | none => notApplicable pass (.columnList (String.ofList found.columns))
    | some columns =>
      match readValues found.values with
      | .error fault => notApplicable pass (.valueList (String.ofList found.values) fault)
      | .ok values =>
        if columns.length = values.length then
          .ok (some (.insert { table := String.ofList found.table, columns, rows := [values] }))
        -- a row of another length is an error on both passes
        else .error (.arity columns.length values.length)

/-- The sort keys of a query. -/
def orderOf : Option (List Char × Option (List Char)) → List OrderKey
  | none => []
  | some (column, direction) =>
    [{ column := String.ofList column
       direction := if direction.any (Value.isWordOf "DESC") then .descending else .ascending }]

/-- Reads a query. -/
def recognizeSelect (pass : Pass) (text : List Char) : Except Error (Option Statement) :=
  match SelectPattern.match? text with
  | none => notApplicable pass (.format .select)
  | some found =>
    match readFields? found.fields with
    | none => notApplicable pass (.fieldList (String.ofList found.fields))
    | some columns =>
      let statement (filter : Option Predicate) : Statement :=
        .select {
          table := String.ofList found.table
          columns
          filter
          order := orderOf found.order
          limit := none
          offset := none }
      match found.clause with
      | none => .ok (some (statement none))
      | some clause =>
        match readCondition? clause, pass with
        | some c, _ => .ok (some (statement (some (.compare c))))
        | none, .fast => .ok none
        -- only a query may lose its condition, as it changes nothing
        | none, .fallback => .ok (some (statement none))

/-- Reads a normalized text as a statement of a given kind. -/
def recognize (kind : StatementKind) (pass : Pass) (text : List Char) :
    Except Error (Option Statement) :=
  match kind with
  | .select => recognizeSelect pass text
  | .insert => recognizeInsert pass text
  | .update => recognizeUpdate pass text
  | .delete => recognizeDelete pass text

end SqlGateway.Shape
