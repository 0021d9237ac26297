import SqlGateway.Error
import SqlGateway.Json.Record
import SqlGateway.Json.Writer
import SqlGateway.Json.Reader
import SqlGateway.Request.Basic

/-!
# Outcomes

Every statement and every request ends in an outcome: rows, nothing, or a failure.  A failure in the
gateway and one reported by the table service look alike.
-/

namespace SqlGateway

/-- A failure as a caller sees it. -/
structure Failure where
  message : String
  status : Option Nat
  deriving DecidableEq, Repr

/-- The text of a failure, with its status behind it. -/
def Failure.text (failure : Failure) : String :=
  match failure.status with
  | none => failure.message
  | some status => failure.message ++ " (" ++ toString status ++ ")"

/-- The failure that an error of the gateway shows as. -/
def Failure.ofError (error : Error) : Failure :=
  { message := error.message, status := error.status }

/-- What a request led to. -/
structure Outcome where
  rows : Option (List Row)
  failure : Option Failure

namespace Outcome

/-- Success with rows. -/
def found (rows : List Row) : Outcome :=
  { rows := some rows, failure := none }

/-- Success without rows. -/
def done : Outcome :=
  { rows := none, failure := none }

/-- A failure. -/
def failed (failure : Failure) : Outcome :=
  { rows := none, failure := some failure }

/-- The outcome of a statement that could not be planned. -/
def ofError (error : Error) : Outcome :=
  failed (.ofError error)

/-- Whether an outcome is a success. -/
def isOk (outcome : Outcome) : Bool :=
  outcome.failure.isNone

/-- The status of the failure, if there is one. -/
def status (outcome : Outcome) : Option Nat :=
  outcome.failure.bind Failure.status

end Outcome

/-! ### Stored form -/

/-- The highest status. -/
def maxStatus : Nat := 65535

/-- A failure in JSON; a status that is missing is left out. -/
def Failure.toStored (failure : Failure) : Json :=
  .object (("message", .string failure.message) ::
    failure.status.toList.map fun status => ("statusCode", .ofCount status))

/-- A failure from JSON. -/
def Failure.ofStored? (value : Json) : Option Failure := do
  match ← value.asRecord? ["message", "statusCode"] 1 with
  | [message, status] =>
    return {
      message := ← Json.required? Json.asString? message
      status := ← Json.optional? (Json.asCount? maxStatus) status }
  | _ => none

namespace Outcome

/-- An outcome in JSON. -/
def toStored (outcome : Outcome) : Json :=
  .object [
    ("data", .ofOption (fun rows => .array (rows.map .object)) outcome.rows),
    ("error", .ofOption Failure.toStored outcome.failure)]

/-- An outcome from JSON. -/
def ofStored? (value : Json) : Option Outcome := do
  match ← value.asRecord? ["data", "error"] 0 with
  | [rows, failure] =>
    return {
      rows := ← Json.optional? (Json.asList? Json.asRow?) rows
      failure := ← Json.optional? Failure.ofStored? failure }
  | _ => none

/-- An outcome as JSON text. -/
def storedText (outcome : Outcome) : String :=
  outcome.toStored.write

/-- An outcome from JSON text. -/
def ofStoredText? (text : String) : Option Outcome := do
  ofStored? (← Json.read? text)

end Outcome

end SqlGateway
