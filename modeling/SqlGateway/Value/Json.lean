import SqlGateway.Value.Basic
import SqlGateway.Json.Writer
import SqlGateway.Decimal.Float

/-!
# Values as JSON

A value goes into a row as JSON, and a cell of a row comes back as a value.  A double that is not
finite has no JSON form and becomes null.  A whole number beyond 64 bits with a sign comes back as
a double, and an object as its text.
-/

namespace SqlGateway.Value

mutual

/-- The JSON form of a value. -/
def toJson : Value → Json
  | .null => .null
  | .bool b => .bool b
  | .int n => .number (.int n)
  | .float x => if x.isFinite then .number (.float x) else .null
  | .string s => .string s
  | .list items => .array (toJsonItems items)

/-- The JSON forms of the items of a list. -/
def toJsonItems : List Value → List Json
  | [] => []
  | item :: rest => toJson item :: toJsonItems rest

end

/-- The value of a JSON number. -/
def ofJsonNumber : Json.Number → Value
  | .int n => if Decimal.isInt64 n then .int n else .float (Decimal.floatOfInt n)
  | .float x => .float x

mutual

/-- The value of a JSON cell. -/
def ofJson : Json → Value
  | .null => .null
  | .bool b => .bool b
  | .number n => ofJsonNumber n
  | .string s => .string s
  | .array items => .list (ofJsonItems items)
  | .object fields => .string (Json.write (.object fields))

/-- The values of the items of a JSON array. -/
def ofJsonItems : List Json → List Value
  | [] => []
  | item :: rest => ofJson item :: ofJsonItems rest

end

end SqlGateway.Value
