/-!
# JSON values

A number is an integer when it is written without a point and an exponent, and a double otherwise.
An object is the list of its fields in the order in which they are written.  A text may repeat a
key; `Json.merged` gives the value such a text stands for, in which the key keeps its first place
and takes its last value.
-/

namespace SqlGateway

/-- A JSON number. -/
inductive Json.Number where
  | int (n : Int)
  | float (x : Float)

/-- A JSON value. -/
inductive Json where
  | null
  | bool (b : Bool)
  | number (n : Json.Number)
  | string (s : String)
  | array (items : List Json)
  | object (fields : List (String × Json))

instance : Inhabited Json := ⟨.null⟩

namespace Json

/-- A field list with `key` set: in its old place if it has one, otherwise at the end. -/
def setField (key : String) (value : Json) : List (String × Json) → List (String × Json)
  | [] => [(key, value)]
  | (k, v) :: rest => if k = key then (k, value) :: rest else (k, v) :: setField key value rest

/-- The value of `key` in a field list: that of its first occurrence. -/
def getField? (key : String) (fields : List (String × Json)) : Option Json :=
  fields.lookup key

mutual

/-- The value with every repeated key of an object merged into its first place. -/
def merged : Json → Json
  | .array items => .array (mergedItems items)
  | .object fields => .object (mergedFields [] fields)
  | value => value

/-- The items of an array, each merged. -/
def mergedItems : List Json → List Json
  | [] => []
  | item :: rest => merged item :: mergedItems rest

/-- The fields of an object, each merged, added to the fields before them. -/
def mergedFields (before : List (String × Json)) : List (String × Json) → List (String × Json)
  | [] => before
  | (key, value) :: rest => mergedFields (setField key (merged value) before) rest

end

/-- Equality of numbers; a double equals itself unless it is no number. -/
def Number.same : Number → Number → Bool
  | .int m, .int n => m == n
  | .float x, .float y => x == y
  | _, _ => false

mutual

/-- Equality of values, with the fields of objects in the same order. -/
def same : Json → Json → Bool
  | .null, .null => true
  | .bool a, .bool b => a == b
  | .number m, .number n => m.same n
  | .string s, .string t => s == t
  | .array xs, .array ys => sameItems xs ys
  | .object xs, .object ys => sameFields xs ys
  | _, _ => false

/-- Equality of arrays, item by item. -/
def sameItems : List Json → List Json → Bool
  | [], [] => true
  | x :: xs, y :: ys => same x y && sameItems xs ys
  | _, _ => false

/-- Equality of field lists, field by field. -/
def sameFields : List (String × Json) → List (String × Json) → Bool
  | [], [] => true
  | (k, x) :: xs, (l, y) :: ys => k == l && same x y && sameFields xs ys
  | _, _ => false

end

end Json

end SqlGateway
