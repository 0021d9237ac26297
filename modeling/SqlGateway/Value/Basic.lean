import SqlGateway.Decimal.Layout
import SqlGateway.Text.Doubled

/-!
# Values

The literal values of filters, assignments and inserted rows.  Whole numbers are those of 64 bits
with a sign; every reader in this library checks the range.  A list stands on the right of `IN`
and in row constructors.
-/

namespace SqlGateway

/-- A literal value. -/
inductive Value where
  | null
  | bool (b : Bool)
  | int (n : Int)
  | float (x : Float)
  | string (s : String)
  | list (items : List Value)

instance : Inhabited Value := ⟨.null⟩

namespace Value

/-- The items of a list; any other value as the only item. -/
def intoList : Value → List Value
  | .list items => items
  | value => [value]

/-- Whether a value is null. -/
def isNull : Value → Bool
  | .null => true
  | _ => false

mutual

/-- The SQL form of a value: strings in single quotes, lists in parentheses. -/
def sqlChars : Value → List Char
  | .null => "NULL".toList
  | .bool true => "true".toList
  | .bool false => "false".toList
  | .int n => (toString n).toList
  | .float x => (Decimal.floatText .plain x).toList
  | .string s => '\'' :: (Text.doubled '\'' s.toList ++ ['\''])
  | .list items => '(' :: (sqlItemChars items ++ [')'])

/-- The SQL forms of the items of a list, with commas between them. -/
def sqlItemChars : List Value → List Char
  | [] => []
  | [item] => sqlChars item
  | item :: next :: rest => sqlChars item ++ ',' :: ' ' :: sqlItemChars (next :: rest)

end

/-- The SQL text of a value. -/
def sqlText (value : Value) : String :=
  String.ofList value.sqlChars

mutual

/-- Equality of values; a double equals itself unless it is no number. -/
def same : Value → Value → Bool
  | .null, .null => true
  | .bool a, .bool b => a == b
  | .int m, .int n => m == n
  | .float x, .float y => x == y
  | .string s, .string t => s == t
  | .list xs, .list ys => sameItems xs ys
  | _, _ => false

/-- Equality of lists of values, item by item. -/
def sameItems : List Value → List Value → Bool
  | [], [] => true
  | x :: xs, y :: ys => same x y && sameItems xs ys
  | _, _ => false

end

end Value

end SqlGateway
