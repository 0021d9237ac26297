import SqlGateway.Decimal.Float
import SqlGateway.Request.Basic
import SqlGateway.Sorting.Stable

/-!
# The order of rows

Rows are sorted by cells.  Numbers compare by size, texts by code point, false before true; values
of different types compare by type, and null is the largest value of all.  Integers of 64 bits with
a sign compare exactly, all other numbers as doubles.
-/

namespace SqlGateway.Store

/-- The number as an integer of 64 bits with a sign, if it is one. -/
def int64? : Json.Number → Option Int
  | .int n => if Decimal.isInt64 n then some n else none
  | .float _ => none

/-- The double nearest to a number. -/
def double : Json.Number → Float
  | .int n => Decimal.floatOfInt n
  | .float x => x

/-- The order of two doubles, if both are numbers. -/
def compareFloats? (x y : Float) : Option Ordering :=
  if x < y then some .lt
  else if x > y then some .gt
  else if x == y then some .eq
  else none

/-- The order of two numbers. -/
def compareNumbers (m n : Json.Number) : Ordering :=
  match int64? m, int64? n with
  | some a, some b => compare a b
  | _, _ => (compareFloats? (double m) (double n)).getD .eq

/-- The place of a type among the types. -/
def typeRank : Json → Nat
  | .null => 0
  | .bool _ => 1
  | .number _ => 2
  | .string _ => 3
  | .array _ => 4
  | .object _ => 5

/-- The order of two cells, with null the largest. -/
def compareCells : Json → Json → Ordering
  | .null, .null => .eq
  | .null, _ => .gt
  | _, .null => .lt
  | .number m, .number n => compareNumbers m n
  | .string s, .string t => compare s t
  | .bool a, .bool b => compare a.toNat b.toNat
  | a, b => compare (typeRank a) (typeRank b)

/-- The cell of a row in a column; null if the row has no such column. -/
def cell (row : Row) (column : String) : Json :=
  (Json.getField? column row).getD .null

/-- The order of two rows by one key. -/
def compareByKey (key : OrderKey) (row row' : Row) : Ordering :=
  let order := compareCells (cell row key.column) (cell row' key.column)
  match key.direction with
  | .ascending => order
  | .descending => order.swap

/-- The order of two rows: by the first key that tells them apart. -/
def compareRows : List OrderKey → Row → Row → Ordering
  | [], _, _ => .eq
  | key :: keys, row, row' => (compareByKey key row row').then (compareRows keys row row')

/-- The rows sorted by keys, if there are any; rows that no key tells apart keep their order.  Large
integers can make the order of the rows inconsistent, and then the sort may give up. -/
def sorted? (keys : List OrderKey) (rows : List Row) : Option (List Row) :=
  if keys.isEmpty then some rows
  else Sorting.sort? (Sorting.precedes (compareRows keys)) rows

end SqlGateway.Store
