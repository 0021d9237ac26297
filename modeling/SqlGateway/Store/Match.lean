import SqlGateway.Store.Like
import SqlGateway.Store.Order
import SqlGateway.Text.Blank

/-!
# Which rows a filter lets through

The value of a filter is cast to the type of the cell it is compared with; a comparison that makes
no sense does not hold.  Null is matched by `IS` alone.
-/

namespace SqlGateway.Store

/-- A truth value by its name. -/
def readBool? (text : String) : Option Bool :=
  if text = "true" then some true else if text = "false" then some false else none

/-- The order of a number and a value cast to a number. -/
def compareNumberTo? (n : Json.Number) : Value → Option Ordering
  | .int i =>
    match int64? n with
    | some a => some (compare a i)
    | none => compareFloats? (double n) (Decimal.floatOfInt i)
  | .float x => compareFloats? (double n) x
  | .string s => do compareFloats? (double n) (← Decimal.readFloat? (Text.trim s.toList))
  | _ => none

/-- The order of a text and a value cast to a text. -/
def compareStringTo? (s : String) : Value → Option Ordering
  | .null => none
  | .list _ => none
  | .string t => some (compare s t)
  | value => some (compare s value.sqlText)

/-- The order of a truth value and a value cast to one. -/
def compareBoolTo? (b : Bool) : Value → Option Ordering
  | .bool c => some (compare b.toNat c.toNat)
  | .string s => (readBool? s).map fun c => compare b.toNat c.toNat
  | _ => none

/-- The order of a cell and a value cast to the type of the cell, if there is one. -/
def compareTo? : Json → Value → Option Ordering
  | .number n, value => compareNumberTo? n value
  | .string s, value => compareStringTo? s value
  | .bool b, value => compareBoolTo? b value
  | _, _ => none

/-- Whether a cell is the null or the truth value named after `IS`. -/
def isValue : Json → Value → Bool
  | .null, .null => true
  | .bool b, .bool c => b == c
  | _, _ => false

/-- Whether a cell is a text that matches a pattern. -/
def isLikeValue (caseless : Bool) : Json → Value → Bool
  | .string text, .string pattern => isLike caseless text.toList pattern.toList
  | _, _ => false

/-- Whether an operator holds between a cell that is not null and a value. -/
def holds (op : Operator) (actual : Json) (value : Value) : Bool :=
  match op with
  | .eq => compareTo? actual value == some .eq
  | .neq => (compareTo? actual value).any (· != .eq)
  | .gt => compareTo? actual value == some .gt
  | .gte => (compareTo? actual value).any (· != .lt)
  | .lt => compareTo? actual value == some .lt
  | .lte => (compareTo? actual value).any (· != .gt)
  | .like => isLikeValue false actual value
  | .ilike => isLikeValue true actual value
  | .isIn => value.intoList.any fun item => compareTo? actual item == some .eq
  | .is => isValue actual value

/-- Whether a row meets a comparison. -/
def meets (row : Row) (c : Comparison) : Bool :=
  let actual := cell row c.column
  match c.op, actual with
  | .is, _ => isValue actual c.value
  | _, .null => false
  | op, _ => holds op actual c.value

/-- Whether a row passes a filter. -/
def passes (row : Row) : Filter → Bool
  | .condition c => meets row c
  | .anyOf conditions => conditions.any (meets row)

/-- Whether a row passes all filters. -/
def passesAll (filters : List Filter) (row : Row) : Bool :=
  filters.all (passes row)

end SqlGateway.Store
