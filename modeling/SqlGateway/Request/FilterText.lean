import SqlGateway.Request.Basic
import SqlGateway.Text.Blank

/-!
# Filter texts

The table service reads a filter as `column.operator.value`.  Inside a list or a disjunction, where
commas, points and parentheses separate, a string that holds one of them, a quote, a backslash or a
blank stands in double quotes, and so does the empty string.
-/

namespace SqlGateway

/-- Whether a character separates or quotes inside a list. -/
def isReservedInList (c : Char) : Bool :=
  c == ',' || c == '.' || c == ':' || c == '(' || c == ')' || c == '"' || c == '\\'

/-- Whether a string has to be quoted inside a list. -/
def needsQuotes (text : List Char) : Bool :=
  text.isEmpty || text.any fun c => isReservedInList c || Text.isBlank c

/-- A string in double quotes, with a backslash before every quote and backslash. -/
def listQuoted (text : List Char) : List Char :=
  '"' :: (text.flatMap (fun c => if c = '"' || c = '\\' then ['\\', c] else [c]) ++ ['"'])

mutual

/-- A value as an item of a list or of a disjunction. -/
def Value.itemChars : Value → List Char
  | .null => "null".toList
  | .bool true => "true".toList
  | .bool false => "false".toList
  | .int n => (toString n).toList
  | .float x => (Decimal.floatText .plain x).toList
  | .string s => if needsQuotes s.toList then listQuoted s.toList else s.toList
  | .list items => '(' :: (Value.itemListChars items ++ [')'])

/-- Items with commas between them. -/
def Value.itemListChars : List Value → List Char
  | [] => []
  | [item] => Value.itemChars item
  | item :: next :: rest => Value.itemChars item ++ ',' :: Value.itemListChars (next :: rest)

end

/-- A value that stands by itself: a string as it is, anything else as an item. -/
def Value.operandChars : Value → List Char
  | .string s => s.toList
  | value => value.itemChars

/-- The text of a value that stands by itself. -/
def Value.operandText (value : Value) : String :=
  String.ofList value.operandChars

/-- The text of a value as an item of a list. -/
def Value.itemText (value : Value) : String :=
  String.ofList value.itemChars

/-- A comparison as an item of a disjunction. -/
def Comparison.filterChars (c : Comparison) : List Char :=
  c.column.toList ++ '.' :: (c.op.filterName.toList ++ '.' :: c.value.itemChars)

/-- The text of a comparison as an item of a disjunction. -/
def Comparison.filterText (c : Comparison) : String :=
  String.ofList c.filterChars

/-- The comparisons of a disjunction, with commas between them. -/
def disjunctionChars : List Comparison → List Char
  | [] => []
  | [c] => c.filterChars
  | c :: next :: rest => c.filterChars ++ ',' :: disjunctionChars (next :: rest)

/-- The text of a disjunction. -/
def disjunctionText (conditions : List Comparison) : String :=
  String.ofList (disjunctionChars conditions)

/-- An entry of a select list, the label before the column. -/
def columnText (name : String) : Option String → String
  | none => name
  | some label => label ++ ":" ++ name

end SqlGateway
