import SqlGateway.Json.Basic
import SqlGateway.Decimal.Layout

/-!
# Writing JSON

The compact form has no blanks; the indented form puts every item on a line of its own, two blanks
deeper than what holds it.  A string keeps every character but the quote, the backslash and the
control characters.  A double that is not finite has no JSON form and becomes `null`.
-/

namespace SqlGateway.Json

/-- The form of one character inside a JSON string. -/
def escapeChar (c : Char) : List Char :=
  if c = '"' then ['\\', '"']
  else if c = '\\' then ['\\', '\\']
  else if c = '\x08' then ['\\', 'b']
  else if c = '\x0c' then ['\\', 'f']
  else if c = '\n' then ['\\', 'n']
  else if c = '\r' then ['\\', 'r']
  else if c = '\t' then ['\\', 't']
  else if c.toNat < 32 then
    ['\\', 'u', '0', '0', Nat.digitChar (c.toNat / 16), Nat.digitChar (c.toNat % 16)]
  else [c]

/-- A string between quotes. -/
def stringChars (s : String) : List Char :=
  '"' :: (s.toList.flatMap escapeChar ++ ['"'])

/-- The text of a number. -/
def Number.text : Number → String
  | .int n => toString n
  | .float x => if x.isFinite then Decimal.floatText .json x else "null"

mutual

/-- The compact form of a value. -/
def chars : Json → List Char
  | .null => "null".toList
  | .bool true => "true".toList
  | .bool false => "false".toList
  | .number n => n.text.toList
  | .string s => stringChars s
  | .array items => '[' :: (itemChars items ++ [']'])
  | .object fields => '{' :: (fieldChars fields ++ ['}'])

/-- The items of an array, with commas between them. -/
def itemChars : List Json → List Char
  | [] => []
  | [item] => chars item
  | item :: next :: rest => chars item ++ ',' :: itemChars (next :: rest)

/-- The fields of an object, with commas between them. -/
def fieldChars : List (String × Json) → List Char
  | [] => []
  | [(key, value)] => stringChars key ++ ':' :: chars value
  | (key, value) :: next :: rest =>
    stringChars key ++ ':' :: (chars value ++ ',' :: fieldChars (next :: rest))

end

/-- The compact text of a value. -/
def write (value : Json) : String :=
  String.ofList (chars value)

/-- A line break, followed by the indentation of `depth` levels. -/
def lineBreak (depth : Nat) : List Char :=
  '\n' :: List.replicate (2 * depth) ' '

mutual

/-- The indented form of a value that stands `depth` levels deep. -/
def indentedChars (depth : Nat) : Json → List Char
  | .array [] => ['[', ']']
  | .array (item :: rest) =>
    '[' :: (lineBreak (depth + 1) ++ indentedChars (depth + 1) item ++
      indentedItems (depth + 1) rest ++ lineBreak depth ++ [']'])
  | .object [] => ['{', '}']
  | .object ((key, value) :: rest) =>
    '{' :: (lineBreak (depth + 1) ++ stringChars key ++ ':' :: ' ' ::
      (indentedChars (depth + 1) value ++ indentedFields (depth + 1) rest ++ lineBreak depth ++
        ['}']))
  | value => chars value

/-- Further items of an array, each after a comma. -/
def indentedItems (depth : Nat) : List Json → List Char
  | [] => []
  | item :: rest =>
    ',' :: (lineBreak depth ++ indentedChars depth item ++ indentedItems depth rest)

/-- Further fields of an object, each after a comma. -/
def indentedFields (depth : Nat) : List (String × Json) → List Char
  | [] => []
  | (key, value) :: rest =>
    ',' :: (lineBreak depth ++ stringChars key ++ ':' :: ' ' ::
      (indentedChars depth value ++ indentedFields depth rest))

end

/-- The indented text of a value. -/
def writeIndented (value : Json) : String :=
  String.ofList (indentedChars 0 value)

end SqlGateway.Json
