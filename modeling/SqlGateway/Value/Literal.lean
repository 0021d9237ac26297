import SqlGateway.Value.Basic
import SqlGateway.Text.Blank
import SqlGateway.Decimal.Float

/-!
# Reading literals

A bare token of a statement is read by its shape: quotes make a string, digits a number, and three
words, in any letter case, stand for null and the two truth values.  Anything else is a string, so
`status = active` compares with the text `active`.
-/

namespace SqlGateway.Value

open Decimal

/-- A number as written in SQL: whole if it fits 64 bits, otherwise the nearest double. -/
def ofNumeral? (text : List Char) : Option Value :=
  match readInt64? text with
  | some n => some (.int n)
  | none => (readFloat? text).map .float

/-- Whether a text consists of digits after at most one minus sign. -/
def isIntegerShape : List Char → Bool
  | '-' :: rest => !rest.isEmpty && rest.all Char.isDigit
  | text => !text.isEmpty && text.all Char.isDigit

/-- Whether a text without sign is a point with digits behind it and perhaps before it. -/
def isFractionShape (text : List Char) : Bool :=
  match text.dropWhile Char.isDigit with
  | '.' :: rest => !rest.isEmpty && rest.all Char.isDigit
  | _ => false

/-- Whether a text is a fraction after at most one minus sign. -/
def isDecimalShape : List Char → Bool
  | '-' :: rest => isFractionShape rest
  | text => isFractionShape text

/-- Equality of texts up to the case of ASCII letters. -/
def isWordOf (word : String) (text : List Char) : Bool :=
  text.map Char.toLower == word.toList.map Char.toLower

/-- The value of a bare token without blanks around it. -/
def ofTrimmedToken (token : List Char) : Value :=
  match Text.unquoted? token with
  | some inner => .string (String.ofList inner)
  | none =>
    if isIntegerShape token || isDecimalShape token then
      match ofNumeral? token with
      | some value => value
      | none => .string (String.ofList token)
    else if isWordOf "true" token then .bool true
    else if isWordOf "false" token then .bool false
    else if isWordOf "null" token then .null
    else .string (String.ofList token)

/-- The value of a bare token. -/
def ofToken (text : List Char) : Value :=
  ofTrimmedToken (Text.trim text)

end SqlGateway.Value
