import SqlGateway.Error
import SqlGateway.Text.Step
import SqlGateway.Text.Word
import SqlGateway.Value.Literal

/-!
# Fragments of short statements

The parts that a short statement is made of: a list of values, a list of column names, a select
list, and one condition.  A list is read item by item; it counts only if nothing is left over.
Inside these fragments only spaces and tabs separate.
-/

namespace SqlGateway.Shape

open Text

/-! ### Lists -/

/-- Whether a character separates the parts of a fragment. -/
def isGap (c : Char) : Bool :=
  c == ' ' || c == '\t'

/-- A text without its leading gap. -/
def skipGap (text : List Char) : List Char :=
  text.dropWhile isGap

/-- A reader that also takes the gaps around what it reads. -/
def padded {α : Type} (item : Step α) : Step α := fun text =>
  (item (skipGap text)).map fun (value, rest) => (value, skipGap rest)

/-- The text after a comma and the gap behind it. -/
def skipComma? (text : List Char) : Option (List Char) :=
  match skipGap text with
  | ',' :: rest => some (skipGap rest)
  | _ => none

/-- Further items of a list, each after a comma, at most `rounds` of them, and the text from the
first comma that no item follows. -/
def readFurther {α : Type} (item : Step α) : Nat → List Char → List α × List Char
  | 0, text => ([], text)
  | rounds + 1, text =>
    match skipComma? text with
    | none => ([], text)
    | some behind =>
      match item behind with
      | none => ([], text)
      | some (value, rest) =>
        let (values, left) := readFurther item rounds rest
        (value :: values, left)

/-- A list with at least one item, and the text left over. -/
def readList? {α : Type} (item : Step α) : Step (List α) := fun text =>
  match padded item text with
  | none => none
  | some (first, rest) =>
    let (further, left) := readFurther (padded item) rest.length rest
    some (first :: further, left)

/-- The items of a list that nothing is left over from. -/
def readWholeList? {α : Type} (item : Step α) (text : List Char) : Option (List α) :=
  match readList? item text with
  | some (items, []) => some items
  | _ => none

/-! ### Names -/

/-- Whether a character may stand in a name or in a bare word. -/
def isNamePart (c : Char) : Bool :=
  isAlphanumeric c || c == '_'

/-- A name: one or more letters, digits and underscores. -/
def readName? : Step (List Char) := fun text =>
  let name := text.takeWhile isNamePart
  if name.isEmpty then none else some (name, text.dropWhile isNamePart)

/-- The names of a column list. -/
def readColumns? (text : List Char) : Option (List String) :=
  (readWholeList? readName? (trim text)).map fun names => names.map String.ofList

/-! ### Values -/

/-- Whether a character may stand in a bare token of a list of values. -/
def isTokenPart (c : Char) : Bool :=
  !(c == ',' || c == '\'' || c == '"' || c == '(' || c == ')')

/-- A string in quotes. -/
def readString? : Step (List Char)
  | [] => none
  | quote :: rest => if isQuote quote then readQuoted? quote rest else none

/-- An item of a list of values: a string in quotes, or a bare token. -/
def readItem? : Step Value := fun text =>
  match readString? text with
  | some (inner, rest) => some (.string (String.ofList inner), rest)
  | none =>
    let token := text.takeWhile isTokenPart
    if token.isEmpty then none else some (Value.ofToken token, text.dropWhile isTokenPart)

/-- The values of a list, or the place where it stops making sense. -/
def readValues (text : List Char) : Except ListFault (List Value) :=
  let trimmed := trim text
  match readList? readItem? trimmed with
  | some (values, []) => .ok values
  | some (_, left) => .error (.leftOver (String.ofList left))
  | none => .error (.noItem (String.ofList (skipGap trimmed)))

/-! ### Select lists -/

/-- The words that are never column names in a short query. -/
def selectKeywords : List String :=
  ["ALL", "AS", "DISTINCT", "DISTINCTROW", "FROM", "HIGH_PRIORITY", "SQL_BIG_RESULT",
    "SQL_BUFFER_RESULT", "SQL_CACHE", "SQL_CALC_FOUND_ROWS", "SQL_NO_CACHE", "SQL_SMALL_RESULT",
    "STRAIGHT_JOIN"]

/-- Whether a word is one of them, in any case of ASCII letters. -/
def isSelectKeyword (word : List Char) : Bool :=
  selectKeywords.any fun keyword => Value.isWordOf keyword word

/-- A name that is not a keyword. -/
def readFieldName? : Step (List Char) := fun text =>
  (readName? text).filter fun (name, _) => !isSelectKeyword name

/-- The text after the word `AS` and a gap, or the text itself if it does not begin so. -/
def skipAs : List Char → List Char
  | a :: s :: c :: rest =>
    if Value.isWordOf "AS" [a, s] && isGap c then skipGap (c :: rest) else a :: s :: c :: rest
  | text => text

/-- A label: a name after a gap, perhaps after the word `AS`. -/
def readLabel? : Step (List Char)
  | [] => none
  | c :: rest => if isGap c then readFieldName? (skipAs (skipGap rest)) else none

/-- An entry of a select list: a name, perhaps with a label. -/
def readField? : Step SelectColumn := fun text =>
  match readFieldName? text with
  | none => none
  | some (name, rest) =>
    match readLabel? rest with
    | some (label, behind) =>
      some (.named (String.ofList name) (some (String.ofList label)), behind)
    | none => some (.named (String.ofList name) none, rest)

/-- The columns of a select list: a star alone, or names with labels. -/
def readFields? (text : List Char) : Option (List SelectColumn) :=
  let trimmed := trim text
  if trimmed = ['*'] then some [.star] else readWholeList? readField? trimmed

/-! ### Conditions -/

/-- The comparison at the front of a text: a sign for a non-equality, the longest one. -/
def readInequality? : Step Operator
  | '!' :: '=' :: rest => some (.neq, rest)
  | '<' :: '>' :: rest => some (.neq, rest)
  | '>' :: '=' :: rest => some (.gte, rest)
  | '<' :: '=' :: rest => some (.lte, rest)
  | '>' :: rest => some (.gt, rest)
  | '<' :: rest => some (.lt, rest)
  | _ => none

/-- A reading that reaches the end of the text, apart from a gap. -/
def reachesEnd {α : Type} : Option (α × List Char) → Option α
  | some (value, rest) => if (skipGap rest).isEmpty then some value else none
  | none => none

/-- Digits after at most one minus sign, perhaps with a point and more digits. -/
def readNumeral? : Step (List Char) := fun text =>
  let (sign, unsigned) := match text with
    | '-' :: rest => (['-'], rest)
    | _ => ([], text)
  let whole := unsigned.takeWhile Char.isDigit
  if whole.isEmpty then none
  else
    match unsigned.dropWhile Char.isDigit with
    | '.' :: c :: rest =>
      if c.isDigit then
        some (sign ++ whole ++ '.' :: (c :: rest).takeWhile Char.isDigit,
          (c :: rest).dropWhile Char.isDigit)
      else some (sign ++ whole, '.' :: c :: rest)
    | rest => some (sign ++ whole, rest)

/-- A number. -/
def readNumber? : Step Value := fun text =>
  match readNumeral? text with
  | some (numeral, rest) => (Value.ofNumeral? numeral).map (·, rest)
  | none => none

/-- A string in quotes, as a value. -/
def readStringValue? : Step Value := fun text =>
  (readString? text).map fun (inner, rest) => (.string (String.ofList inner), rest)

/-- A bare word, as a value. -/
def readWordValue? : Step Value := fun text =>
  (readName? text).map fun (word, rest) => (.string (String.ofList word), rest)

/-- The operand of an equality: a string, a number or a word, whichever fills the text. -/
def readEqualOperand? (text : List Char) : Option Value :=
  reachesEnd (readStringValue? text) <|> reachesEnd (readNumber? text) <|>
    reachesEnd (readWordValue? text)

/-- The operand of an inequality: a string that fills the text, or a number, or, only where no
number begins, a word. -/
def readUnequalOperand? (text : List Char) : Option Value :=
  reachesEnd (readStringValue? text) <|> reachesEnd (readNumber? text <|> readWordValue? text)

/-- The comparison and the operand of a condition. -/
def readComparison? : List Char → Option (Operator × Value)
  | '=' :: rest => (readEqualOperand? (skipGap rest)).map (.eq, ·)
  | text =>
    match readInequality? text with
    | some (op, rest) => (readUnequalOperand? (skipGap rest)).map (op, ·)
    | none => none

/-- A single condition. -/
def readCondition? (text : List Char) : Option Comparison :=
  match readName? (trim text) with
  | none => none
  | some (column, rest) =>
    (readComparison? (skipGap rest)).map fun (op, value) =>
      { column := String.ofList column, op, value }

end SqlGateway.Shape
