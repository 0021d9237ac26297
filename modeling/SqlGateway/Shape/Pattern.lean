import SqlGateway.Text.Blank
import SqlGateway.Text.Doubled
import SqlGateway.Text.Fold
import SqlGateway.Text.Word

/-!
# The short statement shapes

Each shape is a fixed skeleton of keywords, compared up to case, with names, a value or free text in
between.  A name is as long as it can be, and free text stays on one line.  In a query the select
list and the condition are each as short as the rest of the shape allows.
-/

namespace SqlGateway.Shape

open Text

/-! ### Pieces -/

/-- The text after `word`, if it begins with `word` up to case. -/
def dropKeyword? : List Char → List Char → Option (List Char)
  | [], text => some text
  | w :: word, c :: text => if sameFold w c then dropKeyword? word text else none
  | _ :: _, [] => none

/-- A name, and the text behind it. -/
def readWord? (text : List Char) : Option (List Char × List Char) :=
  let word := text.takeWhile isWord
  if word.isEmpty then none else some (word, text.dropWhile isWord)

/-- A text without one leading space. -/
def skipSpace : List Char → List Char
  | ' ' :: rest => rest
  | text => text

/-- Whether a text is not empty and stays on one line. -/
def isLine (text : List Char) : Bool :=
  !text.isEmpty && !text.contains '\n'

/-- What may follow the head of a change: nothing, or a condition on one line. -/
def readClause? (text : List Char) : Option (Option (List Char)) :=
  if text.isEmpty then some none
  else
    match dropKeyword? " WHERE ".toList text with
    | some clause => if isLine clause then some (some clause) else none
    | none => none

/-- The shortest non-empty piece of one line whose remainder is accepted, and what the remainder is
accepted as. -/
def shortest? {β : Type} (accept : List Char → Option β) : List Char → Option (List Char × β)
  | [] => none
  | c :: rest =>
    if c = '\n' then none
    else
      match accept rest with
      | some found => some ([c], found)
      | none => (shortest? accept rest).map fun (piece, found) => (c :: piece, found)

/-! ### Removals -/

/-- The parts of `DELETE FROM table [WHERE condition]`. -/
structure DeletePattern where
  table : List Char
  clause : Option (List Char)

/-- Matches a removal. -/
def DeletePattern.match? (text : List Char) : Option DeletePattern := do
  let (table, rest) ← readWord? (← dropKeyword? "DELETE FROM ".toList text)
  return { table, clause := ← readClause? rest }

/-! ### Changes -/

/-- The parts of `UPDATE table SET column = value [WHERE condition]`. -/
structure UpdatePattern where
  table : List Char
  column : List Char
  value : List Char
  clause : Option (List Char)

/-- A value without a quote inside: a quoted text, or a name. -/
def readPlainValue? : List Char → Option (List Char × List Char)
  | [] => none
  | c :: rest =>
    if isQuote c then
      match rest.dropWhile (· != c) with
      | close :: behind => some (c :: (rest.takeWhile (· != c) ++ [close]), behind)
      | [] => none
    else readWord? (c :: rest)

/-- Whether a character may stand in an unquoted value. -/
def isValuePart (c : Char) : Bool :=
  !(isBlank c || c == ',' || isQuote c)

/-- A value: a quoted text, in which the quote may be doubled, or anything without a blank, a comma
or a quote. -/
def readValue? : List Char → Option (List Char × List Char)
  | [] => none
  | c :: rest =>
    if isQuote c then
      (readQuoted? c rest).map fun (_, behind) =>
        (c :: rest.take (rest.length - behind.length), behind)
    else
      let value := (c :: rest).takeWhile isValuePart
      if value.isEmpty then none else some (value, (c :: rest).dropWhile isValuePart)

/-- Matches a change whose value the given reader has. -/
def UpdatePattern.matchWith? (value? : List Char → Option (List Char × List Char))
    (text : List Char) : Option UpdatePattern := do
  let (table, afterTable) ← readWord? (← dropKeyword? "UPDATE ".toList text)
  let (column, afterColumn) ← readWord? (← dropKeyword? " SET ".toList afterTable)
  match skipSpace afterColumn with
  | '=' :: afterSign =>
    let (value, rest) ← value? (skipSpace afterSign)
    return { table, column, value, clause := ← readClause? rest }
  | _ => none

/-- Matches a change. -/
def UpdatePattern.match? : List Char → Option UpdatePattern :=
  matchWith? readValue?

/-- Whether a text looks like a change with a plain value. -/
def UpdatePattern.isPlain (text : List Char) : Bool :=
  (matchWith? readPlainValue? text).isSome

/-! ### Insertions -/

/-- The parts of `INSERT INTO table (columns) VALUES (values)`. -/
structure InsertPattern where
  table : List Char
  columns : List Char
  values : List Char

/-- Matches an insertion.  The values reach to the last parenthesis, which ends the text. -/
def InsertPattern.match? (text : List Char) : Option InsertPattern := do
  let (table, afterTable) ← readWord? (← dropKeyword? "INSERT INTO ".toList text)
  match skipSpace afterTable with
  | '(' :: afterOpening =>
    let columns := afterOpening.takeWhile (· != ')')
    let afterColumns := afterOpening.dropWhile (· != ')')
    let afterKeyword ← dropKeyword? ") VALUES".toList afterColumns
    match skipSpace afterKeyword with
    | '(' :: values =>
      if !columns.isEmpty && values.getLast? == some ')' && isLine values.dropLast then
        some { table, columns, values := values.dropLast }
      else none
    | _ => none
  | _ => none

/-! ### Queries -/

/-- The parts of `SELECT fields FROM table [WHERE condition] [ORDER BY column [direction]]`. -/
structure SelectPattern where
  fields : List Char
  table : List Char
  clause : Option (List Char)
  order : Option (List Char × Option (List Char))

/-- The tail of a query: nothing, or one sort column, perhaps with a direction. -/
def readOrder? (text : List Char) : Option (Option (List Char × Option (List Char))) :=
  if text.isEmpty then some none
  else
    match dropKeyword? " ORDER BY ".toList text with
    | none => none
    | some rest =>
      match readWord? rest with
      | none => none
      | some (column, []) => some (some (column, none))
      | some (column, behind) =>
        if dropKeyword? " ASC".toList behind == some [] ||
            dropKeyword? " DESC".toList behind == some [] then
          some (some (column, some (behind.drop 1)))
        else none

/-- What follows the select list, without a condition. -/
def readTableAndOrder? (text : List Char) :
    Option (List Char × Option (List Char × Option (List Char))) := do
  let (table, rest) ← readWord? (← dropKeyword? " FROM ".toList text)
  return (table, ← readOrder? rest)

/-- What follows the table: a condition, if there is one, and the tail. -/
def readClauseAndOrder? (text : List Char) :
    Option (Option (List Char) × Option (List Char × Option (List Char))) :=
  match dropKeyword? " WHERE ".toList text with
  | some rest => (shortest? readOrder? rest).map fun (clause, order) => (some clause, order)
  | none => (readOrder? text).map fun order => (none, order)

/-- What follows the select list. -/
def readTail? (text : List Char) :
    Option (List Char × Option (List Char) × Option (List Char × Option (List Char))) := do
  let (table, rest) ← readWord? (← dropKeyword? " FROM ".toList text)
  return (table, ← readClauseAndOrder? rest)

/-- Matches a query. -/
def SelectPattern.match? (text : List Char) : Option SelectPattern := do
  let rest ← dropKeyword? "SELECT ".toList text
  let (fields, table, clause, order) ← shortest? readTail? rest
  return { fields, table, clause, order }

/-- Whether a text begins like a query for several columns. -/
def SelectPattern.hasSeveralFields (text : List Char) : Bool :=
  match (dropKeyword? "SELECT ".toList text).bind (shortest? (dropKeyword? " FROM ".toList)) with
  | some (fields, _) => fields.contains ','
  | none => false

/-- Whether a text is a query without a condition. -/
def SelectPattern.isUnconditional (text : List Char) : Bool :=
  ((dropKeyword? "SELECT ".toList text).bind (shortest? readTableAndOrder?)).isSome

end SqlGateway.Shape
