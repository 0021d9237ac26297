import SqlGateway.Toml.Scalar

/-!
# Reading settings

A file of settings is a sequence of lines: headings of tables, and keys with values.  A line may end
with a remark.  A value may take several lines if it is a string with three quotes or an array.
-/

namespace SqlGateway.Toml

open Text (Step)

/-! ### Blanks and remarks -/

/-- A text without the blanks at its front. -/
def skipSpaces (text : List Char) : List Char :=
  text.dropWhile isSpace

/-- The text behind a remark, if one comes next. -/
def skipRemark? : List Char → Option (List Char)
  | '#' :: rest =>
    let behind := rest.dropWhile fun c => !isRefused c
    match behind with
    | [] => some []
    | _ => if (afterBreak? behind).isSome then some behind else none
  | text => some text

/-- The text behind the end of a line, before which there may be blanks and a remark. -/
def endLine? (text : List Char) : Option (List Char) := do
  match ← skipRemark? (skipSpaces text) with
  | [] => return []
  | rest => afterBreak? rest

/-- The text behind blanks, remarks and line breaks, at most `rounds` of them. -/
def skipLines? : Nat → List Char → Option (List Char)
  | 0, text => some text
  | rounds + 1, text => do
    let rest ← skipRemark? (skipSpaces text)
    match afterBreak? rest with
    | some behind => skipLines? rounds behind
    | none => return rest

/-- The text behind all blanks, remarks and line breaks. -/
def skipGaps? (text : List Char) : Option (List Char) :=
  skipLines? text.length text

/-! ### Keys -/

/-- Whether a character may stand in a name without quotes. -/
def isKeyChar (c : Char) : Bool :=
  c.isAlphanum || c == '-' || c == '_'

/-- A name in a key. -/
def readName? : Step String := fun text =>
  match readString? false text with
  | some found => some found
  | none =>
    let name := text.takeWhile isKeyChar
    if name.isEmpty then none else some (String.ofList name, text.drop name.length)

/-- Names with points between them, at most `rounds` of them. -/
def readKeyWithin? : Nat → Step (List String)
  | 0, _ => none
  | rounds + 1, text => do
    let (name, rest) ← readName? (skipSpaces text)
    match skipSpaces rest with
    | '.' :: behind =>
      let (names, behind) ← readKeyWithin? rounds behind
      return (name :: names, behind)
    | behind => return ([name], behind)

/-- A key, with the blanks behind it. -/
def readKey? : Step (List String) := fun text =>
  readKeyWithin? (text.length + 1) text

/-! ### Values -/

/-- The items of an array behind its opening bracket, at most `rounds` of them. -/
def readItems? (value : Step Toml) : Nat → Step (List Toml)
  | 0, _ => none
  | rounds + 1, text => do
    match ← skipGaps? text with
    | ']' :: rest => return ([], rest)
    | start =>
      let (item, rest) ← value start
      match ← skipGaps? rest with
      | ',' :: behind =>
        let (items, behind) ← readItems? value rounds behind
        return (item :: items, behind)
      | ']' :: behind => return ([item], behind)
      | _ => none

/-- A key, the sign behind it, and a value. -/
def readEntry? (value : Step Toml) : Step (List String × Toml) := fun text => do
  let (key, rest) ← readKey? text
  let (v, behind) ← value (skipSpaces (← behind? '=' rest))
  return ((key, v), behind)

/-- Enters a value under a key into the entries before it. -/
def enterKey? (key : List String) (value : Toml) (entries : Entries) : Option Entries := do
  enter? key.dropLast (← key.getLast?) value entries

/-- The entries in braces behind the opening one, at most `rounds`, added to those so far. -/
def readInline? (value : Step Toml) : Nat → Entries → Step Entries
  | 0, _, _ => none
  | rounds + 1, before, text => do
    let ((key, v), rest) ← readEntry? value text
    let entries ← enterKey? key v before
    match skipSpaces rest with
    | ',' :: behind => readInline? value rounds entries behind
    | '\x7d' :: behind => return (entries, behind)
    | _ => none

/-- A value, with arrays and tables nested to at most the given depth. -/
def readValueWithin? : Nat → Step Toml
  | 0, _ => none
  | depth + 1, text =>
    match text with
    | '[' :: rest =>
      (readItems? (readValueWithin? depth) (rest.length + 1) rest).map fun (items, behind) =>
        (.array items, behind)
    | '\x7b' :: rest =>
      match skipSpaces rest with
      | '\x7d' :: behind => some (.table .inline [], behind)
      | _ =>
        (readInline? (readValueWithin? depth) rest.length [] rest).map fun (entries, behind) =>
          (.table .inline entries, behind)
    | '"' :: _ => (readString? true text).map fun (s, behind) => (.string s, behind)
    | '\'' :: _ => (readString? true text).map fun (s, behind) => (.string s, behind)
    | _ =>
      let (word, behind) := readWord text
      (ofWord? word).map fun value => (value, behind)

/-- How deep values may nest. -/
def nestingLimit : Nat := 80

/-! ### Lines -/

/-- What the lines read so far amount to: all entries, and the path to the table that the next
entries belong to. -/
structure Progress where
  entries : Entries
  current : List String

/-- Goes on in the table of a heading, which the given step declares. -/
def Progress.under? (progress : Progress) (declareKey? : String → Entries → Option Entries)
    (key : List String) : Option Progress := do
  let name ← key.getLast?
  let entries ←
    change? false (fun _ inner => declareKey? name inner) .declared key.dropLast progress.entries
  return { entries, current := key }

/-- Enters a value into the current table. -/
def Progress.with? (progress : Progress) (key : List String) (value : Toml) : Option Progress := do
  let entries ←
    change? false (fun _ inner => enterKey? key value inner) .declared progress.current
      progress.entries
  return { progress with entries }

/-- Reads a heading or an entry, without the end of its line. -/
def readLine? (progress : Progress) : Step Progress := fun text =>
  match text with
  | '[' :: '[' :: rest => do
    let (key, rest) ← readKey? rest
    let rest ← behind? ']' (← behind? ']' rest)
    return (← progress.under? declareNext? key, rest)
  | '[' :: rest => do
    let (key, rest) ← readKey? rest
    return (← progress.under? declare? key, ← behind? ']' rest)
  | _ => do
    let ((key, value), rest) ← readEntry? (readValueWithin? nestingLimit) text
    return (← progress.with? key value, rest)

/-- Reads lines, at most `rounds` of them. -/
def readLines? : Nat → Progress → List Char → Option Entries
  | 0, _, _ => none
  | rounds + 1, progress, text => do
    match ← skipGaps? text with
    | [] => return progress.entries
    | line =>
      let (progress, rest) ← readLine? progress line
      readLines? rounds progress (← endLine? rest)

/-- The entries of a file of settings.  A mark of byte order at its front does not count. -/
def read? (text : String) : Option Entries :=
  let chars := match text.toList with
    | '\ufeff' :: rest => rest
    | chars => chars
  readLines? (chars.length + 1) { entries := [], current := [] } chars

end SqlGateway.Toml
