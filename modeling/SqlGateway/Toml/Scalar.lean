import SqlGateway.Decimal.Float
import SqlGateway.Text.Hex
import SqlGateway.Text.Split
import SqlGateway.Text.Step
import SqlGateway.Toml.Basic

/-!
# Words and strings in settings

A value without quotes is a word: a truth value, a number or a date.  Strings stand between single
or double quotes, one or three of them; double quotes allow escapes, and three quotes allow line
breaks.
-/

namespace SqlGateway.Toml

open Text (Step hexValue? isHexDigit)

/-! ### Numbers -/

/-- The digits of a text in which single underscores may stand between digits. -/
def digitsOf? (isDigit : Char → Bool) (text : List Char) : Option (List Char) :=
  if (Text.splitAt '_' text).all fun part => !part.isEmpty && part.all isDigit then
    some (text.filter (· != '_'))
  else none

/-- The number that digits of a base denote. -/
def inBase (base : Nat) (digits : List Char) : Nat :=
  digits.foldl (fun n c => base * n + (hexValue? c).getD 0) 0

/-- Digits without a zero in front, but for zero itself. -/
def wholeDigits? (text : List Char) : Option (List Char) :=
  match digitsOf? Char.isDigit text with
  | some ('0' :: _ :: _) => none
  | digits? => digits?

/-- A text without a sign in front, and whether the sign was a minus. -/
def unsigned : List Char → Bool × List Char
  | '-' :: rest => (true, rest)
  | '+' :: rest => (false, rest)
  | text => (false, text)

/-- A whole number in decimal or, after a mark, to another base. -/
def readInteger? (text : List Char) : Option Int :=
  let number := match text with
    | '0' :: 'x' :: rest => (digitsOf? isHexDigit rest).map fun digits => (inBase 16 digits : Int)
    | '0' :: 'o' :: rest =>
      (digitsOf? (fun c => '0' ≤ c && c ≤ '7') rest).map fun digits => (inBase 8 digits : Int)
    | '0' :: 'b' :: rest =>
      (digitsOf? (fun c => c == '0' || c == '1') rest).map fun digits => (inBase 2 digits : Int)
    | _ =>
      let (isNegative, magnitude) := unsigned text
      (wholeDigits? magnitude).map fun digits =>
        if isNegative then -(inBase 10 digits : Int) else inBase 10 digits
  number.filter Decimal.isInt64

/-- Whether a text is an exponent behind its letter. -/
def isExponent (text : List Char) : Bool :=
  (digitsOf? Char.isDigit (unsigned text).2).isSome

/-- Whether a text is a fraction behind its point, perhaps with an exponent. -/
def isFraction (text : List Char) : Bool :=
  let digits := text.takeWhile fun c => !(c == 'e' || c == 'E')
  (digitsOf? Char.isDigit digits).isSome &&
    match text.drop digits.length with
    | [] => true
    | _ :: exponent => isExponent exponent

/-- Whether a decimal is too great for a double. -/
def isTooGreat (magnitude : List Char) : Bool :=
  (Decimal.readMagnitude? (magnitude.filter (· != '_'))).any Float.isInf

/-- Whether a text is a fractional number.  A positive one must not be too great for a double. -/
def isFloat (text : List Char) : Bool :=
  let (isNegative, magnitude) := unsigned text
  let whole := magnitude.takeWhile fun c => c.isDigit || c == '_'
  magnitude == "inf".toList || magnitude == "nan".toList ||
    ((wholeDigits? whole).isSome &&
      (match magnitude.drop whole.length with
      | '.' :: fraction => isFraction fraction
      | 'e' :: exponent => isExponent exponent
      | 'E' :: exponent => isExponent exponent
      | _ => false) &&
      (isNegative || !isTooGreat magnitude))

/-! ### Dates -/

/-- A number of exactly `count` digits at the front of a text. -/
def fixedDigits? (count : Nat) : Step Nat := fun text =>
  let digits := text.take count
  if digits.length = count && digits.all Char.isDigit then
    some (inBase 10 digits, text.drop count)
  else none

/-- The text behind a character. -/
def behind? (c : Char) : List Char → Option (List Char)
  | d :: rest => if d = c then some rest else none
  | [] => none

/-- The days of a month. -/
def daysOf (year month : Nat) : Nat :=
  if month = 2 then
    if year % 4 = 0 && (year % 100 ≠ 0 || year % 400 = 0) then 29 else 28
  else if [4, 6, 9, 11].contains month then 30
  else 31

/-- The text behind a date. -/
def afterDate? (text : List Char) : Option (List Char) := do
  let (year, rest) ← fixedDigits? 4 text
  let (month, rest) ← fixedDigits? 2 (← behind? '-' rest)
  let (day, rest) ← fixedDigits? 2 (← behind? '-' rest)
  if 1 ≤ month && month ≤ 12 && 1 ≤ day && day ≤ daysOf year month then some rest else none

/-- The text behind a time of day. -/
def afterTime? (text : List Char) : Option (List Char) := do
  let (hour, rest) ← fixedDigits? 2 text
  let (minute, rest) ← fixedDigits? 2 (← behind? ':' rest)
  let (second, rest) ← fixedDigits? 2 (← behind? ':' rest)
  if hour ≤ 23 && minute ≤ 59 && second ≤ 60 then
    match rest with
    | '.' :: fraction =>
      let digits := fraction.takeWhile Char.isDigit
      if digits.isEmpty then none else some (fraction.drop digits.length)
    | _ => some rest
  else none

/-- Whether a text is the offset of a time, or nothing. -/
def isOffset (text : List Char) : Bool :=
  match text with
  | [] => true
  | ['Z'] => true
  | ['z'] => true
  | sign :: rest =>
    (sign == '+' || sign == '-') &&
      match fixedDigits? 2 rest with
      | some (hour, ':' :: minutes) =>
        match fixedDigits? 2 minutes with
        | some (minute, []) => hour ≤ 23 && minute ≤ 59
        | _ => false
      | _ => false

/-- Whether a text is a date, a time, or both. -/
def isDate (text : List Char) : Bool :=
  match afterDate? text with
  | some [] => true
  | some (mark :: rest) =>
    (mark == 'T' || mark == 't' || mark == ' ') && (afterTime? rest).any isOffset
  | none => afterTime? text == some []

/-! ### Words -/

/-- The value of a word. -/
def ofWord? (text : List Char) : Option Toml :=
  if text = "true".toList || text = "false".toList || isFloat text || isDate text then some .other
  else (readInteger? text).map .integer

/-- Whether a character may stand in a word. -/
def isWordChar (c : Char) : Bool :=
  c.isAlphanum || c == '+' || c == '-' || c == '_' || c == '.' || c == ':'

/-- A word at the front of a text.  A blank may stand between a date and a time. -/
def readWord (text : List Char) : List Char × List Char :=
  let first := text.takeWhile isWordChar
  let rest := text.drop first.length
  match rest with
  | ' ' :: c :: more =>
    if afterDate? first = some [] && c.isDigit then
      let second := (c :: more).takeWhile isWordChar
      (first ++ ' ' :: second, (c :: more).drop second.length)
    else (first, rest)
  | _ => (first, rest)

/-! ### Strings -/

/-- Whether a character may not stand in a string or a remark. -/
def isRefused (c : Char) : Bool :=
  (c.toNat < 32 && c != '\t') || c.toNat == 127

/-- The character with a number of hexadecimal digits, if there is such a character. -/
def charOf? (digits : List Char) : Option Char :=
  if digits.all isHexDigit then
    let code := inBase 16 digits
    if code.isValidChar then some (Char.ofNat code) else none
  else none

/-- The character that an escape stands for, and the text behind it. -/
def readEscape? : Step Char
  | 'b' :: rest => some ('\x08', rest)
  | 't' :: rest => some ('\t', rest)
  | 'n' :: rest => some ('\n', rest)
  | 'f' :: rest => some ('\x0c', rest)
  | 'r' :: rest => some ('\r', rest)
  | '"' :: rest => some ('"', rest)
  | '\\' :: rest => some ('\\', rest)
  | 'u' :: a :: b :: c :: d :: rest => (charOf? [a, b, c, d]).map (·, rest)
  | 'U' :: a :: b :: c :: d :: e :: f :: g :: h :: rest =>
    (charOf? [a, b, c, d, e, f, g, h]).map (·, rest)
  | _ => none

/-- What a step inside a string finds. -/
inductive Piece where
  /-- A part of the string. -/
  | part (text : List Char)
  /-- The end of the string, with the part before it. -/
  | finish (text : List Char)

/-- How a string is written. -/
structure Style where
  quote : Char
  escapes : Bool
  severalLines : Bool

/-- The text behind a line break at the front of a text. -/
def afterBreak? : List Char → Option (List Char)
  | '\n' :: rest => some rest
  | '\r' :: '\n' :: rest => some rest
  | _ => none

/-- Whether a character is a blank within a line. -/
def isSpace (c : Char) : Bool :=
  c == ' ' || c == '\t'

/-- The text behind a line break that a backslash takes away, and behind all blanks after it. -/
def afterJoin? (text : List Char) : Option (List Char) :=
  (afterBreak? (text.dropWhile isSpace)).map fun rest =>
    rest.dropWhile fun c => isSpace c || c == '\n' || c == '\r'

/-- The quotes at the front of a text in a string with three quotes: up to two of them belong to the
string, also before the three that end it. -/
def quoteRun (quote : Char) (text : List Char) : Piece × List Char :=
  let run := (text.takeWhile (· == quote)).take 5
  let piece := if run.length < 3 then .part run else .finish (run.drop 3)
  (piece, text.drop run.length)

/-- One step inside a string. -/
def readPiece? (style : Style) : Step Piece
  | [] => none
  | c :: rest =>
    if c = style.quote then
      if style.severalLines then some (quoteRun style.quote (c :: rest))
      else some (.finish [], rest)
    else if c = '\\' && style.escapes then
      match (if style.severalLines then afterJoin? rest else none) with
      | some behind => some (.part [], behind)
      | none => (readEscape? rest).map fun (escaped, behind) => (.part [escaped], behind)
    else
      match (if style.severalLines then afterBreak? (c :: rest) else none) with
      | some behind => some (.part ['\n'], behind)
      | none => if isRefused c then none else some (.part [c], rest)

/-- A string behind its opening quotes, in at most `rounds` steps. -/
def readPieces? (style : Style) : Nat → Step (List Char)
  | 0, _ => none
  | rounds + 1, text => do
    let (piece, rest) ← readPiece? style text
    match piece with
    | .finish inner => return (inner, rest)
    | .part inner =>
      let (further, behind) ← readPieces? style rounds rest
      return (inner ++ further, behind)

/-- A string at the front of a text.  A line break directly behind three quotes does not count. -/
def readString? (mayHaveLines : Bool) : Step String := fun text =>
  match text with
  | [] => none
  | quote :: rest =>
    if quote = '"' || quote = '\'' then
      let opensLines := mayHaveLines && rest.take 2 == [quote, quote]
      let style : Style := { quote, escapes := quote == '"', severalLines := opensLines }
      let inner := if opensLines then rest.drop 2 else rest
      let start := if opensLines then (afterBreak? inner).getD inner else inner
      (readPieces? style (start.length + 1) start).map fun (chars, behind) =>
        (String.ofList chars, behind)
    else none

end SqlGateway.Toml
