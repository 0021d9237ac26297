import SqlGateway.Json.Basic
import SqlGateway.Decimal.Float
import SqlGateway.Text.Hex
import SqlGateway.Text.Step

/-!
# Reading JSON

A value is read from the front of a list of characters.  Arrays and objects may nest up to a given
depth; a reader for one depth is built from the reader for the depth below it, so its recursion
ends with the depth and needs no further measure.  The items of one array are read in a loop that
takes at least one character each round, which bounds it by the length of the text.

A decimal is read in three steps: its digits form a significand of at most 64 bits, the significand
becomes the nearest double, and that double is scaled by a power of ten.  A decimal too great for a
double is refused.
-/

namespace SqlGateway.Json

open Decimal Text

/-- How deep arrays and objects may nest in a text: to one level less than this. -/
def nestingLimit : Nat := 128

/-- A text without its leading JSON blanks. -/
def skipBlanks (text : List Char) : List Char :=
  text.dropWhile fun c => c == ' ' || c == '\n' || c == '\t' || c == '\r'

/-! ### Numbers -/

/-- Appends digits to a significand as long as it stays within 64 bits, and returns those left. -/
def absorbDigits (significand : Nat) : List Char → Nat × List Char
  | [] => (significand, [])
  | c :: rest =>
    let next := significand * 10 + digitValue c
    if next ≤ maxUInt64 then absorbDigits next rest else (significand, c :: rest)

/-- Scales a double by a power of ten: at once if the power is itself a double, and otherwise by
steps of `10 ^ 308` downwards, at most `steps` of them. -/
def scaleFloat? : Nat → Float → Int → Option Float
  | 0, _, _ => some 0.0
  | steps + 1, x, exponent =>
    let power := Float.ofScientific 1 false exponent.natAbs
    if exponent.natAbs ≤ 308 then
      if 0 ≤ exponent then
        let y := x * power
        if y.isInf then none else some y
      else some (x / power)
    else if x == 0.0 then some x
    else if 0 ≤ exponent then none
    else scaleFloat? steps (x / Float.ofScientific 1 false 308) (exponent + 308)

/-- The double for a significand and a power of ten. -/
def scaled? (negative : Bool) (significand : Nat) (exponent : Int) : Option Number :=
  (scaleFloat? 4 (nearestFloat significand 0) exponent).map fun x =>
    .float (if negative then -x else x)

/-- The whole number with the given digits, a double if it is negative zero or beyond 64 bits. -/
def wholeNumber (negative : Bool) (significand : Nat) : Number :=
  if !negative then .int significand
  else if 0 < significand && significand ≤ Nat.pow 2 63 then .int (-(significand : Int))
  else .float (-(nearestFloat significand 0))

/-- An exponent after its letter: at most one sign and at least one digit, and what follows it. -/
def readExponent? (text : List Char) : Option ((Bool × Nat) × List Char) :=
  let (down, digits) := match text with
    | '-' :: rest => (true, rest)
    | '+' :: rest => (false, rest)
    | _ => (false, text)
  match readNat? (digits.takeWhile Char.isDigit) with
  | some n => some ((down, n), digits.dropWhile Char.isDigit)
  | none => none

/-- The double for a significand, a power of ten and a written exponent.  A written exponent beyond
31 bits settles the answer by itself. -/
def withExponent? (negative : Bool) (significand : Nat) (exponent : Int) (down : Bool)
    (written : Nat) : Option Number :=
  if written < Nat.pow 2 31 then
    scaled? negative significand (if down then exponent - written else exponent + written)
  else if significand ≠ 0 && !down then none
  else some (.float (if negative then -0.0 else 0.0))

/-- The whole part of a number: a zero alone, or digits that do not begin with a zero. -/
def readWhole? (text : List Char) : Option (List Char × List Char) :=
  match text with
  | '0' :: c :: rest => if c.isDigit then none else some (['0'], c :: rest)
  | _ =>
    let digits := text.takeWhile Char.isDigit
    if digits.isEmpty then none else some (digits, text.dropWhile Char.isDigit)

/-- A number without its sign. -/
def readUnsigned? (negative : Bool) (text : List Char) : Option (Number × List Char) := do
  let (whole, afterWhole) ← readWhole? text
  let (significand, beyond) := absorbDigits 0 whole
  let (fraction, afterFraction) ← match afterWhole with
    | '.' :: rest =>
      let digits := rest.takeWhile Char.isDigit
      if digits.isEmpty then none else some (some digits, rest.dropWhile Char.isDigit)
    | _ => some (none, afterWhole)
  let (units, dropped) := absorbDigits significand (fraction.getD [])
  let places := (fraction.getD []).length - dropped.length
  let exponent : Int := beyond.length - places
  match afterFraction with
  | c :: rest =>
    if c = 'e' || c = 'E' then
      let ((down, written), afterExponent) ← readExponent? rest
      (withExponent? negative units exponent down written).map (·, afterExponent)
    else if fraction.isNone && beyond.isEmpty then
      some (wholeNumber negative units, afterFraction)
    else (scaled? negative units exponent).map (·, afterFraction)
  | [] =>
    if fraction.isNone && beyond.isEmpty then some (wholeNumber negative units, [])
    else (scaled? negative units exponent).map (·, [])

/-- A number. -/
def readNumber? : List Char → Option (Number × List Char)
  | '-' :: rest => readUnsigned? true rest
  | text => readUnsigned? false text

/-! ### Strings -/

/-- The value of four hexadecimal digits. -/
def hexUnit? (a b c d : Char) : Option Nat := do
  some ((((← hexValue? a) * 16 + (← hexValue? b)) * 16 + (← hexValue? c)) * 16 + (← hexValue? d))

/-- The character that a short escape stands for. -/
def shortEscape? : Char → Option Char
  | '"' => some '"'
  | '\\' => some '\\'
  | '/' => some '/'
  | 'b' => some '\x08'
  | 'f' => some '\x0c'
  | 'n' => some '\n'
  | 'r' => some '\r'
  | 't' => some '\t'
  | _ => none

/-- The contents of a string after its opening quote, the characters read so far reversed in
`before`.  A pair of surrogate escapes stands for one character; a surrogate alone is refused. -/
def readString? (before : List Char) : List Char → Option (String × List Char)
  | '"' :: rest => some (String.ofList before.reverse, rest)
  | '\\' :: 'u' :: a :: b :: c :: d :: rest => do
    let unit ← hexUnit? a b c d
    if 0xD800 ≤ unit && unit < 0xDC00 then
      match rest with
      | '\\' :: 'u' :: e :: f :: g :: h :: behind =>
        let second ← hexUnit? e f g h
        if 0xDC00 ≤ second && second < 0xE000 then
          readString?
            (Char.ofNat (0x10000 + (unit - 0xD800) * 0x400 + (second - 0xDC00)) :: before) behind
        else none
      | _ => none
    else if 0xDC00 ≤ unit && unit < 0xE000 then none
    else readString? (Char.ofNat unit :: before) rest
  | '\\' :: c :: rest => do
    let escaped ← shortEscape? c
    readString? (escaped :: before) rest
  | c :: rest => if c.toNat < 32 || c = '\\' then none else readString? (c :: before) rest
  | [] => none

/-! ### Values -/

/-- The items of an array up to its closing bracket, at most `rounds` of them. -/
def readItems? (item : Step Json) : Nat → Step (List Json)
  | 0, _ => none
  | rounds + 1, text => do
    let (value, afterValue) ← item (skipBlanks text)
    match skipBlanks afterValue with
    | ',' :: rest =>
      (readItems? item rounds rest).map fun (items, behind) => (value :: items, behind)
    | ']' :: rest => some ([value], rest)
    | _ => none

/-- The fields of an object up to its closing brace, at most `rounds` of them. -/
def readFields? (item : Step Json) : Nat → Step (List (String × Json))
  | 0, _ => none
  | rounds + 1, text =>
    match skipBlanks text with
    | '"' :: quotedText => do
      let (key, afterKey) ← readString? [] quotedText
      match skipBlanks afterKey with
      | ':' :: valueText =>
        let (value, afterValue) ← item (skipBlanks valueText)
        match skipBlanks afterValue with
        | ',' :: rest =>
          (readFields? item rounds rest).map fun (fields, behind) =>
            ((key, value) :: fields, behind)
        | '}' :: rest => some ([(key, value)], rest)
        | _ => none
      | _ => none
    | _ => none

/-- An array or an object, given a reader for the values inside it. -/
def readContainer? (item : Step Json) (opening : Char) (text : List Char) :
    Option (Json × List Char) :=
  if opening = '[' then
    match skipBlanks text with
    | ']' :: rest => some (.array [], rest)
    | _ => (readItems? item text.length text).map fun (items, rest) => (.array items, rest)
  else
    match skipBlanks text with
    | '}' :: rest => some (.object [], rest)
    | _ => (readFields? item text.length text).map fun (fields, rest) => (.object fields, rest)

/-- A value at the front of a text, with containers nested to less than the given depth. -/
def readValue? : Nat → Step Json
  | 0, _ => none
  | depth + 1, text =>
    match text with
    | 'n' :: rest => (dropWord? "ull".toList rest).map (.null, ·)
    | 't' :: rest => (dropWord? "rue".toList rest).map (.bool true, ·)
    | 'f' :: rest => (dropWord? "alse".toList rest).map (.bool false, ·)
    | '"' :: rest => (readString? [] rest).map fun (s, behind) => (.string s, behind)
    | '[' :: rest => if depth = 0 then none else readContainer? (readValue? depth) '[' rest
    | '{' :: rest => if depth = 0 then none else readContainer? (readValue? depth) '{' rest
    | _ => (readNumber? text).map fun (n, rest) => (.number n, rest)

/-- Reads a whole text as one value, with containers nested to less than the given depth. -/
def readWithin? (depth : Nat) (text : String) : Option Json :=
  match readValue? depth (skipBlanks text.toList) with
  | some (value, rest) => if (skipBlanks rest).isEmpty then some value else none
  | none => none

/-- Reads a whole text as one value.  Objects keep every field that is written. -/
def read? (text : String) : Option Json :=
  readWithin? nestingLimit text

end SqlGateway.Json
