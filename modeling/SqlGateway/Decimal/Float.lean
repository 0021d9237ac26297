import SqlGateway.Decimal.Digits

/-!
# Reading a decimal as a double

A decimal text denotes a whole number of units times a power of ten; the double read from it is the
nearest one.  Magnitudes far outside the range of doubles are settled by their number of digits, so
that no power of ten larger than the format needs is ever computed.
-/

namespace SqlGateway.Decimal

/-- Positive infinity. -/
def infinity : Float := 1.0 / 0.0

/-- The value that is no number. -/
def notANumber : Float := 0.0 / 0.0

/-- The double nearest to `units * 10 ^ exponent`. -/
def nearestFloat (units : Nat) (exponent : Int) : Float :=
  if units = 0 then 0.0
  else
    let magnitude : Int := (Nat.toDigits 10 units).length + exponent
    if magnitude > 310 then infinity
    else if magnitude < -330 then 0.0
    else Float.ofScientific units (exponent < 0) exponent.natAbs

/-- The double nearest to an integer. -/
def floatOfInt (n : Int) : Float :=
  if n < 0 then -(nearestFloat n.natAbs 0) else nearestFloat n.natAbs 0

/-- The exponent part of a number: empty, or a letter `e`, at most one sign and digits. -/
def readExponent? : List Char → Option Int
  | [] => some 0
  | c :: rest => if c = 'e' || c = 'E' then readInt? rest else none

/-- An unsigned decimal: digits with at most one point and at least one digit, then an exponent. -/
def readMagnitude? (text : List Char) : Option Float :=
  let whole := text.takeWhile Char.isDigit
  let afterWhole := text.dropWhile Char.isDigit
  let (fraction, afterFraction) := match afterWhole with
    | '.' :: rest => (rest.takeWhile Char.isDigit, rest.dropWhile Char.isDigit)
    | _ => ([], afterWhole)
  if whole.isEmpty && fraction.isEmpty then none
  else
    (readExponent? afterFraction).map fun exponent =>
      nearestFloat (ofDigits (whole ++ fraction)) (exponent - fraction.length)

/-- The names of infinity and of the value that is no number, in any letter case. -/
def readSpecial? (text : List Char) : Option Float :=
  match String.ofList (text.map Char.toLower) with
  | "inf" => some infinity
  | "infinity" => some infinity
  | "nan" => some notANumber
  | _ => none

/-- An unsigned double: a decimal, or one of the special names. -/
def readUnsignedFloat? (text : List Char) : Option Float :=
  match readSpecial? text with
  | some x => some x
  | none => readMagnitude? text

/-- A double in decimal, after at most one sign. -/
def readFloat? : List Char → Option Float
  | '-' :: rest => (readUnsignedFloat? rest).map fun x => -x
  | '+' :: rest => readUnsignedFloat? rest
  | text => readUnsignedFloat? text

end SqlGateway.Decimal
