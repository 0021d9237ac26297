import SqlGateway.Decimal.Shortest

/-!
# The text of a double

A layout decides how the digits of a double are set: where positional notation gives way to an
exponent, and whether a whole number keeps a fraction.  The gateway uses two of them, one for the
filters and messages and one for JSON.
-/

namespace SqlGateway.Decimal

/-- The decisions of one text format for doubles. -/
structure Layout where
  /-- Which of two equally near shortest decimals is written. -/
  tie : Tie
  /-- The scientific exponents written positionally, from the first up to and without the second;
  none for all of them. -/
  positional : Option (Int × Int)
  /-- What a whole number in positional notation ends with. -/
  wholeSuffix : List Char

/-- Filters and messages are positional throughout and leave out an empty fraction. -/
def Layout.plain : Layout :=
  { tie := .up, positional := none, wholeSuffix := [] }

/-- JSON is positional from a hundred-thousandth up to ten to the sixteenth and always shows that a
number is a double. -/
def Layout.json : Layout :=
  { tie := .toEven, positional := some (-5, 16), wholeSuffix := ['.', '0'] }

/-- The digits of a decimal in positional notation. -/
def positionalDigits (layout : Layout) (digits : List Char) (exponent : Int) : List Char :=
  if 0 ≤ exponent then digits ++ List.replicate exponent.toNat '0' ++ layout.wholeSuffix
  else
    let places := exponent.natAbs
    if digits.length ≤ places then
      '0' :: '.' :: (List.replicate (places - digits.length) '0' ++ digits)
    else
      digits.take (digits.length - places) ++ '.' :: digits.drop (digits.length - places)

/-- The digits of a decimal in scientific notation. -/
def scientificDigits (digits : List Char) (exponent : Int) : List Char :=
  let mantissa := match digits with
    | [] => []
    | [d] => [d]
    | d :: rest => d :: '.' :: rest
  let sign := if exponent < 0 then '-' else '+'
  mantissa ++ 'e' :: sign :: Nat.toDigits 10 exponent.natAbs

/-- The text of a decimal. -/
def Positional.layOut (layout : Layout) (x : Positional) : List Char :=
  let digits := Nat.toDigits 10 x.digits
  let scientific : Int := digits.length + x.exponent - 1
  let isPositional := match layout.positional with
    | none => true
    | some (first, last) => first ≤ scientific && scientific < last
  if isPositional then positionalDigits layout digits x.exponent
  else scientificDigits digits scientific

/-- Whether the sign of a double is negative; negative zero has one. -/
def isNegative (x : Float) : Bool :=
  Nat.pow 2 63 ≤ x.toBits.toNat

/-- The text of a double. -/
def floatText (layout : Layout) (x : Float) : String :=
  if x.isNaN then "NaN"
  else
    let magnitude :=
      if x.isInf then ['i', 'n', 'f']
      else (shortest layout.tie x.toBits).layOut layout
    String.ofList (if isNegative x then '-' :: magnitude else magnitude)

end SqlGateway.Decimal
