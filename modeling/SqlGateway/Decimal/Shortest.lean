import SqlGateway.Decimal.Digits

/-!
# The shortest decimal that reads back

A finite positive double is `significand * 2 ^ exponent`.  The real numbers that round to it form an
interval, which contains its ends exactly when the significand is even.  Among the decimals in that
interval the one on the coarsest grid of powers of ten is chosen, and on that grid the one nearest
to the double.  Only the two neighbours of the double on each grid need a test: if any point of a
grid lies in the interval, so does one of these two.
-/

namespace SqlGateway.Decimal

/-- The decimal number `digits * 10 ^ exponent`. -/
structure Positional where
  /-- Its digits, as one whole number. -/
  digits : Nat
  /-- The power of ten that the last digit counts. -/
  exponent : Int

/-- Which of two equally near decimals is taken. -/
inductive Tie where
  /-- The greater one. -/
  | up
  /-- The one whose last digit is even. -/
  | toEven

/-- A finite positive double and the interval of reals that round to it, over one denominator. -/
structure Rounding where
  /-- Numerator of the double. -/
  value : Nat
  /-- Numerator of the lower end. -/
  low : Nat
  /-- Numerator of the upper end. -/
  high : Nat
  /-- The common denominator. -/
  denominator : Nat
  /-- Whether the ends belong to the interval. -/
  closed : Bool
  /-- An upper bound on the double's number of decimal places before the point. -/
  places : Int

/-- The parts of a finite double without its sign: its significand and its binary exponent. -/
def parts (bits : UInt64) : Nat × Int :=
  let hidden := Nat.pow 2 52
  let fraction : Nat := bits.toNat % hidden
  let biased : Nat := bits.toNat / hidden % 2048
  if biased = 0 then (fraction, -1074) else (fraction + hidden, biased - 1075)

/-- The rounding interval of `significand * 2 ^ exponent`.  Below a power of two the neighbouring
double is only half as far away as above it. -/
def Rounding.of (significand : Nat) (exponent : Int) : Rounding :=
  let scale := Nat.pow 2 (exponent - 2).toNat
  let below := if significand = Nat.pow 2 52 && exponent > -1074 then 1 else 2
  { value := 4 * significand * scale
    low := (4 * significand - below) * scale
    high := (4 * significand + 2) * scale
    denominator := Nat.pow 2 (2 - exponent).toNat
    closed := significand % 2 == 0
    places := ((Nat.log2 significand : Int) + 1 + exponent) * 30103 / 100000 + 2 }

/-- Whether `digits * 10 ^ exponent` rounds to the double. -/
def Rounding.contains (r : Rounding) (digits : Nat) (exponent : Int) : Bool :=
  let point := digits * Nat.pow 10 exponent.toNat * r.denominator
  let unit := Nat.pow 10 (-exponent).toNat
  if r.closed then r.low * unit ≤ point && point ≤ r.high * unit
  else r.low * unit < point && point < r.high * unit

/-- The decimals of one grid that round to the double, if any: the chosen neighbour of it. -/
def Rounding.onGrid? (r : Rounding) (tie : Tie) (exponent : Int) : Option Nat :=
  let unit := r.denominator * Nat.pow 10 exponent.toNat
  let value := r.value * Nat.pow 10 (-exponent).toNat
  let below := value / unit
  match r.contains below exponent, r.contains (below + 1) exponent with
  | false, false => none
  | true, false => some below
  | false, true => some (below + 1)
  | true, true =>
    match compare (2 * (value % unit)) unit, tie with
    | .lt, _ => some below
    | .gt, _ => some (below + 1)
    | .eq, .up => some (below + 1)
    | .eq, .toEven => if below % 2 = 0 then some below else some (below + 1)

/-- Searches the grids from `exponent` downwards. -/
def Rounding.search (r : Rounding) (tie : Tie) : Nat → Int → Positional
  | 0, exponent =>
    ⟨r.value * Nat.pow 10 (-exponent).toNat / (r.denominator * Nat.pow 10 exponent.toNat), exponent⟩
  | grids + 1, exponent =>
    match r.onGrid? tie exponent with
    | some digits => ⟨digits, exponent⟩
    | none => r.search tie grids (exponent - 1)

/-- The shortest decimal that reads back as a finite double without its sign.  Seventeen digits
always suffice, and the search starts at most three grids too high. -/
def shortest (tie : Tie) (bits : UInt64) : Positional :=
  let (significand, exponent) := parts bits
  if significand = 0 then ⟨0, 0⟩
  else
    let r := Rounding.of significand exponent
    r.search tie 24 r.places

end SqlGateway.Decimal
