/-!
# Whole numbers in decimal

Reading whole numbers from ASCII digits, and the two ranges of machine integers that the gateway
accepts.  A number outside its range is not read at all, so a caller decides what it becomes.
-/

namespace SqlGateway.Decimal

/-- The value of a digit. -/
def digitValue (c : Char) : Nat :=
  c.toNat - '0'.toNat

/-- The number that a list of digits denotes, the leading digit first, continuing from `start`. -/
def ofDigitsFrom (start : Nat) (digits : List Char) : Nat :=
  digits.foldl (fun n c => 10 * n + digitValue c) start

/-- The number that a list of digits denotes, the leading digit first. -/
def ofDigits (digits : List Char) : Nat :=
  ofDigitsFrom 0 digits

/-- A non-empty text of digits as a number. -/
def readNat? (text : List Char) : Option Nat :=
  if !text.isEmpty && text.all Char.isDigit then some (ofDigits text) else none

/-- Digits after at most one sign, as an integer. -/
def readInt? : List Char → Option Int
  | '-' :: rest => (readNat? rest).map fun (n : Nat) => -(n : Int)
  | '+' :: rest => (readNat? rest).map fun (n : Nat) => (n : Int)
  | text => (readNat? text).map fun (n : Nat) => (n : Int)

/-- The least signed 64-bit integer. -/
def minInt64 : Int := -(Nat.pow 2 63 : Nat)

/-- The greatest signed 64-bit integer. -/
def maxInt64 : Int := (Nat.pow 2 63 : Nat) - 1

/-- The greatest unsigned 64-bit integer. -/
def maxUInt64 : Nat := Nat.pow 2 64 - 1

/-- Whether an integer is a signed 64-bit one. -/
def isInt64 (n : Int) : Bool :=
  minInt64 ≤ n && n ≤ maxInt64

/-- A signed 64-bit integer in decimal. -/
def readInt64? (text : List Char) : Option Int :=
  (readInt? text).filter isInt64

/-- An unsigned 64-bit integer in decimal; a plus sign may stand before it. -/
def readUInt64? (text : List Char) : Option Nat :=
  let digits := match text with
    | '+' :: rest => rest
    | _ => text
  (readNat? digits).filter (· ≤ maxUInt64)

end SqlGateway.Decimal
