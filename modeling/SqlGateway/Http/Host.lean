import SqlGateway.Http.Percent
import SqlGateway.Text.Hex
import SqlGateway.Text.Split
import SqlGateway.Text.Utf8

/-!
# Hosts

The host of an address is a name, an address of four numbers, or an address of eight groups in
brackets.  A name whose last part is a number has to be an address of numbers.  Names outside ASCII
are taken as they are.
-/

namespace SqlGateway.Http

/-! ### Addresses of numbers -/

/-- The value of digits to a base, if there is nothing else. -/
def digitsToBase? (base : Nat) (digits : List Char) : Option Nat :=
  digits.foldlM (fun n c => do
    let digit ← Text.hexValue? c
    if digit < base then some (n * base + digit) else none) 0

/-- A number of an address: hexadecimal behind `0x`, octal behind `0`, and otherwise decimal. -/
def hostNumber? : List Char → Option Nat
  | [] => none
  | '0' :: 'x' :: digits => digitsToBase? 16 digits
  | '0' :: 'X' :: digits => digitsToBase? 16 digits
  | '0' :: d :: digits => digitsToBase? 8 (d :: digits)
  | digits => digitsToBase? 10 digits

/-- The parts of a host between its points, without an empty one at the end. -/
def hostParts (host : List Char) : List (List Char) :=
  let parts := Text.splitAt '.' host
  if parts.getLast? = some [] then parts.dropLast else parts

/-- Whether the last part of a host is a number, so that the host has to be an address. -/
def endsInNumber (host : List Char) : Bool :=
  (hostParts host).getLast?.any fun part =>
    !part.isEmpty && part.all Char.isDigit || (hostNumber? part).isSome

/-- Whether a host is an address of up to four numbers, of which the last one fills what the others
leave of 32 bits. -/
def isNumberHost (host : List Char) : Bool :=
  match (hostParts host).mapM hostNumber? with
  | none => false
  | some numbers =>
    match numbers.getLast? with
    | none => false
    | some last => numbers.length ≤ 4 && numbers.dropLast.all (· < 256) &&
      last < Nat.pow 256 (5 - numbers.length)

/-! ### Addresses of groups -/

/-- Whether a text is a group of up to four hexadecimal digits. -/
def isGroup (text : List Char) : Bool :=
  !text.isEmpty && text.length ≤ 4 && text.all Text.isHexDigit

/-- Whether a text is a decimal number of a byte, without zeros in front. -/
def isByte (text : List Char) : Bool :=
  !text.isEmpty && text.all Char.isDigit && (text.head? != some '0' || text.length == 1) &&
    ((digitsToBase? 10 text).any (· < 256))

/-- Whether a text is four numbers of bytes with points between them. -/
def isDotted (text : List Char) : Bool :=
  let parts := Text.splitAt '.' text
  parts.length == 4 && parts.all isByte

/-- The number of groups with colons between them, if there is nothing else; at the very end of an
address four numbers may stand for two groups. -/
def groupCount? (atEnd : Bool) (text : List Char) : Option Nat :=
  if text.isEmpty then some 0
  else
    let groups := Text.splitAt ':' text
    let last := groups.getLastD []
    if groups.dropLast.all isGroup then
      if isGroup last then some groups.length
      else if atEnd && isDotted last then some (groups.length + 1)
      else none
    else none

/-- The text before the first two colons in a row and the text behind them. -/
def splitAtColons? : List Char → Option (List Char × List Char)
  | ':' :: ':' :: rest => some ([], rest)
  | c :: rest => (splitAtColons? rest).map fun (before, behind) => (c :: before, behind)
  | [] => none

/-- Whether a text is an address of eight groups; two colons in a row stand for all groups that are
not written, of which there has to be one. -/
def isGroupHost (text : List Char) : Bool :=
  match splitAtColons? text with
  | none => groupCount? true text == some 8
  | some (before, behind) =>
    match groupCount? false before, groupCount? true behind with
    | some m, some n => m + n ≤ 7
    | _, _ => false

/-! ### Names -/

/-- Whether a character is a control character. -/
def isControl (c : Char) : Bool :=
  c.toNat < 32 || c.toNat == 127

/-- Whether a character may not stand in the name of a host. -/
def isForbiddenInHost (c : Char) : Bool :=
  isControl c || " #%/:<>?@[\\]^|".toList.contains c

/-- Whether a text is a host. -/
def isHost : List Char → Bool
  | '[' :: rest => rest.getLast? == some ']' && isGroupHost rest.dropLast
  | text =>
    match percentDecoded? text with
    | none => false
    | some name =>
      !name.isEmpty && !name.toList.any isForbiddenInHost &&
        (!endsInNumber name.toList || isNumberHost name.toList)

end SqlGateway.Http
