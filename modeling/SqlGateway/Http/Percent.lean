import SqlGateway.Text.Hex

/-!
# Percent encoding

Characters that may not stand in an address are written as the bytes of their UTF-8 form, each as a
percent sign and two hexadecimal digits.
-/

namespace SqlGateway.Http

/-- A hexadecimal digit, with capital letters. -/
def hexDigit (n : Nat) : Char :=
  if n < 10 then Char.ofNat ('0'.toNat + n) else Char.ofNat ('A'.toNat + (n - 10))

/-- A byte as a percent sign and two digits. -/
def percentByte (byte : UInt8) : List Char :=
  ['%', hexDigit (byte.toNat / 16), hexDigit (byte.toNat % 16)]

/-- A character as its bytes. -/
def percentChar (c : Char) : List Char :=
  (String.utf8EncodeChar c).flatMap percentByte

/-- A text in which the characters that do not pass a test are encoded. -/
def percentEncode (isKept : Char → Bool) (text : List Char) : List Char :=
  text.flatMap fun c => if isKept c then [c] else percentChar c

/-- The bytes of a text in which a percent sign and two digits stand for a byte; a percent sign
before anything else stands for itself. -/
def percentDecode : List Char → List UInt8
  | '%' :: high :: low :: rest =>
    match Text.hexValue? high, Text.hexValue? low with
    | some m, some n => UInt8.ofNat (16 * m + n) :: percentDecode rest
    | _, _ => '%'.toUInt8 :: percentDecode (high :: low :: rest)
  | c :: rest => String.utf8EncodeChar c ++ percentDecode rest
  | [] => []

/-- The text of the bytes that a text stands for, if they are UTF-8. -/
def percentDecoded? (text : List Char) : Option String :=
  String.fromUTF8? ⟨(percentDecode text).toArray⟩

end SqlGateway.Http
