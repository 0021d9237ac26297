/-!
# Text from bytes

Bytes are read as UTF-8.  Where they are none, the longest stretch that is the beginning of a
character, or else a single byte, is replaced by U+FFFD.
-/

namespace SqlGateway.Text

/-- How many bytes follow the first byte of a character. -/
def followers (first : UInt8) : Nat :=
  if 0xC2 ≤ first && first ≤ 0xDF then 1
  else if 0xE0 ≤ first && first ≤ 0xEF then 2
  else if 0xF0 ≤ first && first ≤ 0xF4 then 3
  else 0

/-- Whether a byte may come second after the first byte of a character: the forms that are too long,
the surrogates and what lies beyond the last character are left out. -/
def isSecond (first second : UInt8) : Bool :=
  let least : UInt8 := if first = 0xE0 then 0xA0 else if first = 0xF0 then 0x90 else 0x80
  let greatest : UInt8 := if first = 0xED then 0x9F else if first = 0xF4 then 0x8F else 0xBF
  least ≤ second && second ≤ greatest

/-- Whether a byte may come later in a character. -/
def isLater (byte : UInt8) : Bool :=
  0x80 ≤ byte && byte ≤ 0xBF

/-- How many of the bytes behind the first one belong to it. -/
def followersIn (first : UInt8) : List UInt8 → Nat
  | [] => 0
  | second :: rest =>
    if followers first ≠ 0 ∧ isSecond first second then
      1 + ((rest.take (followers first - 1)).takeWhile isLater).length
    else 0

/-- The character of a first byte and those that follow it. -/
def charOfBytes (first : UInt8) (behind : List UInt8) : Char :=
  Char.ofNat (behind.foldl (fun n byte => n * 64 + (byte.toNat - 0x80))
    (first.toNat % Nat.pow 2 (6 - behind.length)))

/-- The characters of bytes, with U+FFFD in the place of what is none. -/
def lossyChars : List UInt8 → List Char
  | [] => []
  | first :: rest =>
    if first < 0x80 then Char.ofNat first.toNat :: lossyChars rest
    else
      let count := followersIn first rest
      let char :=
        if count ≠ 0 ∧ count = followers first then charOfBytes first (rest.take count)
        else '\ufffd'
      char :: lossyChars (rest.drop count)
termination_by bytes => bytes.length
decreasing_by
  all_goals
    simp only [List.length_cons, List.length_drop]
    omega

/-- The text of bytes, with U+FFFD in the place of what is no character. -/
def lossyText (bytes : ByteArray) : String :=
  String.ofList (lossyChars bytes.toList)

end SqlGateway.Text
