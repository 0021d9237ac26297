/-!
# Capital letters

Keywords are compared in capitals.  A few letters outside ASCII have ASCII capitals: the long s,
the dotless i, the sharp s and the ligatures.  Every other character outside ASCII has none and is
left as it is, since no keyword holds one.
-/

namespace SqlGateway.Text

/-- The ASCII capitals of a character, or the character itself. -/
def upperChars (c : Char) : List Char :=
  if c.val < 128 then [c.toUpper]
  else
    match c with
    | '\u00df' => ['S', 'S']
    | '\u0131' => ['I']
    | '\u017f' => ['S']
    | '\ufb00' => ['F', 'F']
    | '\ufb01' => ['F', 'I']
    | '\ufb02' => ['F', 'L']
    | '\ufb03' => ['F', 'F', 'I']
    | '\ufb04' => ['F', 'F', 'L']
    | '\ufb05' => ['S', 'T']
    | '\ufb06' => ['S', 'T']
    | _ => [c]

/-- A text in capitals. -/
def upper (text : List Char) : List Char :=
  text.flatMap upperChars

end SqlGateway.Text
