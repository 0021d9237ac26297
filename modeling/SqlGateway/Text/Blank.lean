/-!
# Blank characters

What counts as white space in a statement: the characters with the property `White_Space`.  Texts
are read as lists of characters, so trimming is stated on lists.
-/

namespace SqlGateway.Text

/-- White space: the six ASCII blanks, and the separators of other scripts. -/
def isBlank (c : Char) : Bool :=
  c == ' ' || ('\t' ≤ c && c ≤ '\r') || c == '\u0085' || c == '\u00a0' || c == '\u1680' ||
    ('\u2000' ≤ c && c ≤ '\u200a') || c == '\u2028' || c == '\u2029' || c == '\u202f' ||
    c == '\u205f' || c == '\u3000'

/-- A text without its leading blanks. -/
def trimStart (text : List Char) : List Char :=
  text.dropWhile isBlank

/-- A text without its trailing blanks. -/
def trimEnd (text : List Char) : List Char :=
  (trimStart text.reverse).reverse

/-- A text without its leading and its trailing blanks. -/
def trim (text : List Char) : List Char :=
  trimEnd (trimStart text)

/-- The first of the parts of a text with blanks between them; empty if there is none. -/
def firstPart (text : List Char) : List Char :=
  (trimStart text).takeWhile fun c => !isBlank c

end SqlGateway.Text
