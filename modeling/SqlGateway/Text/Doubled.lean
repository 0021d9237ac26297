/-!
# Quotes written twice

Between quotes, the quote character itself is written twice.  `doubled` writes such a text,
`undoubled` joins the pairs again wherever they stand, and `readQuoted?` reads a text up to the
first quote that is not part of a pair.
-/

namespace SqlGateway.Text

/-- A text with every `quote` written twice. -/
def doubled (quote : Char) (text : List Char) : List Char :=
  text.flatMap fun c => if c = quote then [quote, quote] else [c]

/-- A text with every pair of adjacent `quote`s, from the left, joined into one. -/
def undoubled (quote : Char) : List Char → List Char
  | [] => []
  | [c] => [c]
  | c :: d :: rest =>
    if c = quote && d = quote then quote :: undoubled quote rest
    else c :: undoubled quote (d :: rest)

/-- The contents of a text whose opening `quote` has been read, and what follows the closing one. -/
def readQuoted? (quote : Char) : List Char → Option (List Char × List Char)
  | [] => none
  | [c] => if c = quote then some ([], []) else none
  | c :: d :: rest =>
    if c ≠ quote then
      (readQuoted? quote (d :: rest)).map fun (text, behind) => (c :: text, behind)
    else if d = quote then
      (readQuoted? quote rest).map fun (text, behind) => (quote :: text, behind)
    else some ([], d :: rest)

/-- Whether a character opens a quoted text in the short statement shapes. -/
def isQuote (c : Char) : Bool :=
  c == '\'' || c == '"'

/-- A text without one pair of equal quotes around it, the quotes inside joined; none if it has no
such pair. -/
def unquoted? : List Char → Option (List Char)
  | [] => none
  | quote :: rest =>
    if isQuote quote && rest.getLast? == some quote then some (undoubled quote rest.dropLast)
    else none

end SqlGateway.Text
