import SqlGateway.Text.Blank

/-!
# The normal form of a statement

Before a statement is matched, every run of blanks outside quotes becomes one space, the text is
trimmed, and one final semicolon is dropped.  A quote is closed by the character that opened it;
what stands between them is left alone.
-/

namespace SqlGateway.Shape

/-- Whether a character opens a stretch that is left alone. -/
def opensQuote (c : Char) : Bool :=
  c == '\'' || c == '"' || c == '\x60'

/-- Joins the blanks outside quotes.  `quote` is the quote that is open, and `pending` says that
blanks have been passed since the last character. -/
def squeeze (quote : Option Char) (pending : Bool) : List Char → List Char
  | [] => []
  | c :: rest =>
    match quote with
    | some q => c :: squeeze (if c = q then none else some q) pending rest
    | none =>
      if Text.isBlank c then squeeze none true rest
      else
        let tail := c :: squeeze (if opensQuote c then some c else none) false rest
        if pending then ' ' :: tail else tail

/-- A text without one semicolon at its end, and without the blanks before that semicolon. -/
def dropSemicolon (text : List Char) : List Char :=
  if text.getLast? = some ';' then Text.trimEnd text.dropLast else text

/-- The normal form of a statement. -/
def normalize (text : List Char) : List Char :=
  dropSemicolon (squeeze none false (Text.trim text))

end SqlGateway.Shape
