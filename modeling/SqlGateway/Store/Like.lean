import SqlGateway.Text.Fold

/-!
# Patterns

In a pattern `%` and `*` stand for any run of characters, `_` for any one character, and every other
character for itself.  A pattern has to fit the whole text.

A pattern is matched by way of a regular expression.  Its text is written first, with every stretch
of characters that stand for themselves escaped; this text is then read and matched.  Of the
language of regular expressions only that part is read here which is needed: characters, the point,
the point with a star, and the two anchors.
-/

namespace SqlGateway.Store

/-! ### Writing an expression -/

/-- The characters that an expression needs a backslash before. -/
def specialChars : List Char :=
  "\\.+*?()|[]\x7b\x7d^$#&-~".toList

/-- The text of an expression that stands for a text. -/
def escaped (text : List Char) : List Char :=
  text.flatMap fun c => if specialChars.contains c then ['\\', c] else [c]

/-- What stands in an expression for a character of a pattern that does not stand for itself. -/
def wildcard? (c : Char) : Option (List Char) :=
  if c = '%' || c = '*' then some ['.', '*'] else if c = '_' then some ['.'] else none

/-- The expression for the rest of a pattern.  `stretch` holds the characters since the last one
that did not stand for itself. -/
def expressionFrom (stretch : List Char) : List Char → List Char
  | [] => escaped stretch ++ ['$']
  | c :: pattern =>
    match wildcard? c with
    | some wild => escaped stretch ++ (wild ++ expressionFrom [] pattern)
    | none => expressionFrom (stretch ++ [c]) pattern

/-- The expression for a pattern. -/
def expression (pattern : List Char) : List Char :=
  '^' :: expressionFrom [] pattern

/-! ### Reading and matching an expression -/

/-- A piece of an expression. -/
inductive Piece where
  /-- The start of the text. -/
  | start
  /-- The end of the text. -/
  | stop
  /-- Any run of characters, also an empty one and one over several lines. -/
  | run
  /-- Any one character. -/
  | one
  /-- A character that stands for itself. -/
  | exact (c : Char)
  deriving DecidableEq, Repr

/-- The characters that are read as something else than themselves. -/
def syntaxChars : List Char :=
  "\\.+*?()|[\x7b^$".toList

/-- The pieces of an expression, if it has no others. -/
def readPieces? : List Char → Option (List Piece)
  | [] => some []
  | '^' :: rest => (readPieces? rest).map (.start :: ·)
  | '$' :: rest => (readPieces? rest).map (.stop :: ·)
  | '.' :: '*' :: rest => (readPieces? rest).map (.run :: ·)
  | '.' :: rest => (readPieces? rest).map (.one :: ·)
  | '\\' :: c :: rest =>
    if specialChars.contains c then (readPieces? rest).map (.exact c :: ·) else none
  | c :: rest => if syntaxChars.contains c then none else (readPieces? rest).map (.exact c :: ·)

/-- Whether a test holds of a text or of what is left of it after some characters.  The test is also
told whether it looks at the start. -/
def holdsBehind (test : Bool → List Char → Bool) (atStart : Bool) : List Char → Bool
  | [] => test atStart []
  | c :: text => test atStart (c :: text) || holdsBehind test false text

/-- Whether pieces match the front of a text, where `same` tells which characters are taken for
equal, and `atStart` says that nothing stands before the text. -/
def matchesFront (same : Char → Char → Bool) : List Piece → Bool → List Char → Bool
  | [], _, _ => true
  | .start :: pieces, atStart, text => atStart && matchesFront same pieces atStart text
  | .stop :: pieces, atStart, text => text.isEmpty && matchesFront same pieces atStart text
  | .run :: pieces, atStart, text => holdsBehind (matchesFront same pieces) atStart text
  | .one :: pieces, _, _ :: text => matchesFront same pieces false text
  | .one :: _, _, [] => false
  | .exact c :: pieces, _, d :: text => same c d && matchesFront same pieces false text
  | .exact _ :: _, _, [] => false

/-- Whether pieces match a text somewhere. -/
def matchesSomewhere (same : Char → Char → Bool) (pieces : List Piece) (text : List Char) : Bool :=
  holdsBehind (matchesFront same pieces) true text

/-! ### Patterns -/

/-- Whether a text matches a pattern, with or without regard to case. -/
def isLike (caseless : Bool) (text pattern : List Char) : Bool :=
  let same (c d : Char) : Bool := if caseless then Text.sameFold c d else c == d
  match readPieces? (expression pattern) with
  | some pieces => matchesSomewhere same pieces text
  | none => false

end SqlGateway.Store
