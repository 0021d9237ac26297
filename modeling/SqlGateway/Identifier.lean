import SqlGateway.Error

/-!
# Plain identifiers

Names of tables, columns and labels travel inside a request line, so only plain identifiers are let
through: an ASCII letter or an underscore, followed by ASCII letters, digits and underscores.
-/

namespace SqlGateway

/-- Whether a character may begin an identifier. -/
def isIdentifierStart (c : Char) : Bool :=
  c.isAlpha || c == '_'

/-- Whether a character may stand in an identifier. -/
def isIdentifierPart (c : Char) : Bool :=
  c.isAlphanum || c == '_'

/-- Whether the characters of a name form a plain identifier. -/
def isIdentifierChars : List Char → Bool
  | [] => false
  | c :: rest => isIdentifierStart c && rest.all isIdentifierPart

/-- Whether a name is a plain identifier. -/
def isIdentifier (name : String) : Bool :=
  isIdentifierChars name.toList

/-- Refuses a name that is not a plain identifier. -/
def checkIdentifier (name : String) : Except Error Unit :=
  if isIdentifier name then .ok () else .error (.identifier name)

end SqlGateway
