import SqlGateway.Http.Percent

/-!
# Form encoding

Parameters in the query of an address: `name=value` with `&` between them.  A space is written as a
plus sign; letters, digits and `*-._` stay.
-/

namespace SqlGateway.Http

/-- Whether a character stays as it is. -/
def isFormChar (c : Char) : Bool :=
  c.isAlphanum || c == '*' || c == '-' || c == '.' || c == '_'

/-- The form of a character. -/
def formChar (c : Char) : List Char :=
  if isFormChar c then [c] else if c = ' ' then ['+'] else percentChar c

/-- The form of a text. -/
def formText (text : String) : List Char :=
  text.toList.flatMap formChar

/-- The form of a parameter. -/
def formParam (param : String × String) : List Char :=
  formText param.1 ++ '=' :: formText param.2

/-- The forms of parameters, in order, after what the query holds already. -/
def formQuery (before : List Char) (params : List (String × String)) : List Char :=
  params.foldl (fun query param =>
    (if query.isEmpty then [] else query ++ ['&']) ++ formParam param) before

end SqlGateway.Http
