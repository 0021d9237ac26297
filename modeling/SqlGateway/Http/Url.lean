import SqlGateway.Http.Host

/-!
# Addresses

The address of a table is that of the service with the name of the table behind it.  Only absolute
addresses of the web count.  Of an address are kept the path and the query, encoded, and the user if
one is named: these are sent to the host.
-/

namespace SqlGateway.Http

/-- What of an address is sent to the host. -/
structure Url where
  /-- The name and the password of a user, with a colon between them. -/
  credentials : Option String
  path : List Char
  query : List Char
  deriving DecidableEq

/-! ### Characters -/

/-- Whether a character stays as it is in a path. -/
def isPathChar (c : Char) : Bool :=
  32 < c.toNat && c.toNat < 127 && !"\"<>\x60#?\x7b\x7d".toList.contains c

/-- Whether a character stays as it is in a query. -/
def isQueryChar (c : Char) : Bool :=
  32 < c.toNat && c.toNat < 127 && !"\"<>#'".toList.contains c

/-- Whether a character divides the path; a backslash does as well. -/
def isSlash (c : Char) : Bool :=
  c == '/' || c == '\\'

/-- Whether a character ends the part of an address with the host. -/
def endsHost (c : Char) : Bool :=
  isSlash c || c == '?' || c == '#'

/-! ### Parts -/

/-- An address without the blanks and control characters at its ends and the line breaks and tabs
inside it, which do not count. -/
def cleaned (text : List Char) : List Char :=
  let isEdge (c : Char) : Bool := c.toNat ≤ 32
  let start := text.dropWhile isEdge
  let inner := (start.reverse.dropWhile isEdge).reverse
  inner.filter fun c => !(c == '\t' || c == '\n' || c == '\r')

/-- What stands behind the scheme of a web address and its slashes. -/
def afterScheme? (text : List Char) : Option (List Char) :=
  match Text.splitOnce? ':' text with
  | none => none
  | some (scheme, rest) =>
    let name := String.ofList (scheme.map Char.toLower)
    if name = "http" || name = "https" then some (rest.dropWhile isSlash) else none

/-- Whether a port is none or a number that a port can have. -/
def isPort (text : List Char) : Bool :=
  text.all Char.isDigit && text.foldl (fun n c => 10 * n + (c.toNat - '0'.toNat)) 0 < 65536

/-- Whether a text is nothing, or a colon and a port. -/
def isPortPart : List Char → Bool
  | [] => true
  | ':' :: port => isPort port
  | _ => false

/-- A text at its last at sign: what stands before it, if there is one, and what stands behind
it. -/
def splitUser (authority : List Char) : Option (List Char) × List Char :=
  match Text.splitOnce? '@' authority.reverse with
  | some (host, user) => (some user.reverse, host.reverse)
  | none => (none, authority)

/-- The name and the password of a user, unless both are missing. -/
def credentialsOf (user : List Char) : Option String := do
  let (name, password) := (Text.splitOnce? ':' user).getD (user, [])
  let name ← percentDecoded? name
  let password := if password.isEmpty then none else percentDecoded? password
  if name.isEmpty && password.isNone then none else some (name ++ ":" ++ password.getD "")

/-- The host and what follows it.  The colons of a host in brackets belong to it. -/
def splitHost (text : List Char) : List Char × List Char :=
  match text with
  | '[' :: rest =>
    match Text.splitOnce? ']' rest with
    | some (groups, port) => ('[' :: groups ++ [']'], port)
    | none => (text, [])
  | _ => text.span (· != ':')

/-- The steps of a path. -/
def pathSteps (path : List Char) : List (List Char) :=
  Text.splitAt '/' (path.map fun c => if c = '\\' then '/' else c)

/-- A step with its encoded points written out, by which single and double points are told. -/
def pointsOf : List Char → List Char
  | '%' :: '2' :: 'e' :: rest => '.' :: pointsOf rest
  | '%' :: '2' :: 'E' :: rest => '.' :: pointsOf rest
  | c :: rest => c :: pointsOf rest
  | [] => []

/-- The steps left, last one first, after a step: two points go back, and one point stays.  A step
of points at the end leaves an empty step. -/
def addStep (isLast : Bool) (steps : List (List Char)) (step : List Char) : List (List Char) :=
  let ending := if isLast then [[]] else []
  if pointsOf step = "..".toList then ending ++ steps.drop 1
  else if pointsOf step = ".".toList then ending ++ steps
  else percentEncode isPathChar step :: steps

/-- The steps of a path after the steps before it, which stand last one first. -/
def resolved (before : List (List Char)) : List (List Char) → List (List Char)
  | [] => before.reverse
  | [step] => (addStep true before step).reverse
  | step :: rest => resolved (addStep false before step) rest

/-- The path of an address, which begins with a slash. -/
def pathOf (text : List Char) : List Char :=
  let steps := match pathSteps text with
    | [] :: rest => rest
    | rest => rest
  '/' :: ['/'].intercalate (resolved [] steps)

/-- Reads an absolute web address. -/
def Url.ofChars? (text : List Char) : Option Url := do
  let behind ← afterScheme? (cleaned text)
  let authority := behind.takeWhile fun c => !endsHost c
  let rest := behind.dropWhile fun c => !endsHost c
  let (user, place) := splitUser authority
  let (host, port) := splitHost place
  if isHost host && isPortPart port then
    let withoutFragment := rest.takeWhile (· != '#')
    let (path, query) := (Text.splitOnce? '?' withoutFragment).getD (withoutFragment, [])
    some {
      credentials := user.bind credentialsOf
      path := pathOf path
      query := percentEncode isQueryChar query }
  else none

/-- The path and, if it is not empty, the query behind a question mark. -/
def Url.target (url : Url) : String :=
  String.ofList (url.path ++ if url.query.isEmpty then [] else '?' :: url.query)

end SqlGateway.Http
