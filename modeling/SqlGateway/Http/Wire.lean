import SqlGateway.Http.Exchange
import SqlGateway.Http.Form
import SqlGateway.Http.Url

/-!
# Messages on the wire

A transport that reads the address of a draft, encodes its parts and sends them as a message to the
host.  A draft without a web address, or with a header that cannot be sent, goes nowhere.
-/

namespace SqlGateway.Http

/-- What is sent: the path with the query, the headers in the order of their names, and a body that
may be empty. -/
structure Message where
  method : Method
  target : String
  headers : List (String × String)
  body : String
  deriving DecidableEq, Repr

/-- Whether a character may stand in the value of a header. -/
def isHeaderChar (c : Char) : Bool :=
  !isControl c || c == '\t'

/-- The value of a header as it arrives, without the blanks at its ends. -/
def headerText (value : String) : String :=
  let isEdge (c : Char) : Bool := c == ' ' || c == '\t'
  String.ofList (((value.toList.dropWhile isEdge).reverse.dropWhile isEdge).reverse)

/-- A digit to the base 64. -/
def base64Digit (n : Nat) : Char :=
  if n < 26 then Char.ofNat ('A'.toNat + n)
  else if n < 52 then Char.ofNat ('a'.toNat + (n - 26))
  else if n < 62 then Char.ofNat ('0'.toNat + (n - 52))
  else if n = 62 then '+' else '/'

/-- Bytes in digits to the base 64, three by three, filled up with equality signs. -/
def base64 : List UInt8 → List Char
  | a :: b :: c :: rest =>
    let n := (a.toNat * 256 + b.toNat) * 256 + c.toNat
    base64Digit (n / 262144) :: base64Digit (n / 4096 % 64) :: base64Digit (n / 64 % 64) ::
      base64Digit (n % 64) :: base64 rest
  | [a, b] =>
    let n := (a.toNat * 256 + b.toNat) * 4
    [base64Digit (n / 4096), base64Digit (n / 64 % 64), base64Digit (n % 64), '=']
  | [a] =>
    let n := a.toNat * 16
    [base64Digit (n / 64), base64Digit (n % 64), '=', '=']
  | [] => []

namespace Draft

/-- The headers of a draft as they arrive, in the order of their names, with the user that the
address names and the type of the content. -/
def sentHeaders (draft : Draft) (url : Url) : List (String × String) :=
  let user := url.credentials.toList.map fun credentials =>
    ("Authorization", "Basic " ++ String.ofList (base64 credentials.toUTF8.toList))
  let type := draft.content.toList.map fun _ => ("Content-Type", "application/json")
  let sent := (user ++ type ++ draft.headers).map fun header =>
    (header.1.toLower, headerText header.2)
  sent.mergeSort fun a b => compare a.1 b.1 != .gt

/-- The message of a draft. -/
def message? (draft : Draft) : Option Message := do
  let url ← Url.ofChars? draft.address.toList
  if draft.headers.all fun header => header.2.toList.all isHeaderChar then
    return {
      method := draft.method
      target := Url.target { url with query := formQuery url.query draft.params }
      headers := draft.sentHeaders url
      body := (draft.content.map Json.write).getD "" }
  else none

end Draft

/-- A response without its body if its status says that there is none. -/
def Response.received (response : Response) : Response :=
  if response.status = 204 || response.status = 304 then { response with body := .empty }
  else response

/-- The transport that sends messages over a wire, on which a message may be lost. -/
def overWire {m : Type → Type} [Monad m] (wire : Message → m (Option Response)) : Transport m :=
  fun draft =>
    match draft.message? with
    | none => pure (.error "builder error")
    | some message => do
      match ← wire message with
      | some response => return .ok response.received
      | none => return .error "error sending request"

end SqlGateway.Http
