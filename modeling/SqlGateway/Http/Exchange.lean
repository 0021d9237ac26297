import SqlGateway.Config
import SqlGateway.Outcome
import SqlGateway.Plan
import SqlGateway.Request.Params
import SqlGateway.Text.Utf8

/-!
# Asking the table service

How a request is put to the table service over HTTP, and what the answer means.  A query asks for
rows, a change sends rows or cells and says whether it wants rows back.  What is put is a draft: its
address is not yet read and nothing in it is encoded.  That is left to the transport, which brings
back a response or says why there is none.
-/

namespace SqlGateway.Http

/-- The methods in use. -/
inductive Method where
  | get
  | post
  | patch
  | delete
  deriving DecidableEq, Repr

/-- The name of a method. -/
def Method.name : Method → String
  | get => "GET"
  | post => "POST"
  | patch => "PATCH"
  | delete => "DELETE"

/-- What is to be sent: the address of a table, the parameters that go behind it, headers, and a
JSON value as the content. -/
structure Draft where
  method : Method
  address : String
  params : List (String × String)
  headers : List (String × String)
  content : Option Json

/-- What comes back. -/
structure Response where
  status : Nat
  body : ByteArray

/-- What brings a draft to a service: there is a response, or a text that says why there is none. -/
abbrev Transport (m : Type → Type) : Type :=
  Draft → m (Except String Response)

/-- A table service, and how to identify oneself to it. -/
structure Service where
  baseUrl : String
  apiKey : Option String
  schema : Option String
  deriving DecidableEq, Repr

namespace Service

/-- An address without the slashes at its end. -/
def trimmedUrl (url : String) : String :=
  String.ofList (url.toList.reverse.dropWhile (· == '/')).reverse

/-- The service of an endpoint, whose address has to be set. -/
def ofEndpoint (endpoint : Endpoint) : Except Error Service :=
  match endpoint.url with
  | none => .error (.config .urlNotSet)
  | some url =>
    .ok { baseUrl := trimmedUrl url, apiKey := endpoint.apiKey, schema := endpoint.schema }

/-! ### Drafts -/

/-- The method of an operation. -/
def methodOf : Operation → Method
  | .select => .get
  | .insert _ => .post
  | .update _ => .patch
  | .delete => .delete

/-- The content of a draft: the rows or the cells that an operation brings. -/
def contentOf : Operation → Option Json
  | .select => none
  | .insert rows => some (.array (rows.map .object))
  | .update record => some (.object record)
  | .delete => none

/-- The header that names the schema. -/
def schemaHeader : Operation → String
  | .select => "Accept-Profile"
  | .insert _ => "Content-Profile"
  | .update _ => "Content-Profile"
  | .delete => "Accept-Profile"

/-- What a change says about the rows that it wants back. -/
def preference (request : Request) : Option String :=
  match request.operation with
  | .select => none
  | _ => some (if request.returnsRows then "return=representation" else "return=minimal")

/-- The headers of a draft. -/
def headersOf (service : Service) (request : Request) : List (String × String) :=
  let header (name : String) (value : Option String) : List (String × String) :=
    value.toList.map fun text => (name, text)
  header "apikey" service.apiKey ++
    header "Authorization" (service.apiKey.map ("Bearer " ++ ·)) ++
    header (schemaHeader request.operation) service.schema ++
    header "Prefer" (preference request)

/-- The draft that puts a request to the service. -/
def draft (service : Service) (request : Request) : Draft :=
  { method := methodOf request.operation
    address := service.baseUrl ++ "/" ++ request.table
    params := request.params
    headers := service.headersOf request
    content := contentOf request.operation }

/-! ### Responses -/

/-- Whether a status means success. -/
def isSuccess (status : Nat) : Bool :=
  200 ≤ status && status < 300

/-- The rows in a body. -/
def readRows? (body : ByteArray) : Option (List Row) := do
  (← Json.read? (← String.fromUTF8? body)).asList? Json.asRow?

/-- The message in a body that reports a failure: what went wrong, and if given the code, details
and a hint. -/
def readReport? (body : String) : Option String := do
  match ← (← Json.read? body).asRecord? ["message", "code", "details", "hint"] 3 with
  | [message, code, details, hint] =>
    let text ← Json.required? Json.asString? message
    let code ← Json.optional? Json.asString? code
    let details ← Json.optional? Json.asString? details
    let hint ← Json.optional? Json.asString? hint
    return text ++ (match code with
      | none => ""
      | some c => " [" ++ c ++ "]") ++ (match details with
      | none => ""
      | some d => ": " ++ d) ++ (match hint with
      | none => ""
      | some h => " (hint: " ++ h ++ ")")
  | _ => none

/-- The failure that a response reports. -/
def failureOf (response : Response) : Failure :=
  let text := Text.lossyText response.body
  let trimmed := Text.trim text.toList
  let message := match readReport? text with
    | some report => report
    | none =>
      if trimmed.isEmpty then "HTTP " ++ toString response.status else String.ofList trimmed
  { message, status := some response.status }

/-- What a response to a request means. -/
def outcomeOf (request : Request) (response : Response) : Outcome :=
  if !isSuccess response.status then .failed (failureOf response)
  else if !request.returnsRows then .done
  else
    match readRows? response.body with
    | some rows => .found rows
    | none => .ofError (.http .undecodableBody)

/-! ### The exchange -/

/-- Puts a request to the service and reads the answer. -/
def send {m : Type → Type} [Monad m] (service : Service) (transport : Transport m)
    (request : Request) : m Outcome := do
  match ← transport (service.draft request) with
  | .ok response => return outcomeOf request response
  | .error text => return .ofError (.http (.transport text))

end Service

end SqlGateway.Http
