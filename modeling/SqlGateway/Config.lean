import SqlGateway.Toml.Reader

/-!
# Configuration

Where the table service is, how to identify oneself to it, and which tables may be used.  It is read
from a file of settings; the environment overrides what the file says about the service.
-/

namespace SqlGateway

/-- How the table service is reached. -/
structure Endpoint where
  url : Option String
  apiKey : Option String
  schema : Option String
  timeoutSeconds : Nat
  deriving DecidableEq, Repr

/-- The seconds after which a request is given up. -/
def Endpoint.defaultTimeout : Nat := 30

/-- An endpoint of which nothing is known. -/
def Endpoint.unset : Endpoint :=
  { url := none, apiKey := none, schema := none, timeoutSeconds := Endpoint.defaultTimeout }

/-- A configuration. -/
structure Config where
  endpoint : Endpoint
  /-- The tables that may be used; none means all. -/
  tables : List String
  deriving DecidableEq, Repr

namespace Config

/-- The configuration in which nothing is set. -/
def unset : Config :=
  { endpoint := .unset, tables := [] }

/-- Sets the address of the service. -/
def withUrl (config : Config) (url : String) : Config :=
  { config with endpoint := { config.endpoint with url := some url } }

/-- Sets the key that is sent to the service. -/
def withApiKey (config : Config) (key : String) : Config :=
  { config with endpoint := { config.endpoint with apiKey := some key } }

/-- Sets the schema in which the tables are. -/
def withSchema (config : Config) (schema : String) : Config :=
  { config with endpoint := { config.endpoint with schema := some schema } }

/-- Sets the seconds after which a request is given up. -/
def withTimeout (config : Config) (seconds : Nat) : Config :=
  { config with endpoint := { config.endpoint with timeoutSeconds := seconds } }

/-- Allows one more table. -/
def allowing (config : Config) (table : String) : Config :=
  { config with tables := config.tables ++ [table] }

/-- The tables that may be used, if they are limited. -/
def allowedTables (config : Config) : Option (List String) :=
  if config.tables.isEmpty then none else some config.tables

/-- Sets what is given of the address, the key and the schema. -/
def overriddenBy (config : Config) (url apiKey schema : Option String) : Config :=
  let endpoint := config.endpoint
  { config with
    endpoint := {
      endpoint with
      url := url.or endpoint.url
      apiKey := apiKey.or endpoint.apiKey
      schema := schema.or endpoint.schema } }

/-- Sets what the environment says, looked up by name. -/
def overriddenByEnvironment (config : Config) (lookup : String → Option String) : Config :=
  config.overriddenBy (lookup "SQLREST_URL") (lookup "SQLREST_API_KEY") (lookup "SQLREST_SCHEMA")

/-! ### Files of settings -/

/-- A setting that is a text. -/
def textOf? : Toml → Option String
  | .string s => some s
  | _ => none

/-- A setting that is a count. -/
def countOf? : Toml → Option Nat
  | .integer n => if 0 ≤ n then some n.toNat else none
  | _ => none

/-- A setting that may be missing. -/
def settingOf? {α : Type} (read? : Toml → Option α) : Option Toml → Option (Option α)
  | none => some none
  | some value => (read? value).map some

/-- The settings of the service, by name or, in an array, in order; the last may then be missing. -/
def endpointOf? : Toml → Option Endpoint
  | .table _ entries => do
    return {
      url := ← settingOf? textOf? (entries.lookup "url")
      apiKey := ← settingOf? textOf? (entries.lookup "api_key")
      schema := ← settingOf? textOf? (entries.lookup "schema")
      timeoutSeconds :=
        (← settingOf? countOf? (entries.lookup "timeout_secs")).getD Endpoint.defaultTimeout }
  | .array (url :: apiKey :: schema :: rest) => do
    return {
      url := some (← textOf? url)
      apiKey := some (← textOf? apiKey)
      schema := some (← textOf? schema)
      timeoutSeconds := (← settingOf? countOf? rest.head?).getD Endpoint.defaultTimeout }
  | _ => none

/-- The tables that may be used. -/
def tablesOf? : Toml → Option (List String)
  | .array items => items.mapM textOf?
  | _ => none

/-- The configuration that settings make; settings of other names do not count. -/
def ofSettings? (entries : List (String × Toml)) : Option Config := do
  return {
    endpoint := (← settingOf? endpointOf? (entries.lookup "rest")).getD .unset
    tables := (← settingOf? tablesOf? (entries.lookup "tables")).getD [] }

/-- Reads a configuration from the text of a file of settings. -/
def ofText? (text : String) : Option Config := do
  ofSettings? (← Toml.read? text)

end Config

end SqlGateway
