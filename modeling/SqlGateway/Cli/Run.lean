import SqlGateway.Cli.Explain
import SqlGateway.Cli.Options
import SqlGateway.Http.Exchange

/-!
# Carrying out command lines

What a command line prints and how it ends.  The surroundings are given as functions: the
environment, the files, and the transport to a host.
-/

namespace SqlGateway.Cli

/-- What a command line printed, by lines, and how it ended. -/
structure Report where
  exitCode : Nat
  output : List String
  errors : List String
  deriving DecidableEq, Repr

/-- A command line that was carried out. -/
def Report.success (output : List String) : Report :=
  { exitCode := 0, output, errors := [] }

/-- A command line that failed after printing something. -/
def Report.failure (output : List String) (text : String) : Report :=
  { exitCode := 1, output, errors := ["Error: " ++ text] }

/-- What surrounds a command line. -/
structure Surroundings (m : Type → Type) where
  /-- The value of a variable of the environment. -/
  lookup? : String → Option String
  /-- The text of a file, if there is one of that name. -/
  fileText? : String → m (Option String)
  /-- Brings a draft to a service and waits for the response. -/
  transport : Http.Transport m

variable {m : Type → Type} [Monad m]

/-! ### Configuration -/

/-- The file of settings in the working directory. -/
def localSettings : String := "sqlrest.toml"

/-- The user's file of settings. -/
def userSettings (surroundings : Surroundings m) : Option String :=
  let ownDirectory := (surroundings.lookup? "XDG_CONFIG_HOME").filter (·.startsWith "/")
  let directory := ownDirectory.or ((surroundings.lookup? "HOME").map (· ++ "/.config"))
  directory.map (· ++ "/sqlrest/config.toml")

/-- The configuration in a text. -/
def configOfText (text : String) : Except Error Config :=
  match Config.ofText? text with
  | some config => .ok config
  | none => .error (.config .unreadable)

/-- The configuration in the file that is named, or else in the first that there is of the local and
the user's file. -/
def fileConfig (surroundings : Surroundings m) : Option String → m (Except Error Config)
  | some path => do
    match ← surroundings.fileText? path with
    | some text => return configOfText text
    | none => return .error .io
  | none => do
    match ← surroundings.fileText? localSettings with
    | some text => return configOfText text
    | none =>
      match userSettings surroundings with
      | none => return .ok .unset
      | some path =>
        match ← surroundings.fileText? path with
        | some text => return configOfText text
        | none => return .ok .unset

/-- The configuration for a command line: that of the file, with what the environment says, with
what the options say. -/
def loadConfig (surroundings : Surroundings m) (options : Options) : m (Except Error Config) := do
  match ← fileConfig surroundings options.config with
  | .error error => return .error error
  | .ok config =>
    return .ok ((config.overriddenByEnvironment surroundings.lookup?).overriddenBy options.url
      options.apiKey options.schema)

/-! ### Commands -/

/-- Explains a statement.  One that cannot be planned is reported, but is no failure. -/
def explain (config : Config) (sql : String) : Report :=
  let heading := ["sqlrest Statement Explanation", "", "Query: " ++ sql, ""]
  match Plan.ofSql config.allowedTables sql with
  | .ok plan => .success (heading ++ planLines plan)
  | .error error =>
    { exitCode := 0, output := heading, errors := ["Translation Error: " ++ error.message] }

/-- Shows the request of a statement without sending it; `hint` tells why it is not sent. -/
def showRequest (config : Config) (options : Options) (before : List String) (sql : String) :
    Report :=
  match Plan.ofSql config.allowedTables sql with
  | .error error => .failure before error.message
  | .ok plan =>
    let route := if options.verbose then ["Route: " ++ plan.route.name] else []
    let hint :=
      if options.dryRun then []
      else
        ["", "⚠ No API URL. Use --url, set SQLREST_URL or add [rest] url to sqlrest.toml"]
    .success (before ++ ["Table API call:", plan.request.chainText] ++ route ++ hint)

/-- The lines that show rows. -/
def rowLines (format : Format) (rows : List Row) : List String :=
  if rows.isEmpty then ["(no results)"]
  else
    match format with
    | .table => tableLines rows
    | .json => [Json.writeIndented (.array (rows.map .object))]

/-- Shows an outcome. -/
def showOutcome (options : Options) (before : List String) (outcome : Outcome) : Report :=
  match outcome.failure, outcome.rows with
  | some failure, _ => .failure before failure.text
  | none, some rows => .success (before ++ rowLines (options.format.getD .table) rows)
  | none, none => .success (before ++ ["✓ done"])

/-- Executes a statement against the service. -/
def executeAt (surroundings : Surroundings m) (config : Config) (options : Options)
    (before : List String) (sql : String) : m Report := do
  match Http.Service.ofEndpoint config.endpoint with
  | .error error => return .failure before error.message
  | .ok service =>
    let place := if options.verbose then ["Endpoint: " ++ service.baseUrl] else []
    let outcome ← answerSql config.allowedTables (service.send surroundings.transport) sql
    return showOutcome options (before ++ place) outcome

/-- Executes a statement, or shows its request if that is asked for or no service is known. -/
def execute (surroundings : Surroundings m) (options : Options) (sql : String) : m Report := do
  let input := if options.verbose then ["Input: " ++ sql] else []
  match ← loadConfig surroundings options with
  | .error error => return .failure input error.message
  | .ok config =>
    if options.dryRun || config.endpoint.url.isNone then
      return showRequest config options input sql
    else executeAt surroundings config options input sql

/-! ### Command lines -/

/-- What is printed without a statement and a command. -/
def usageLines : List String :=
  ["sqlrest: SQL for PostgREST table APIs", "", "Usage: sqlrest <SQL> [OPTIONS]", "",
    "Try: sqlrest --help"]

/-- What is printed when help is asked for. -/
def helpLines : List String :=
  ["Run MySQL-dialect SQL against a PostgREST table API", "",
    "Usage: sqlrest [OPTIONS] [QUERY] [COMMAND]", "",
    "Commands:",
    "  explain    Parse and explain a SQL statement",
    "  operators  Show the operator reference", "",
    "Options:",
    "  -d, --dry-run          Don't execute, just show the table-API call",
    "  -f, --format <FORMAT>  Output format [possible values: table, json]",
    "      --url <URL>        PostgREST base URL",
    "      --api-key <KEY>    API key sent as `apikey` and bearer token",
    "      --schema <SCHEMA>  Schema to target (Accept-Profile / Content-Profile)",
    "  -c, --config <CONFIG>  Config file (defaults to ./sqlrest.toml)",
    "  -v, --verbose          Verbose output",
    "  -h, --help             Print help",
    "  -V, --version          Print version"]

/-- What is printed when the version is asked for. -/
def versionLine : String := "sqlrest 0.3.0"

/-- Carries out what the options ask for. -/
def runOptions (surroundings : Surroundings m) (options : Options) : m Report := do
  match options.command, options.sql with
  | some (.explain sql), _ =>
    match ← loadConfig surroundings options with
    | .error error => return .failure [] error.message
    | .ok config => return explain config sql
  | some .operators, _ => return .success operatorLines
  | none, some sql => execute surroundings options sql
  | none, none => return .success usageLines

/-- Carries out a command line. -/
def run (surroundings : Surroundings m) (arguments : List String) : m Report := do
  match Options.ofArguments arguments with
  | .error .misuse => return { exitCode := 2, output := [], errors := usageLines }
  | .error .help => return .success helpLines
  | .error .version => return .success [versionLine]
  | .ok options => runOptions surroundings options

end SqlGateway.Cli
