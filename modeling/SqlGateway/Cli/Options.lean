import SqlGateway.Text.Split

/-!
# Command lines

A command line holds a statement, options in any order, and perhaps a command of its own.  An option
can be given once.  The value of an option stands behind it or is joined to it, and short options
without values can be written together.
-/

namespace SqlGateway.Cli

/-- How rows are shown. -/
inductive Format where
  | table
  | json
  deriving DecidableEq, Repr

/-- A command besides executing a statement. -/
inductive Command where
  | explain (sql : String)
  | operators
  deriving DecidableEq, Repr

/-- What a command line asks for. -/
structure Options where
  sql : Option String
  dryRun : Bool
  format : Option Format
  url : Option String
  apiKey : Option String
  schema : Option String
  config : Option String
  verbose : Bool
  command : Option Command
  deriving DecidableEq, Repr

/-- The command line without arguments. -/
def Options.none : Options :=
  { sql := .none, dryRun := false, format := .none, url := .none, apiKey := .none, schema := .none,
    config := .none, verbose := false, command := .none }

/-- Why a command line is not carried out. -/
inductive Stop where
  /-- It is not understood. -/
  | misuse
  /-- It asks for help. -/
  | help
  /-- It asks for the version. -/
  | version
  deriving DecidableEq, Repr

/-- An option, by its meaning. -/
inductive Flag where
  | dryRun
  | verbose
  | help
  | version
  deriving DecidableEq, Repr

/-- An option with a value, by its meaning. -/
inductive Setting where
  | format
  | url
  | apiKey
  | schema
  | config
  deriving DecidableEq, Repr

/-! ### Names -/

/-- The option without a value that a long name means. -/
def Flag.ofName? : String → Option Flag
  | "dry-run" => some .dryRun
  | "verbose" => some .verbose
  | "help" => some .help
  | "version" => some .version
  | _ => none

/-- The option without a value that a letter means. -/
def Flag.ofLetter? : Char → Option Flag
  | 'd' => some .dryRun
  | 'v' => some .verbose
  | 'h' => some .help
  | 'V' => some .version
  | _ => none

/-- The option with a value that a long name means. -/
def Setting.ofName? : String → Option Setting
  | "format" => some .format
  | "url" => some .url
  | "api-key" => some .apiKey
  | "schema" => some .schema
  | "config" => some .config
  | _ => none

/-- The option with a value that a letter means. -/
def Setting.ofLetter? : Char → Option Setting
  | 'f' => some .format
  | 'c' => some .config
  | _ => none

/-! ### Effects -/

/-- Turns an option on, which may be done once. -/
def Options.turnOn (options : Options) : Flag → Except Stop Options
  | .dryRun => if options.dryRun then .error .misuse else .ok { options with dryRun := true }
  | .verbose => if options.verbose then .error .misuse else .ok { options with verbose := true }
  | .help => .error .help
  | .version => .error .version

/-- The format of a name. -/
def Format.ofName? : String → Option Format
  | "table" => some .table
  | "json" => some .json
  | _ => none

/-- Sets a value that is not set yet. -/
def once {α : Type} (old : Option α) (value : α) : Except Stop (Option α) :=
  if old.isSome then .error .misuse else .ok (some value)

/-- Gives an option its value, which may be done once. -/
def Options.assign (options : Options) (setting : Setting) (value : String) :
    Except Stop Options :=
  match setting with
  | .format =>
    match Format.ofName? value with
    | .none => .error .misuse
    | some format => do return { options with format := ← once options.format format }
  | .url => do return { options with url := ← once options.url value }
  | .apiKey => do return { options with apiKey := ← once options.apiKey value }
  | .schema => do return { options with schema := ← once options.schema value }
  | .config => do return { options with config := ← once options.config value }

/-- Takes the statement, of which there is one. -/
def Options.takeSql (options : Options) (sql : String) : Except Stop Options := do
  return { options with sql := ← once options.sql sql }

/-! ### Commands -/

/-- The statement to explain: one argument, and no options but that for help. -/
def explainArguments (sql : Option String) : List String → Except Stop Command
  | [] =>
    match sql with
    | some text => .ok (.explain text)
    | none => .error .misuse
  | "-h" :: _ => .error .help
  | "--help" :: _ => .error .help
  | "--" :: rest =>
    match sql, rest with
    | none, [text] => .ok (.explain text)
    | some text, [] => .ok (.explain text)
    | _, _ => .error .misuse
  | argument :: rest =>
    if sql.isSome || (argument.startsWith "-" && argument != "-") then .error .misuse
    else explainArguments (some argument) rest

/-- The arguments of the reference: none, but for help. -/
def operatorsArguments : List String → Except Stop Command
  | [] => .ok .operators
  | ["--"] => .ok .operators
  | "-h" :: _ => .error .help
  | "--help" :: _ => .error .help
  | _ => .error .misuse

/-! ### Arguments -/

/-- The value behind an option, which does not look like an option itself. -/
def takeValue : List String → Except Stop (String × List String)
  | value :: rest =>
    if value.startsWith "-" && value != "-" then .error .misuse else .ok (value, rest)
  | [] => .error .misuse

/-- A group of short options, behind the dash; the arguments left are returned as well. -/
def shortOptions (options : Options) (rest : List String) :
    List Char → Except Stop (Options × List String)
  | [] => .ok (options, rest)
  | letter :: letters =>
    match Flag.ofLetter? letter, Setting.ofLetter? letter with
    | some flag, _ => do shortOptions (← options.turnOn flag) rest letters
    | none, some setting =>
      match letters with
      | [] => do
        let (value, behind) ← takeValue rest
        return (← options.assign setting value, behind)
      | '=' :: value => do return (← options.assign setting (String.ofList value), rest)
      | value => do return (← options.assign setting (String.ofList value), rest)
    | none, none => .error .misuse

/-- A long option, behind the dashes; the arguments left are returned as well. -/
def longOption (options : Options) (rest : List String) (text : List Char) :
    Except Stop (Options × List String) :=
  match Text.splitOnce? '=' text with
  | some (name, value) =>
    match Setting.ofName? (String.ofList name) with
    | some setting => do return (← options.assign setting (String.ofList value), rest)
    | none => .error .misuse
  | none =>
    let name := String.ofList text
    match Flag.ofName? name, Setting.ofName? name with
    | some flag, _ => do return (← options.turnOn flag, rest)
    | none, some setting => do
      let (value, behind) ← takeValue rest
      return (← options.assign setting value, behind)
    | none, none => .error .misuse

/-- Takes the arguments one after the other, at most `rounds` of them. -/
def takeArguments : Nat → Options → List String → Except Stop Options
  | _, options, [] => .ok options
  | 0, _, _ => .error .misuse
  | rounds + 1, options, argument :: rest =>
    match argument, argument.toList with
    | "--", _ => rest.foldlM Options.takeSql options
    | "explain", _ => do return { options with command := some (← explainArguments .none rest) }
    | "operators", _ => do return { options with command := some (← operatorsArguments rest) }
    | "help", _ => .error .help
    | _, '-' :: '-' :: text => do
      let (options, behind) ← longOption options rest text
      takeArguments rounds options behind
    | _, '-' :: letter :: letters => do
      let (options, behind) ← shortOptions options rest (letter :: letters)
      takeArguments rounds options behind
    | _, _ => do takeArguments rounds (← options.takeSql argument) rest

/-- What a list of arguments asks for. -/
def Options.ofArguments (arguments : List String) : Except Stop Options :=
  takeArguments arguments.length .none arguments

end SqlGateway.Cli
