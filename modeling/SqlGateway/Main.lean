import SqlGateway.Cli.Run
import SqlGateway.Http.Wire

/-!
# The command

Runs a command line in the process's own surroundings.  There is no wire to a host here, so a
statement can be planned, shown and explained, and an exchange ends as with a host out of reach.
-/

namespace SqlGateway

/-- The text of a file, if it can be read. -/
def fileText? (path : String) : IO (Option String) := do
  try
    return some (← IO.FS.readFile path)
  catch _ => return none

/-- The process's own surroundings; the variables are those that the command asks for. -/
def surroundings : IO (Cli.Surroundings IO) := do
  let names := ["HOME", "XDG_CONFIG_HOME", "SQLREST_URL", "SQLREST_API_KEY", "SQLREST_SCHEMA"]
  let values ← names.mapM fun name => do return (name, ← IO.getEnv name)
  return {
    lookup? := fun name => (values.lookup name).join
    fileText?
    transport := Http.overWire fun _ => return none }

end SqlGateway

/-- Carries out the command line of the process. -/
def main (arguments : List String) : IO UInt32 := do
  let report ← SqlGateway.Cli.run (← SqlGateway.surroundings) arguments
  report.output.forM IO.println
  report.errors.forM IO.eprintln
  return report.exitCode.toUInt32
