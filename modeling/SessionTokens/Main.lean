import SessionTokens.Server

/-!
# Command line

Starts a server with the settings in the environment, and stops it when its input ends.
-/

namespace SessionTokens

/-- The variables that the settings are read from. -/
def Settings.variables : List String :=
  [portVariable, databaseVariable, keyVariable, accessVariable, refreshVariable,
    storeTimeoutVariable]

/-- Shows the settings, and waits for the end of the input. -/
def Server.run (s : Server) : IO Unit := do
  IO.println s.settings.redacted
  let input ← IO.getStdin
  let _ ← input.readToEnd

end SessionTokens

open SessionTokens in
/-- Starts and stops the server; the exit code tells whether it could be started. -/
def main : IO UInt32 := do
  let values ← Settings.variables.mapM fun name => do return (name, ← IO.getEnv name)
  match Server.start fun name => (values.lookup name).join with
  | .error fault =>
    IO.eprintln fault.message
    return 1
  | .ok server =>
    server.run
    return 0
