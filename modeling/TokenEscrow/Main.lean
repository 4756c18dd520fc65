import TokenEscrow.Program.Run

/-!
# The program

Passes words, variables and files to `Program.runOffline` and prints what comes
back.
-/

namespace TokenEscrow

/-- Reads a file. -/
def readFile (path : String) : IO (Except FileError String) := do
  match ← (IO.FS.readFile path).toBaseIO with
  | .ok text => return .ok text
  | .error (.noFileOrDirectory ..) => return .error .notFound
  | .error (.inappropriateType ..) => return .error .isDirectory
  | .error e => return .error (.other (toString e))

/-- The variables that have a say. -/
def environment : IO Environment := do
  let names := ["HOME", LogConfig.variableName, LogConfig.overridingName]
  let values ← names.mapM fun name => return (name, ← IO.getEnv name)
  return { entries := values.filterMap fun (name, value) => value.map fun v => (name, v) }

end TokenEscrow

open TokenEscrow

def main (words : List String) : IO UInt32 := do
  let outcome ← Program.runOffline readFile (← environment) words
  (← IO.getStdout).putStr outcome.output
  let errors ← IO.getStderr
  for line in outcome.messages do
    errors.putStrLn line
  return outcome.code.toUInt32
