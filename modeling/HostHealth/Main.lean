import HostHealth.CommandLine.Run
import HostHealth.Offline

/- The program: it looks around, runs its arguments, and prints what comes out. -/
namespace HostHealth.CommandLine

def readFile (path : String) : IO (Except String String) := do
  try
    return .ok (← IO.FS.readFile path)
  catch
    | .noFileOrDirectory .. => return .error "No such file or directory (os error 2)"
    | e => return .error (toString e)

/-- Colors can be forced or forbidden; else they are for terminals. -/
def wantsColors : IO Bool := do
  let forced ← IO.getEnv "CLICOLOR_FORCE"
  if forced.any (· ≠ "0") then return true
  else if (← IO.getEnv "NO_COLOR").isSome then return false
  else (← IO.getStdout).isTty

def lookAround (args : List String) : IO Surroundings := do
  let file ← match Invocation.read args with
    | .ok { options := { configFile := some path, .. }, .. } => readFile path
    | _ => pure (.error "")
  return {
    colored := ← wantsColors
    file := fun _ => file
    world := fun config =>
      Offline.world config.resolver.timeout config.explorer.address config.policy }

end HostHealth.CommandLine

open HostHealth CommandLine in
def main (args : List String) : IO UInt32 := do
  match (run (← lookAround args) args 0).ending with
  | .returned _ outcome =>
    (← IO.getStdout).putStr outcome.output
    (← IO.getStderr).putStr outcome.errors
    return outcome.code.toUInt32
  | .crashed _ reason =>
    (← IO.getStderr).putStrLn reason
    return 101
  | .pending => return 1
