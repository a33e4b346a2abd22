import CloudEmulation.CommandLine.Run
import Std.Time.DateTime.Timestamp
/-!
The program: commands are read from its arguments, and configurations from files.
-/

namespace CloudEmulation.CommandLine

/-- The present moment. -/
def clock : IO Timestamp := do
  let nanos := (← Std.Time.Timestamp.now).toNanosecondsSinceUnixEpoch.toInt
  return ⟨nanos / 1000000000, (nanos % 1000000000).toNat⟩

/-- Why a file cannot be read. -/
def reason : IO.Error → String
  | .noFileOrDirectory .. => "No such file or directory (os error 2)"
  | .permissionDenied .. => "Permission denied (os error 13)"
  | .inappropriateType .. => "Is a directory (os error 21)"
  | e => e.toString

def readConfig (path : String) : IO ConfigFile := do
  try
    return ⟨path, .ok (← IO.FS.readFile path)⟩
  catch e =>
    return ⟨path, .error (reason e)⟩

/-- Whether there is something at a path, be it readable or not. -/
def exists? (path : String) : IO Bool := do
  try
    let _ ← IO.FS.readFile path
    return true
  catch
    | .noFileOrDirectory .. => return false
    | _ => return true

/-- The directory of the user's configurations. -/
def configDirectory : IO (Option String) := do
  match (← IO.getEnv "XDG_CONFIG_HOME").filter (·.startsWith "/") with
  | some d => return some d
  | none => return (← IO.getEnv "HOME").map (· ++ "/.config")

/-- The user's own configuration, if there is one. -/
def ownConfig : IO (Option String) := do
  match ← configDirectory with
  | none => return none
  | some d =>
    let path := d ++ "/mockcloud/config.yaml"
    return if ← exists? path then some path else none

def perform (i : Invocation) : IO Outcome := do
  let path := i.configPath? (← IO.getEnv "MOCKCLOUD_CONFIG") (← ownConfig)
  let file ← path.mapM readConfig
  return run (← clock) (← IO.rand 0 Numeral.word64Limit) file i.command

def program (args : List String) : IO UInt32 := do
  let outcome ← match Wish.read args with
    | none => pure usage
    | some .version => pure version
    | some (.invocation i) => perform i
  (← IO.getStdout).putStr outcome.output
  (← IO.getStderr).putStr outcome.errors
  return outcome.code.toUInt32

end CloudEmulation.CommandLine

def main (args : List String) : IO UInt32 :=
  CloudEmulation.CommandLine.program args
