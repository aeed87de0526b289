import ReactiveResource.CommandLine.Run
import Std.Time

/-!
# The program

A run in the real world: settings are kept in a file in the user's configuration folder, and the
clock is the system's. There are no connections: every request is left without an answer.
-/

namespace ReactiveResource.CommandLine

/-- The user's configuration folder, if he has one. -/
def configFolder : IO (Option String) := do
  match ← IO.getEnv "XDG_CONFIG_HOME" with
  | some folder => if folder.startsWith "/" then return some folder
  | none => pure ()
  return (← IO.getEnv "HOME").map (· ++ "/.config")

/-- The text of a file, if it can be read. -/
def readText? (path : String) : IO (Option String) := do
  try
    return some (← IO.FS.readFile path)
  catch _ =>
    return none

/-- Save the text of settings, and say whether nothing went wrong. Without a folder there is nothing
to be done. -/
def save (folder : Option String) (text : String) : IO Bool := do
  match folder with
  | none => return true
  | some folder =>
    try
      IO.FS.createDirAll folder
      IO.FS.writeFile (folder ++ "/config.json") text
      return true
    catch _ =>
      return false

/-- The instant, in milliseconds since the beginning of 1970. -/
def currentMillis : IO Nat := do
  let now ← Std.Time.Timestamp.now
  return now.toMillisecondsSinceUnixEpoch.val.toNat

end ReactiveResource.CommandLine

open ReactiveResource.CommandLine in
/-- Run the program. -/
def main (args : List String) : IO UInt32 := do
  let folder := (← configFolder).map (· ++ "/dashres")
  let file ←
    match folder with
    | some folder => readText? (folder ++ "/config.json")
    | none => pure none
  let backend ← IO.getEnv "DASHRES_BASE_URL"
  let result := run { file, backend, now := ← currentMillis } args
  if let some text := result.saved then
    unless ← save folder text do
      IO.eprint "Error: Failed to save configuration\n"
      return 1
  IO.print result.stdout
  IO.eprint result.stderr
  return UInt32.ofNat result.code
