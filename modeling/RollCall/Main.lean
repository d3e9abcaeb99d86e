import RollCall.Command.Basic
import RollCall.Library.Standard

/-!
# The program

Reads the files and variables a command needs and prints and writes what it says. No connection is
made: every request for a roll counts as refused.
-/
namespace RollCall

def readText? (path : String) : IO (Option String) := do
  try
    return some (← IO.FS.readFile path)
  catch _ =>
    return none

def surroundings (c : Command) : IO World := do
  let files ← c.files.mapM fun path => return (path, ← readText? path)
  let values ← Settings.variableNames.mapM fun name => return (name, ← IO.getEnv name)
  return {
    file? := fun path => (files.lookup path).join
    setting? := fun name => (values.lookup name).join
    respond := fun _ _ => .refused }

/-- Print and write what an outcome says, and tell how to exit. -/
def Outcome.deliver (o : Outcome) : IO UInt32 := do
  IO.print o.output
  match o.file with
  | none => return o.exitCode.toUInt32
  | some (path, text) =>
    try
      IO.FS.writeFile path text
      return o.exitCode.toUInt32
    catch e =>
      IO.eprintln e
      return 1

end RollCall

def main (args : List String) : IO UInt32 := do
  match RollCall.Command.ofArguments? args with
  | some c => (c.perform (← RollCall.surroundings c)).deliver
  | none =>
    IO.eprint RollCall.Command.helpText
    RollCall.Outcome.misused.deliver
