import Fieldwork.Runner.Console
import Fieldwork.Workflow.Key
import Std.Time.DateTime.Timestamp

namespace Fieldwork.Runner

/-!
# The runner

The program around the console: it looks its settings up in the environment,
reads the task file, and passes on lines, the time and random bytes.  What is
printed, and why a run ends early, is decided by the console.

The program brings no network.  A request to a task service is never answered,
so a run against one ends when its task is loaded.
-/

def now : IO Timestamp := do
  let moment ← Std.Time.Timestamp.now
  return .ofEpoch moment.val.second.val.toNat moment.val.nano.val.toNat

/-- A key that was not used before. -/
def freshKey : IO String := do
  return CompletionKey.ofBytes (← IO.getRandomBytes 16).toList

/-- The settings as the environment holds them. -/
def environment : IO Lookup := do
  let values ← Settings.names.mapM fun name => do
    return (name, ← IO.getEnv name)
  return fun name => (values.lookup name).join

/-- The content of the file that settings name, if it can be read. -/
def fileContent
    (settings : Settings) :
    IO (Option String) := do
  match settings.source with
  | .service _ _ _ => return none
  | .file path _ _ =>
      try return some (← IO.FS.readFile path)
      catch _ => return none

def presentGateway : IO (Gateway (TaskOwner × Unit)) := do
  return TaskOwner.gateway .silent (← now)

def printLines
    (lines : List String) :
    IO Unit := do
  let stdout ← IO.getStdout
  stdout.putStr (Screen.joined lines)
  stdout.flush

/-- Answer lines until one of them, or the end of the input, ends the run. -/
partial def converse
    (run : Console.Run (TaskOwner × Unit)) :
    ExceptT RunFault IO Unit := do
  let read : IO (Except RunFault String) := do
    try return .ok (← (← IO.getStdin).getLine)
    catch _ => return .error .unreadableInput
  let line ← ExceptT.mk read
  unless line.isEmpty do
    let reaction := Console.answer (← presentGateway) (← freshKey) run line
    printLines reaction.printed
    unless reaction.finished do
      converse reaction.run

def perform : ExceptT RunFault IO Unit := do
  let lookup ← environment
  let settings ← ((Settings.read lookup).mapError RunFault.settings : Except _ _)
  let content ← fileContent settings
  let (owner, task) ← TaskOwner.ofSettings settings fun _ => content
  let run ← Console.begin (← presentGateway) (owner, ()) task
  printLines (Console.greeting run.session)
  converse run

end Fieldwork.Runner

/-- Run the program; a run that ends early tells why and ends with one. -/
def main : IO UInt32 := do
  match ← Fieldwork.Runner.perform.run with
  | .ok _ => return 0
  | .error fault =>
      IO.eprintln fault.message
      return 1
