import Fieldwork.FailureKind
import Fieldwork.Task.Inputs
import Fieldwork.Text.Blank

namespace Fieldwork

/-!
# Commands

A command is a line: a verb, and behind blanks the value that it takes.  The
case of ASCII letters in the verb does not matter, and neither do blanks around
the line and the value.  An empty line shows the session.
-/

inductive Command where
  | showSession
  | enter (entry : StepInputs.Entry)
  | submit
  | refresh
  | quit
  | help
  deriving DecidableEq, Repr

inductive CommandFault where
  | valueMissing (verb : String)
  | truthMissing
  | unknown (verb : String)
  deriving DecidableEq, Repr

namespace Command

/-- The line that lists the commands. -/
def summary : String :=
  "commands: show | select <value> | text <value> | number <value> " ++
    "| check <true|false> | submit | refresh | quit"

/-- A value that may not be empty. -/
def requireValue
    (verb value : String) :
    Except CommandFault String :=
  if value.isEmpty then .error (.valueMissing verb) else .ok value

/-- A truth value in one of its spellings. -/
def readTruth
    (value : String) :
    Except CommandFault Bool :=
  match Text.lowerAscii value with
  | "true" | "yes" | "y" => .ok true
  | "false" | "no" | "n" => .ok false
  | _ => .error .truthMissing

/-- The command of a verb with a value. -/
def ofWords
    (verb value : String) :
    Except CommandFault Command :=
  match Text.lowerAscii verb with
  | "" | "show" => .ok .showSession
  | "select" => (requireValue verb value).map fun value => .enter (.select value)
  | "text" => (requireValue verb value).map fun value => .enter (.text value)
  | "number" => (requireValue verb value).map fun value => .enter (.number value)
  | "check" => (readTruth value).map fun checked => .enter (.check checked)
  | "submit" => .ok .submit
  | "refresh" => .ok .refresh
  | "quit" | "exit" => .ok .quit
  | "help" => .ok .help
  | other => .error (.unknown other)

/-- The verb of a line without blanks around it, and its value. -/
def splitVerb
    (line : List Char) :
    List Char × List Char :=
  match Text.splitFirst Text.isBlankChar line with
  | some (verb, value) => (verb, Text.trimChars value)
  | none => (line, [])

def ofLine
    (line : String) :
    Except CommandFault Command :=
  let (verb, value) := splitVerb (Text.trimChars line.toList)
  ofWords (String.ofList verb) (String.ofList value)

end Command

namespace CommandFault

def kind :
    CommandFault →
    FailureKind :=
  fun _ => .validation

def detail :
    CommandFault →
    String
  | valueMissing verb => "'" ++ verb ++ "' needs a value"
  | truthMissing => "'check' needs true or false"
  | unknown verb => "unknown command '" ++ verb ++ "'; " ++ Command.summary

def message
    (fault : CommandFault) :
    String :=
  fault.kind.heading ++ fault.detail

end CommandFault

end Fieldwork
