import Fieldwork.Task.Stored

namespace Fieldwork

/-!
# Task files

A task file holds one task or a list of tasks.
-/

inductive TaskFileFault where
  | unreadable (path : String)
  | notJson
  | noTask (fault : Json.ReadFault TaskFault)
  | empty (path : String)
  deriving DecidableEq, Repr

namespace TaskFileFault

def kind :
    TaskFileFault →
    FailureKind :=
  fun _ => .configuration

def detail :
    TaskFileFault →
    String
  | unreadable path => "failed to read task file '" ++ path ++ "'"
  | notJson => "task file is not JSON"
  | noTask (.refused fault) =>
      "invalid task in task file: " ++ fault.kind.heading ++ fault.detail
  | noTask .malformed => "invalid task in task file"
  | empty path => "task file '" ++ path ++ "' holds no tasks"

end TaskFileFault

namespace TaskFile

def readTasks
    (document : Json) :
    TaskReading (List FieldTask) :=
  match document with
  | .array items => items.mapM FieldTask.ofJson
  | other => (FieldTask.ofJson other).map fun task => [task]

/-- The tasks of a file with the given content. -/
def tasksOf
    (content : String) :
    Except TaskFileFault (List FieldTask) :=
  match Json.ofText? content with
  | none => .error .notJson
  | some document => (readTasks document).mapError .noTask

/-- The task to work on: the one named, or else the first of the file. -/
def firstTask
    (path : String)
    (named : Option Int64)
    (tasks : List FieldTask) :
    Except TaskFileFault Int64 :=
  match named, tasks with
  | some task, _ => .ok task
  | none, task :: _ => .ok task.id
  | none, [] => .error (.empty path)

end TaskFile

end Fieldwork
