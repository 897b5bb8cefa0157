import Fieldwork.Runner.Command
import Fieldwork.Runner.Screen
import Fieldwork.Runner.Settings
import Fieldwork.Runner.TaskFile
import Fieldwork.Workflow.Delivery

namespace Fieldwork

/-!
# The console

A run of the runner begins with the settings, opens a session on a task, and
then answers line by line.  What a line needs from outside, a fresh key and the
gateway at that moment, is an argument; what it prints is a list of lines.
-/

inductive RunFault where
  | settings (fault : SettingsFault)
  | taskFile (fault : TaskFileFault)
  | opening (failure : Failure)
  | unreadableInput
  deriving DecidableEq, Repr

namespace RunFault

def kind :
    RunFault →
    FailureKind
  | settings fault => fault.kind
  | taskFile fault => fault.kind
  | opening failure => failure.kind
  | unreadableInput => .internal

def detail :
    RunFault →
    String
  | settings fault => fault.detail
  | taskFile fault => fault.detail
  | opening failure => failure.detail
  | unreadableInput => "failed to read stdin"

def message
    (fault : RunFault) :
    String :=
  fault.kind.heading ++ fault.detail

end RunFault

/-- The owner of the tasks in a run. -/
inductive TaskOwner where
  | store (tasks : TaskStore)
  | remote (service : RemoteService)

namespace TaskOwner

/-- The store of the tasks of a file and the task to work on. -/
def ofFile
    (path performer : String)
    (named : Option Int64)
    (content : Option String) :
    Except TaskFileFault (TaskOwner × Int64) :=
  match content with
  | none => .error (.unreadable path)
  | some content =>
      (TaskFile.tasksOf content).bind fun tasks =>
        (TaskFile.firstTask path named tasks).map fun task =>
          (.store (.ofTasks tasks performer), task)

/-- The owner that settings name, and the task to work on. -/
def ofSettings
    (settings : Settings)
    (fileAt : String → Option String) :
    Except RunFault (TaskOwner × Int64) :=
  match settings.source with
  | .service address token task =>
      let service := RemoteService.build address.text token settings.attempts
      .ok (.remote (service.withBackoff settings.backoffMillis), task)
  | .file path performer named =>
      (ofFile path performer named (fileAt path)).mapError .taskFile

/--
The gateway to an owner at a point in time, over a network whose state stands
beside the owner.
-/
def gateway
    (network : Network σ)
    (time : Timestamp) :
    Gateway (TaskOwner × σ) where
  complete state request :=
    match state with
    | (.store tasks, outside) =>
        let (result, tasks) := (TaskStore.gateway time).complete tasks request
        (result, .store tasks, outside)
    | (.remote service, outside) =>
        let (result, outside) := (service.gateway network).complete outside request
        (result, .remote service, outside)
  load state task :=
    match state with
    | (.store tasks, outside) =>
        let (result, tasks) := (TaskStore.gateway time).load tasks task
        (result, .store tasks, outside)
    | (.remote service, outside) =>
        let (result, outside) := (service.gateway network).load outside task
        (result, .remote service, outside)

end TaskOwner

namespace Console

/-- A session in a run, and the state of its gateway. -/
structure Run (σ : Type) where
  session : WorkSession
  state : σ

structure Reaction (σ : Type) where
  printed : List String
  run : Run σ
  finished : Bool := false

def begin
    (gateway : Gateway σ)
    (state : σ)
    (task : Int64) :
    Except RunFault (Run σ) :=
  match gateway.openSession state task with
  | (.ok session, state) => .ok ⟨session, state⟩
  | (.error failure, _) => .error (.opening failure)

/-- What is printed when a session is open. -/
def greeting
    (session : WorkSession) :
    List String :=
  Command.summary :: Screen.lines session

/-- The run behind a call, and the message of the call where it failed. -/
def Run.settle
    (served : Served σ α) :
    Run σ × List String :=
  (⟨served.session, served.state⟩,
    match served.result with
    | .ok _ => []
    | .error failure => [failure.message])

/-- Carry a command out: the run behind it, and what it prints by itself. -/
def carryOut
    (gateway : Gateway σ)
    (key : String)
    (run : Run σ) :
    Command →
    Run σ × List String
  | .showSession => (run, [])
  | .quit => (run, [])
  | .help => (run, [Command.summary])
  | .submit => Run.settle (gateway.submit key run.session run.state)
  | .refresh => Run.settle (gateway.refresh run.session run.state)
  | .enter entry =>
      match run.session.enter entry with
      | .ok session => ({ run with session := session }, [])
      | .error failure => (run, [failure.message])

/--
Answer a line.  A line that is no command is answered by the reason alone; any
other one, unless it ends the run, by the session behind it.
-/
def answer
    (gateway : Gateway σ)
    (key : String)
    (run : Run σ)
    (line : String) :
    Reaction σ :=
  match Command.ofLine line with
  | .error fault => ⟨[fault.message], run, false⟩
  | .ok .quit => ⟨[], run, true⟩
  | .ok command =>
      let (after, printed) := carryOut gateway key run command
      ⟨printed ++ Screen.lines after.session, after, false⟩

/--
Answer lines until one of them ends the run.  The keys and gateways of the
lines are numbered from `turn` on.
-/
def answerAll
    (gateways : Nat → Gateway σ)
    (keys : Nat → String)
    (turn : Nat)
    (run : Run σ) :
    List String →
    List String
  | [] => []
  | line :: rest =>
      let reaction := answer (gateways turn) (keys turn) run line
      reaction.printed ++
        (if reaction.finished then []
          else answerAll gateways keys (turn + 1) reaction.run rest)

/-- What a whole run prints, or why it does not begin. -/
def printedBy
    (lookup : Lookup)
    (fileAt : String → Option String)
    (network : Network σ)
    (outside : σ)
    (times : Nat → Timestamp)
    (keys : Nat → String)
    (lines : List String) :
    Except RunFault (List String) := do
  let settings ← (Settings.read lookup).mapError .settings
  let (owner, task) ← TaskOwner.ofSettings settings fileAt
  let gateways (turn : Nat) := TaskOwner.gateway network (times turn)
  let run ← begin (gateways 0) (owner, outside) task
  return greeting run.session ++ answerAll gateways keys 1 run lines

end Console

end Fieldwork
