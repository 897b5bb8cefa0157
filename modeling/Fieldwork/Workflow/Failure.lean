import Fieldwork.Http.Status
import Fieldwork.Task.Outcome

namespace Fieldwork

/-!
# What can go wrong with work on a task

A call on a session, on a store of tasks or on a remote task service fails for
one of the causes below.  A failure may also be one that was reported by
somebody else, of which only the kind and the wording are known.
-/

/-- Why a call on a session is refused. -/
inductive SessionFault where
  | noActiveStep (task : Int64)
  | awaitingConfirmation (task : Int64)
  | nothingAwaited (task : Int64)
  | otherTask (refreshed task : Int64)
  deriving DecidableEq, Repr

namespace SessionFault

def kind :
    SessionFault →
    FailureKind
  | otherTask _ _ => .validation
  | _ => .conflict

def detail :
    SessionFault →
    String
  | noActiveStep task => "task " ++ integerText task.toInt ++ " has no active step"
  | awaitingConfirmation task =>
      "a step completion for task " ++ integerText task.toInt ++
        " is awaiting confirmation"
  | nothingAwaited task =>
      "no step completion for task " ++ integerText task.toInt ++
        " awaits confirmation"
  | otherTask refreshed task =>
      "refreshed task " ++ integerText refreshed.toInt ++
        " does not match session task " ++ integerText task.toInt

end SessionFault

/-- Why a store of tasks refuses a call. -/
inductive StoreFault where
  | taskMissing (task : Int64)
  | stepMissing (step task : Int64)
  | alreadyResolved (step : Int64) (status : StepStatus)
  | jumpToMissing (step : Int64) (order : Int32)
  deriving DecidableEq, Repr

namespace StoreFault

def kind :
    StoreFault →
    FailureKind
  | taskMissing _ => .notFound
  | stepMissing _ _ => .notFound
  | alreadyResolved _ _ => .conflict
  | jumpToMissing _ _ => .configuration

def detail :
    StoreFault →
    String
  | taskMissing task => "task " ++ integerText task.toInt ++ " does not exist"
  | stepMissing step task =>
      "step " ++ integerText step.toInt ++ " does not exist in task " ++
        integerText task.toInt
  | alreadyResolved step status =>
      "step " ++ integerText step.toInt ++ " is already " ++ status.name
  | jumpToMissing step order =>
      "step " ++ integerText step.toInt ++ " jumps to missing step order " ++
        integerText order.toInt

end StoreFault

/-- What a request to a task service is for. -/
inductive ServiceCall where
  | completion
  | load
  deriving DecidableEq, Repr, Inhabited

/-- The name of a call inside messages. -/
def ServiceCall.name :
    ServiceCall →
    String
  | completion => "step completion"
  | load => "task load"

/-- Why a call to a remote task service fails. -/
inductive DeliveryFault where
  /-- The last attempt met a failure that may pass. -/
  | transient (call : ServiceCall) (status : StatusCode)
  /-- The last attempt got no answer. -/
  | unanswered (call : ServiceCall) (reason : String)
  | refused (call : ServiceCall) (status : StatusCode) (body : String)
  /-- No attempt was made at all. -/
  | exhausted (call : ServiceCall)
  | unreadable (task : Int64)
  deriving DecidableEq, Repr

namespace DeliveryFault

/-- The kind of an answer that is neither success nor transient. -/
def kindOfStatus
    (status : StatusCode) :
    FailureKind :=
  match status.code with
  | 404 => .notFound
  | 409 => .conflict
  | 401 => .configuration
  | 403 => .configuration
  | _ => .collaborator

def kind :
    DeliveryFault →
    FailureKind
  | refused _ status _ => kindOfStatus status
  | _ => .collaborator

def detail :
    DeliveryFault →
    String
  | transient call status =>
      "transient HTTP status " ++ status.text ++ " for " ++ call.name
  | unanswered call reason => call.name ++ " transport error: " ++ reason
  | refused call status body =>
      call.name ++ " failed with status " ++ status.text ++ ": " ++ body
  | exhausted call => call.name ++ " exhausted retries"
  | unreadable task =>
      "task " ++ integerText task.toInt ++
        " payload could not be read: it does not hold a task"

end DeliveryFault

/-- Why work on a task does not go on. -/
inductive Failure where
  | outcome (fault : OutcomeFault)
  | task (fault : TaskFault)
  | session (fault : SessionFault)
  | store (fault : StoreFault)
  | delivery (fault : DeliveryFault)
  /-- A failure that somebody else reported. -/
  | reported (kind : FailureKind) (detail : String)
  deriving DecidableEq, Repr

namespace Failure

def kind :
    Failure →
    FailureKind
  | outcome fault => fault.kind
  | task fault => fault.kind
  | session fault => fault.kind
  | store fault => fault.kind
  | delivery fault => fault.kind
  | reported kind _ => kind

def detail :
    Failure →
    String
  | outcome fault => fault.detail
  | task fault => fault.detail
  | session fault => fault.detail
  | store fault => fault.detail
  | delivery fault => fault.detail
  | reported _ detail => detail

/-- The message of a failure: the heading of its kind and its wording. -/
def message
    (failure : Failure) :
    String :=
  failure.kind.heading ++ failure.detail

end Failure

end Fieldwork
