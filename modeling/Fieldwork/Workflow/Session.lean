import Fieldwork.Workflow.Failure

namespace Fieldwork

/-!
# Sessions

A session owns the copy of a task that a user works on, the inputs for the step
in focus, and what is known about the latest completion.  The steps are never
changed here: they are replaced as a whole by a fresh copy of the task.

Every operation either succeeds with a new session or fails, and then the
session stays what it was.
-/

/-- The request to record the completion of a step. -/
structure CompletionRequest where
  task : Int64
  step : Int64
  fieldValues : FieldValues
  action : ControlAction
  /-- Names the request: repeating it under the same key has no effect. -/
  key : String

namespace CompletionRequest

/-- Whether a request already says what an outcome comes to. -/
def covers
    (request : CompletionRequest)
    (outcome : ResolvedOutcome) :
    Bool :=
  request.step == outcome.step && request.fieldValues.same outcome.fieldValues &&
    request.action == outcome.action

end CompletionRequest

/-- What is known about the latest completion. -/
inductive Confirmation where
  | idle
  /-- The request was made and its result is not known. -/
  | pending (request : CompletionRequest)
  /-- The request failed; it is made again when nothing else is entered. -/
  | failed (request : CompletionRequest) (failure : Failure)

namespace Confirmation

/-- Whether a result is awaited. -/
def isPending :
    Confirmation →
    Bool
  | pending _ => true
  | _ => false

/-- The request that is awaited or failed. -/
def request? :
    Confirmation →
    Option CompletionRequest
  | idle => none
  | pending request => some request
  | failed request _ => some request

end Confirmation

/-- The effect of a confirmed completion. -/
structure StepTransition where
  resolved : Int64
  active : Option Int64
  progress : Progress
  deriving DecidableEq, Repr

/-- The work of a user on a task. -/
structure WorkSession where
  task : FieldTask
  inputs : StepInputs
  confirmation : Confirmation

namespace WorkSession

/-- The identifier of the step in focus. -/
def activeId
    (task : FieldTask) :
    Option Int64 :=
  task.activeStep?.map Step.id

/-- A session on a task, with blank inputs. -/
def start
    (task : FieldTask) :
    WorkSession :=
  ⟨task, .forStep (activeId task), .idle⟩

def activeStep?
    (session : WorkSession) :
    Option Step :=
  session.task.activeStep?

/-- The outcomes that the step in focus offers. -/
def offered
    (session : WorkSession) :
    List OfferedOutcome :=
  match session.activeStep? with
  | some step => step.offered
  | none => []

def requireSettled
    (session : WorkSession) :
    Except Failure Unit :=
  if session.confirmation.isPending then
    .error (.session (.awaitingConfirmation session.task.id))
  else
    .ok ()

/-- The step in focus, which has to be there. -/
def requireActive
    (session : WorkSession) :
    Except Failure Step :=
  match session.activeStep? with
  | some step => .ok step
  | none => .error (.session (.noActiveStep session.task.id))

def requireSameTask
    (session : WorkSession)
    (refreshed : FieldTask) :
    Except Failure Unit :=
  if refreshed.id = session.task.id then
    .ok ()
  else
    .error (.session (.otherTask refreshed.id session.task.id))

/-- The request that is awaited, which has to be there. -/
def requirePending
    (session : WorkSession) :
    Except Failure CompletionRequest :=
  match session.confirmation with
  | .pending request => .ok request
  | _ => .error (.session (.nothingAwaited session.task.id))

/-- Change the inputs, which needs a step in focus and no awaited result. -/
def editInputs
    (session : WorkSession)
    (change : StepInputs → StepInputs) :
    Except Failure WorkSession := do
  session.requireSettled
  let _ ← session.requireActive
  return { session with inputs := change session.inputs }

def enter
    (session : WorkSession)
    (entry : StepInputs.Entry) :
    Except Failure WorkSession :=
  session.editInputs fun inputs => inputs.enter entry

def clear
    (session : WorkSession) :
    Except Failure WorkSession :=
  session.editInputs StepInputs.cleared

/--
Put a fresh copy of the task in the place of the present one.  The inputs and
what is known about a failed completion stay only where the same step is in
focus.
-/
def replaceTask
    (session : WorkSession)
    (refreshed : FieldTask) :
    Except Failure WorkSession := do
  session.requireSettled
  session.requireSameTask refreshed
  let active := activeId refreshed
  if session.inputs.step = active then
    return { session with task := refreshed }
  else
    return ⟨refreshed, session.inputs.scopedTo active, .idle⟩

/--
The request for an outcome.  A failed request that says the same is made again,
under its key; another one gets the new key.
-/
def requestFor
    (session : WorkSession)
    (outcome : ResolvedOutcome)
    (key : String) :
    CompletionRequest :=
  let fresh : CompletionRequest :=
    ⟨session.task.id, outcome.step, outcome.fieldValues, outcome.action, key⟩
  match session.confirmation with
  | .failed request _ => if request.covers outcome then request else fresh
  | _ => fresh

/-- Resolve the step in focus and await the result of its completion. -/
def prepare
    (session : WorkSession)
    (key : String) :
    Except Failure (WorkSession × CompletionRequest) := do
  session.requireSettled
  let step ← session.requireActive
  match session.task.resolve step session.inputs with
  | .error fault => throw (.outcome fault)
  | .ok outcome =>
      let request := session.requestFor outcome key
      return ({ session with confirmation := .pending request }, request)

/--
Apply the fresh copy of the task after the completion was recorded.  The inputs
are always cleared, also where the same step comes into focus again.
-/
def confirm
    (session : WorkSession)
    (refreshed : FieldTask) :
    Except Failure (WorkSession × StepTransition) := do
  let request ← session.requirePending
  session.requireSameTask refreshed
  return (start refreshed, ⟨request.step, activeId refreshed, refreshed.progress⟩)

/-- Note that the completion failed.  The task and the inputs stay. -/
def reject
    (session : WorkSession)
    (failure : Failure) :
    Except Failure WorkSession := do
  let request ← session.requirePending
  return { session with confirmation := .failed request failure }

end WorkSession

end Fieldwork
