import Fieldwork.Workflow.Session

namespace Fieldwork

/-!
# Stores of tasks

A store keeps tasks and the log of the completions that it has recorded.  A
request under a key that is already in the log has no effect.  The time at
which a completion is recorded is an argument.
-/

/-- Tasks, each identifier once, and the completions recorded so far. -/
structure TaskStore where
  tasks : List FieldTask
  completions : List CompletionRequest
  /-- Who is noted as the performer of resolved steps. -/
  performer : String

namespace TaskStore

/-- Put a task in the place of the one with its identifier, or add it. -/
def put
    (task : FieldTask) :
    List FieldTask →
    List FieldTask
  | [] => [task]
  | other :: rest =>
      if other.id = task.id then task :: rest else other :: put task rest

/-- A store of tasks; of tasks with one identifier the last one stays. -/
def ofTasks
    (tasks : List FieldTask)
    (performer : String) :
    TaskStore :=
  ⟨tasks.foldl (fun stored task => put task stored) [], [], performer⟩

def task?
    (store : TaskStore)
    (id : Int64) :
    Option FieldTask :=
  store.tasks.find? fun task => task.id = id

/-- A task that was put is found under its identifier, and others as before. -/
theorem find?_put
    (task : FieldTask)
    (id : Int64)
    (tasks : List FieldTask) :
    ((put task tasks).find? fun stored => stored.id = id) =
      if task.id = id then some task
      else tasks.find? fun stored => stored.id = id := by
  induction tasks with
  | nil =>
      by_cases same : task.id = id <;> simp [put, same]
  | cons head rest inductionHypothesis =>
      unfold put
      split
      · rename_i sameHead
        by_cases same : task.id = id
        · simp [same]
        · simp [same, sameHead]
      · rename_i differentHead
        rw [List.find?_cons, List.find?_cons, inductionHypothesis]
        by_cases same : task.id = id
        · subst same
          simp [differentHead]
        · simp [same]

/-- A store finds what was put into it. -/
theorem task?_put
    (store : TaskStore)
    (task : FieldTask)
    (id : Int64) :
    { store with tasks := put task store.tasks }.task? id =
      if task.id = id then some task else store.task? id :=
  find?_put task id store.tasks

def load
    (store : TaskStore)
    (id : Int64) :
    Except Failure FieldTask :=
  match store.task? id with
  | some task => .ok task
  | none => .error (.store (.taskMissing id))

/-- The keys of the recorded completions. -/
def keys
    (store : TaskStore) :
    List String :=
  store.completions.map CompletionRequest.key

end TaskStore

/-- The record of a step that is resolved, by way of being in progress. -/
def Step.finish
    (step : Step)
    (status : StepStatus)
    (time : Timestamp)
    (performer : String) :
    Except TaskFault StepRecord :=
  if step.status = .pending then
    (step.moveTo .inProgress time none).bind fun started =>
      (step.withRecord started).moveTo status time (some performer)
  else
    step.moveTo status time (some performer)

namespace FieldTask

/-- Set the steps with an order between two bounds back to pending. -/
def reopenRange
    (task : FieldTask)
    (first last : Int32) :
    FieldTask :=
  task.withRecords fun step =>
    if first ≤ step.order && step.order ≤ last then Step.reopened else step.record

/-- Resolve the step with an order. -/
def finishStep
    (task : FieldTask)
    (order : Int32)
    (status : StepStatus)
    (time : Timestamp)
    (performer : String) :
    Except TaskFault FieldTask :=
  task.withRecords? fun step =>
    if step.order = order then step.finish status time performer
    else .ok step.record

/-- Skip the steps between two orders that are not in a final state. -/
def skipBetween
    (task : FieldTask)
    (after before : Int32)
    (time : Timestamp)
    (performer : String) :
    Except TaskFault FieldTask :=
  task.withRecords? fun step =>
    if after < step.order && step.order < before && !step.status.isTerminal then
      step.finish .skipped time performer
    else
      .ok step.record

end FieldTask

namespace CompletionRequest

/-- The status of the resolved step: failed where that is what was recorded. -/
def outcomeStatus
    (request : CompletionRequest) :
    StepStatus :=
  match request.fieldValues.get? selectedName with
  | some (.string selected) =>
      if selected = genericFailure then .failed else .completed
  | _ => .completed

/--
The task after the action of a request on one of its steps.  A jump back, or to
the same step, sets the steps from its target on back to pending; a jump ahead
resolves the step and skips what lies between.
-/
def actOn
    (request : CompletionRequest)
    (task : FieldTask)
    (current : Step)
    (time : Timestamp)
    (performer : String) :
    Except Failure FieldTask :=
  let resolved :=
    task.finishStep current.order request.outcomeStatus time performer
  match request.action with
  | .advance => resolved.mapError .task
  | .again => .ok (task.reopenRange current.order current.order)
  | .jump order =>
      if (task.stepAt? order).isNone then
        .error (.store (.jumpToMissing request.step order))
      else if order ≤ current.order then
        .ok (task.reopenRange order current.order)
      else
        (resolved.bind fun task =>
          task.skipBetween current.order order time performer).mapError .task

/-- The task after a request, with its percentage counted anew. -/
def applyTo
    (request : CompletionRequest)
    (task : FieldTask)
    (time : Timestamp)
    (performer : String) :
    Except Failure FieldTask :=
  match task.step? request.step with
  | none => .error (.store (.stepMissing request.step request.task))
  | some current =>
      if current.status.isTerminal then
        .error (.store (.alreadyResolved current.id current.status))
      else
        (request.actOn task current time performer).map FieldTask.recomputed

end CompletionRequest

namespace TaskStore

/-- Record a completion, unless its key is in the log already. -/
def complete
    (store : TaskStore)
    (request : CompletionRequest)
    (time : Timestamp) :
    Except Failure TaskStore :=
  if store.keys.contains request.key then
    .ok store
  else
    match store.task? request.task with
    | none => .error (.store (.taskMissing request.task))
    | some task =>
        (request.applyTo task time store.performer).map fun updated =>
          { store with
            tasks := put updated store.tasks
            completions := store.completions ++ [request] }

/-- A request under a key of the log leaves the store as it is. -/
theorem complete_of_mem_keys
    {store : TaskStore}
    {request : CompletionRequest}
    (time : Timestamp)
    (known : request.key ∈ store.keys) :
    store.complete request time = .ok store := by
  simp [complete, known]

end TaskStore

end Fieldwork
