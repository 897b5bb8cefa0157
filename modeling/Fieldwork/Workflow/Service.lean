import Fieldwork.Workflow.Store

namespace Fieldwork

/-!
# Working against a task service

A gateway reaches the owner of the tasks.  Whatever it is, its state goes into
each call and comes out of it.  The functions here open a session over a
gateway, submit the step in focus, and refresh the session.
-/

/-- The two calls of a task service, over a state. -/
structure Gateway (σ : Type) where
  /-- Record a completion. -/
  complete : σ → CompletionRequest → Except Failure Unit × σ
  /-- Load a task. -/
  load : σ → Int64 → Except Failure FieldTask × σ

/-- A result beside the session and the gateway's state behind a call. -/
structure Served (σ α : Type) where
  result : Except Failure α
  session : WorkSession
  state : σ

namespace Gateway

variable {σ : Type}

/-- Load a task and open a session on it. -/
def openSession
    (gateway : Gateway σ)
    (state : σ)
    (task : Int64) :
    Except Failure WorkSession × σ :=
  let (loaded, state) := gateway.load state task
  (loaded.map WorkSession.start, state)

/-- Load the task again and confirm the awaited completion by it. -/
def settle
    (gateway : Gateway σ)
    (session : WorkSession)
    (state : σ)
    (task : Int64) :
    Served σ StepTransition :=
  match gateway.load state task with
  | (.error failure, state) => ⟨.error failure, session, state⟩
  | (.ok refreshed, state) =>
      match session.confirm refreshed with
      | .error failure => ⟨.error failure, session, state⟩
      | .ok (confirmed, transition) => ⟨.ok transition, confirmed, state⟩

/--
Submit the step in focus.  Nothing is called when its outcome cannot be
resolved.  When the completion fails, the session notes it; when only the
loading afterwards fails, the result stays awaited.
-/
def submit
    (gateway : Gateway σ)
    (key : String)
    (session : WorkSession)
    (state : σ) :
    Served σ StepTransition :=
  match session.prepare key with
  | .error failure => ⟨.error failure, session, state⟩
  | .ok (pending, request) =>
      match gateway.complete state request with
      | (.ok (), state) => gateway.settle pending state request.task
      | (.error failure, state) =>
          match pending.reject failure with
          | .ok rejected => ⟨.error failure, rejected, state⟩
          | .error other => ⟨.error other, pending, state⟩

/--
Load the task again.  An awaited completion is confirmed by it; otherwise the
present copy is replaced.
-/
def refresh
    (gateway : Gateway σ)
    (session : WorkSession)
    (state : σ) :
    Served σ (Option StepTransition) :=
  match gateway.load state session.task.id with
  | (.error failure, state) => ⟨.error failure, session, state⟩
  | (.ok refreshed, state) =>
      if session.confirmation.isPending then
        match session.confirm refreshed with
        | .error failure => ⟨.error failure, session, state⟩
        | .ok (confirmed, transition) => ⟨.ok (some transition), confirmed, state⟩
      else
        match session.replaceTask refreshed with
        | .error failure => ⟨.error failure, session, state⟩
        | .ok replaced => ⟨.ok none, replaced, state⟩

end Gateway

/-- A store as the owner of its tasks, at a point in time. -/
def TaskStore.gateway
    (time : Timestamp) :
    Gateway TaskStore where
  complete store request :=
    match store.complete request time with
    | .ok updated => (.ok (), updated)
    | .error failure => (.error failure, store)
  load store task := (store.load task, store)

/--
What goes wrong on the way to a gateway: failures that meet the next calls
before they reach it, and tasks that are served in the place of loaded ones.
-/
structure Disturbed (σ : Type) where
  completionFailures : List Failure := []
  loadFailures : List Failure := []
  served : List FieldTask := []
  inner : σ

/-- A gateway reached over a disturbed way. -/
def Gateway.disturbed
    (gateway : Gateway σ) :
    Gateway (Disturbed σ) where
  complete way request :=
    match way.completionFailures with
    | failure :: rest => (.error failure, { way with completionFailures := rest })
    | [] =>
        let (result, inner) := gateway.complete way.inner request
        (result, { way with inner := inner })
  load way task :=
    match way.loadFailures, way.served with
    | failure :: rest, _ => (.error failure, { way with loadFailures := rest })
    | [], other :: rest => (.ok other, { way with served := rest })
    | [], [] =>
        let (result, inner) := gateway.load way.inner task
        (result, { way with inner := inner })

end Fieldwork
