import Fieldwork.Proofs.Session.Scope

namespace Fieldwork

/-!
# Calls on a session in place

A session may be worked on in place: a call is then a program that checks what it
needs and changes the session part by part, and wherever it fails, what it has
changed by then stays changed.  Every program here checks all it needs before its
first change, so that it ends as the operation of its name does, which gives back
a new session or none.
-/

/-- A program that works on a session in place and may fail on its way. -/
abbrev SessionProgram (α : Type) : Type :=
  EStateM Failure WorkSession α

namespace SessionProgram

variable {α : Type}

/-- Check the session, and go on with what the check gives. -/
def demand
    (check : WorkSession → Except Failure α) :
    SessionProgram α := do
  match check (← get) with
  | .ok value => return value
  | .error failure => throw failure

def edit
    (change : StepInputs → StepInputs) :
    SessionProgram Unit := do
  demand WorkSession.requireSettled
  let _ ← demand WorkSession.requireActive
  modify fun session => { session with inputs := change session.inputs }

/-- Move the inputs to a step; the answer is whether this cleared them. -/
def scopeInputs
    (step : Option Int64) :
    SessionProgram Bool := do
  if (← get).inputs.step = step then
    return false
  modify fun session => { session with inputs := .forStep step }
  return true

/-- Put a fresh copy in the place of the task, and only then look what is in focus. -/
def replaceTask
    (refreshed : FieldTask) :
    SessionProgram Unit := do
  demand WorkSession.requireSettled
  demand fun session => session.requireSameTask refreshed
  modify fun session => { session with task := refreshed }
  let active := WorkSession.activeId (← get).task
  if ← scopeInputs active then
    modify fun session => { session with confirmation := .idle }

/-- Resolve the step in focus and hold the request that comes of it. -/
def prepare
    (key : String) :
    SessionProgram CompletionRequest := do
  demand WorkSession.requireSettled
  let step ← demand WorkSession.requireActive
  let outcome ← demand fun session =>
    (session.task.resolve step session.inputs).mapError .outcome
  let request := (← get).requestFor outcome key
  modify fun session => { session with confirmation := .pending request }
  return request

/-- Take over the fresh copy, give up the request, and begin with blank inputs. -/
def confirm
    (refreshed : FieldTask) :
    SessionProgram StepTransition := do
  let request ← demand WorkSession.requirePending
  demand fun session => session.requireSameTask refreshed
  modify fun session => { session with task := refreshed }
  modify fun session => { session with confirmation := .idle }
  let active := WorkSession.activeId (← get).task
  modify fun session => { session with inputs := .forStep active }
  return ⟨request.step, active, (← get).task.progress⟩

def reject
    (failure : Failure) :
    SessionProgram Unit := do
  let request ← demand WorkSession.requirePending
  modify fun session => { session with confirmation := .failed request failure }

/-- How a program ends that comes to a new session and a value, or fails without a change. -/
def ended
    (session : WorkSession) :
    Except Failure (WorkSession × α) →
    EStateM.Result Failure WorkSession α
  | .ok (changed, value) => .ok value changed
  | .error failure => .error failure session

end SessionProgram

/-- The program of a call. -/
def SessionCall.inPlace :
    SessionCall →
    SessionProgram Unit
  | .enter entry => .edit fun inputs => inputs.enter entry
  | .clear => .edit StepInputs.cleared
  | .prepare key => do let _ ← SessionProgram.prepare key
  | .confirm refreshed => do let _ ← SessionProgram.confirm refreshed
  | .reject failure => .reject failure
  | .replaceTask refreshed => .replaceTask refreshed

/-- A call that says how an awaited completion went. -/
def SessionCall.Answers :
    SessionCall →
    Prop
  | .confirm _ => True
  | .reject _ => True
  | _ => False

namespace SessionProgram

variable {α β : Type} {session : WorkSession}

/-- A check leaves the session as it is, so that what comes behind it begins where it did. -/
theorem run_demand_bind
    {check : WorkSession → Except Failure α}
    {next : α → SessionProgram β}
    {rest : α → Except Failure (WorkSession × β)}
    (endsAs :
      ∀ value, check session = .ok value →
        (next value).run session = ended session (rest value)) :
    (demand check >>= next).run session = ended session (check session >>= rest) := by
  rw [demand, EStateM.run_bind, EStateM.run_bind, EStateM.run_get]
  dsimp only
  cases checked : check session with
  | error failure =>
      rfl
  | ok value =>
      exact endsAs value checked

theorem run_edit
    (change : StepInputs → StepInputs) :
    (edit change).run session =
      ended session ((session.editInputs change).map fun changed => (changed, ())) := by
  have ends :
      (edit change).run session =
        ended session (do
          session.requireSettled
          let _ ← session.requireActive
          return ({ session with inputs := change session.inputs }, ())) :=
    run_demand_bind fun _ _ => run_demand_bind fun _ _ => rfl
  rw [ends, WorkSession.editInputs]
  cases session.requireSettled with
  | error failure =>
      rfl
  | ok _ =>
      cases session.requireActive <;> rfl

theorem run_prepare
    (key : String) :
    (prepare key).run session = ended session (session.prepare key) := by
  have ends :
      (prepare key).run session =
        ended session (do
          session.requireSettled
          let step ← session.requireActive
          let outcome ← (session.task.resolve step session.inputs).mapError .outcome
          let request := session.requestFor outcome key
          return ({ session with confirmation := .pending request }, request)) :=
    run_demand_bind fun _ _ => run_demand_bind fun _ _ => run_demand_bind fun _ _ => rfl
  rw [ends, WorkSession.prepare_eq, WorkSession.resolution]
  cases session.requireSettled with
  | error failure =>
      rfl
  | ok _ =>
      cases session.requireActive with
      | error failure =>
          rfl
      | ok step =>
          dsimp only [bind, Except.bind]
          cases session.task.resolve step session.inputs <;> rfl

theorem run_confirm
    (refreshed : FieldTask) :
    (confirm refreshed).run session = ended session (session.confirm refreshed) :=
  run_demand_bind fun _ _ => run_demand_bind fun _ _ => rfl

theorem run_reject
    (failure : Failure) :
    (reject failure).run session =
      ended session ((session.reject failure).map fun rejected => (rejected, ())) := by
  have ends :
      (reject failure).run session =
        ended session (do
          let request ← session.requirePending
          return ({ session with confirmation := .failed request failure }, ())) :=
    run_demand_bind fun _ _ => rfl
  rw [ends, WorkSession.reject]
  cases session.requirePending <;> rfl

/-- Moving the inputs tells whether they were for another step. -/
theorem run_scopeInputs
    (step : Option Int64) :
    (scopeInputs step).run session =
      if session.inputs.step = step then .ok false session
      else .ok true { session with inputs := .forStep step } := by
  rw [scopeInputs, EStateM.run_bind, EStateM.run_get]
  dsimp only
  split <;> rfl

theorem run_replaceTask
    (refreshed : FieldTask) :
    (replaceTask refreshed).run session =
      ended session
        ((session.replaceTask refreshed).map fun replaced => (replaced, ())) := by
  have ends :
      (replaceTask refreshed).run session =
        ended session (do
          session.requireSettled
          session.requireSameTask refreshed
          if session.inputs.step = WorkSession.activeId refreshed then
            return ({ session with task := refreshed }, ())
          else
            return (WorkSession.start refreshed, ())) := by
    refine run_demand_bind fun _ _ => run_demand_bind fun _ _ => ?_
    rw [EStateM.run_bind, EStateM.run_modify]
    dsimp only
    rw [EStateM.run_bind, EStateM.run_get]
    dsimp only
    rw [EStateM.run_bind, run_scopeInputs]
    by_cases sameStep : session.inputs.step = WorkSession.activeId refreshed
    · rw [if_pos sameStep, if_pos sameStep]
      rfl
    · rw [if_neg sameStep, if_neg sameStep]
      rfl
  rw [ends, WorkSession.replaceTask]
  cases session.requireSettled with
  | error failure =>
      rfl
  | ok _ =>
      cases session.requireSameTask refreshed with
      | error failure =>
          rfl
      | ok _ =>
          dsimp only [bind, Except.bind]
          unfold StepInputs.scopedTo
          split <;> rfl

end SessionProgram

namespace WorkSession

/-- A call in place ends as the call does, and where it fails the session is as it was. -/
theorem run_inPlace
    (session : WorkSession)
    (call : SessionCall) :
    call.inPlace.run session =
      SessionProgram.ended session
        ((session.attempt call).map fun changed => (changed, ())) := by
  have withoutValue :
      ∀ {α : Type} (program : SessionProgram α)
        (outcome : Except Failure (WorkSession × α)),
        program.run session = SessionProgram.ended session outcome →
        (do let _ ← program : SessionProgram Unit).run session =
          SessionProgram.ended session
            ((outcome.map Prod.fst).map fun changed => (changed, ())) := by
    intro α program outcome ends
    rw [EStateM.run_bind, ends]
    cases outcome <;> rfl
  cases call with
  | enter entry =>
      exact SessionProgram.run_edit fun inputs => inputs.enter entry
  | clear =>
      exact SessionProgram.run_edit StepInputs.cleared
  | prepare key =>
      exact withoutValue _ _ (SessionProgram.run_prepare key)
  | confirm refreshed =>
      exact withoutValue _ _ (SessionProgram.run_confirm refreshed)
  | reject failure =>
      exact SessionProgram.run_reject failure
  | replaceTask refreshed =>
      exact SessionProgram.run_replaceTask refreshed

/-- The session that a call in place leaves behind, whether it succeeds or fails. -/
def performInPlace
    (session : WorkSession)
    (call : SessionCall) :
    WorkSession :=
  match call.inPlace.run session with
  | .ok _ left => left
  | .error _ left => left

theorem performInPlace_eq
    (session : WorkSession)
    (call : SessionCall) :
    session.performInPlace call = session.perform call := by
  rw [performInPlace, perform, run_inPlace]
  cases session.attempt call <;> rfl

/-- A run of calls in place is the run of the calls. -/
theorem foldl_performInPlace
    (session : WorkSession)
    (calls : List SessionCall) :
    calls.foldl performInPlace session = session.run calls := by
  induction calls generalizing session with
  | nil =>
      rfl
  | cons call rest inductionHypothesis =>
      rw [List.foldl_cons, performInPlace_eq, inductionHypothesis, run_cons]

/-- While a result is awaited, only a call that answers it is not refused at once. -/
theorem attempt_of_pending
    {session : WorkSession}
    {call : SessionCall}
    (pending : session.confirmation.isPending = true)
    (noAnswer : ¬ call.Answers) :
    session.attempt call =
      .error (.session (.awaitingConfirmation session.task.id)) := by
  have refused :
      session.requireSettled =
        .error (.session (.awaitingConfirmation session.task.id)) :=
    if_pos pending
  cases call with
  | enter entry =>
      rw [attempt, enter, editInputs, refused]
      rfl
  | clear =>
      rw [attempt, clear, editInputs, refused]
      rfl
  | prepare key =>
      rw [attempt, prepare, refused]
      rfl
  | confirm refreshed =>
      exact (noAnswer trivial).elim
  | reject failure =>
      exact (noAnswer trivial).elim
  | replaceTask refreshed =>
      rw [attempt, replaceTask, refused]
      rfl

theorem exists_pending_iff
    {confirmation : Confirmation} :
    (∃ request, confirmation = .pending request) ↔ confirmation.isPending = true := by
  cases confirmation <;> simp [Confirmation.isPending]

/-- A rejection succeeds where a result is awaited. -/
theorem attempt_reject_succeeds_iff
    {session : WorkSession}
    {failure : Failure} :
    (∃ changed, session.attempt (.reject failure) = .ok changed) ↔
      session.confirmation.isPending = true := by
  simp only [attempt, reject_eq_ok_iff, exists_comm (α := WorkSession), exists_and_left,
    exists_eq, and_true, exists_pending_iff]

/-- A confirmation succeeds where a result is awaited, with a copy of the same task. -/
theorem attempt_confirm_succeeds_iff
    {session : WorkSession}
    {refreshed : FieldTask} :
    (∃ changed, session.attempt (.confirm refreshed) = .ok changed) ↔
      session.confirmation.isPending = true ∧ refreshed.id = session.task.id := by
  constructor
  · rintro ⟨changed, succeeded⟩
    cases effect_of_attempt succeeded with
    | confirm awaited sameTask =>
        exact ⟨exists_pending_iff.mp ⟨_, awaited⟩, sameTask⟩
  · rintro ⟨pending, sameTask⟩
    obtain ⟨request, awaited⟩ := exists_pending_iff.mpr pending
    have confirmed :=
      confirm_eq_ok_iff.mpr ⟨request, awaited, sameTask, rfl, rfl⟩
    exact ⟨_, Except.map_eq_ok_iff.mpr ⟨_, confirmed, rfl⟩⟩

theorem attempt_confirm_of_otherTask
    {session : WorkSession}
    {request : CompletionRequest}
    {refreshed : FieldTask}
    (awaited : session.confirmation = .pending request)
    (otherTask : refreshed.id ≠ session.task.id) :
    session.attempt (.confirm refreshed) =
      .error (.session (.otherTask refreshed.id session.task.id)) := by
  rw [attempt, confirm, requirePending, awaited, requireSameTask, if_neg otherTask]
  rfl

/--
Whatever calls were made on a session in place, a call that fails leaves all of
it as it was.  While a result is awaited, every call fails with a conflict but
those that answer it: a rejection succeeds then and only then, and so does a
confirmation with a copy of the same task.  A copy of another task is invalid,
and the result stays awaited.
-/
theorem failed_calls_change_nothing
    (opened : WorkSession)
    (calls : List SessionCall) :
    let session := calls.foldl performInPlace opened
    session = opened.run calls ∧
      (∀ call changed,
        session.attempt call = .ok changed →
        call.inPlace.run session = .ok () changed) ∧
      (∀ call failure,
        session.attempt call = .error failure →
        call.inPlace.run session = .error failure session) ∧
      (∀ call : SessionCall,
        session.confirmation.isPending = true →
        ¬ call.Answers →
        ∃ failure,
          session.attempt call = .error failure ∧
            failure = .session (.awaitingConfirmation session.task.id) ∧
            failure.kind = .conflict) ∧
      (∀ failure,
        (∃ changed, session.attempt (.reject failure) = .ok changed) ↔
          session.confirmation.isPending = true) ∧
      (∀ refreshed,
        (∃ changed, session.attempt (.confirm refreshed) = .ok changed) ↔
          session.confirmation.isPending = true ∧ refreshed.id = session.task.id) ∧
      ∀ request refreshed,
        session.confirmation = .pending request →
        refreshed.id ≠ session.task.id →
        ∃ failure,
          session.attempt (.confirm refreshed) = .error failure ∧
            failure.kind = .validation ∧
            (session.performInPlace (.confirm refreshed)).confirmation =
              .pending request := by
  intro session
  refine ⟨foldl_performInPlace opened calls, ?_, ?_, ?_,
    fun _ => attempt_reject_succeeds_iff, fun _ => attempt_confirm_succeeds_iff, ?_⟩
  · intro call changed succeeded
    rw [run_inPlace, succeeded]
    rfl
  · intro call failure failed
    rw [run_inPlace, failed]
    rfl
  · intro call pending noAnswer
    exact ⟨_, attempt_of_pending pending noAnswer, rfl, rfl⟩
  · intro request refreshed awaited otherTask
    have refused := attempt_confirm_of_otherTask awaited otherTask
    refine ⟨_, refused, rfl, ?_⟩
    rw [performInPlace_eq, perform_of_error refused, awaited]

/-- The same reading, as the step of another task. -/
def otherReading : FieldTask :=
  { meterReading with id := 8 }

/-- A number is entered and submitted, and then another one is entered, which is refused. -/
def readAndChanged : List SessionCall :=
  [.enter (.number "12"), .prepare "first", .enter (.number "13")]

/--
After the refused entry the first number is still there and its result awaited,
which a copy of another task does not settle.
-/
theorem failed_calls_change_nothing_meter :
    let session := readAndChanged.foldl performInPlace (start meterReading)
    session.inputs.number = some "12" ∧
      session.confirmation.isPending = true ∧
      session.attempt (.confirm otherReading) = .error (.session (.otherTask 8 7)) ∧
      (SessionCall.confirm otherReading).inPlace.run session =
        .error (.session (.otherTask 8 7)) session := by
  intro session
  obtain ⟨_, _, unchanged, _⟩ := failed_calls_change_nothing (start meterReading) readAndChanged
  have refused :
      session.attempt (.confirm otherReading) = .error (.session (.otherTask 8 7)) :=
    rfl
  exact ⟨rfl, rfl, refused, unchanged _ _ refused⟩

end WorkSession

end Fieldwork
