import Fieldwork.Proofs.Except
import Fieldwork.Workflow.Session

namespace Fieldwork

/-!
# Calls on a session

The operations that may change a session are made data here, so that whole
runs of them can be quantified over.  Each operation gets one lemma that says
when it succeeds and what it leaves behind; nothing beyond this module opens
the operations again.
-/

/-- A call on a session that may change it. -/
inductive SessionCall where
  | enter (entry : StepInputs.Entry)
  | clear
  /-- The key is the one that is drawn where a new one is needed. -/
  | prepare (key : String)
  | confirm (refreshed : FieldTask)
  | reject (failure : Failure)
  | replaceTask (refreshed : FieldTask)

namespace WorkSession

/-- The session that a call leaves behind where it succeeds. -/
def attempt
    (session : WorkSession) :
    SessionCall →
    Except Failure WorkSession
  | .enter entry => session.enter entry
  | .clear => session.clear
  | .prepare key => (session.prepare key).map Prod.fst
  | .confirm refreshed => (session.confirm refreshed).map Prod.fst
  | .reject failure => session.reject failure
  | .replaceTask refreshed => session.replaceTask refreshed

/-- The session after a call, which is the one before it where the call fails. -/
def perform
    (session : WorkSession)
    (call : SessionCall) :
    WorkSession :=
  match session.attempt call with
  | .ok changed => changed
  | .error _ => session

/-- The session after a run of calls. -/
def run
    (session : WorkSession)
    (calls : List SessionCall) :
    WorkSession :=
  calls.foldl perform session

@[simp] theorem run_nil
    (session : WorkSession) :
    session.run [] = session :=
  rfl

@[simp] theorem run_cons
    (session : WorkSession)
    (call : SessionCall)
    (calls : List SessionCall) :
    session.run (call :: calls) = (session.perform call).run calls :=
  rfl

theorem run_append
    (session : WorkSession)
    (earlier later : List SessionCall) :
    session.run (earlier ++ later) = (session.run earlier).run later := by
  simp [run]

theorem perform_of_ok
    {session changed : WorkSession}
    {call : SessionCall}
    (succeeded : session.attempt call = .ok changed) :
    session.perform call = changed := by
  simp [perform, succeeded]

theorem perform_of_error
    {session : WorkSession}
    {call : SessionCall}
    {failure : Failure}
    (failed : session.attempt call = .error failure) :
    session.perform call = session := by
  simp [perform, failed]

/-- What a session resolves to at present, or why it does not. -/
def resolution
    (session : WorkSession) :
    Except Failure ResolvedOutcome := do
  session.requireSettled
  let step ← session.requireActive
  (session.task.resolve step session.inputs).mapError .outcome

/-- The request for an outcome under a key of its own. -/
def freshRequest
    (session : WorkSession)
    (outcome : ResolvedOutcome)
    (key : String) :
    CompletionRequest :=
  ⟨session.task.id, outcome.step, outcome.fieldValues, outcome.action, key⟩

/-- Whether the session holds a failed request that already says what an outcome says. -/
def repeats
    (session : WorkSession)
    (outcome : ResolvedOutcome) :
    Bool :=
  match session.confirmation with
  | .failed request _ => request.covers outcome
  | _ => false

/-- A request that is made again is the failed one. -/
theorem failed_of_repeats
    {session : WorkSession}
    {outcome : ResolvedOutcome}
    (again : session.repeats outcome = true)
    (key : String) :
    ∃ failure,
      session.confirmation = .failed (session.requestFor outcome key) failure ∧
        (session.requestFor outcome key).covers outcome = true := by
  unfold repeats at again
  unfold requestFor
  cases known : session.confirmation with
  | idle =>
      simp [known] at again
  | pending request =>
      simp [known] at again
  | failed request failure =>
      simp only [known] at again
      simp [again]

theorem requestFor_of_not_repeats
    {session : WorkSession}
    {outcome : ResolvedOutcome}
    (anew : session.repeats outcome = false)
    (key : String) :
    session.requestFor outcome key = session.freshRequest outcome key := by
  unfold repeats at anew
  unfold requestFor freshRequest
  cases known : session.confirmation with
  | idle =>
      rfl
  | pending request =>
      rfl
  | failed request failure =>
      simp only [known] at anew
      simp [anew]

/-- Editing the inputs needs a settled session with a step in focus. -/
theorem editInputs_eq_ok_iff
    {session changed : WorkSession}
    {change : StepInputs → StepInputs} :
    session.editInputs change = .ok changed ↔
      session.confirmation.isPending = false ∧
        (∃ step, session.activeStep? = some step) ∧
        changed = { session with inputs := change session.inputs } := by
  unfold editInputs requireSettled requireActive
  cases session.confirmation.isPending <;> cases session.activeStep? <;>
    simp [bind, Except.bind, pure, Except.pure, eq_comm]

/-- A session resolves where it is settled and its step in focus resolves. -/
theorem resolution_eq_ok_iff
    {session : WorkSession}
    {outcome : ResolvedOutcome} :
    session.resolution = .ok outcome ↔
      session.confirmation.isPending = false ∧
        ∃ step, session.activeStep? = some step ∧
          session.task.resolve step session.inputs = .ok outcome := by
  unfold resolution requireSettled requireActive
  cases session.confirmation.isPending <;> cases session.activeStep? <;>
    simp [bind, Except.bind, Except.mapError_eq_ok_iff]

/-- Preparing a completion is resolving and then holding the request for it. -/
theorem prepare_eq
    (session : WorkSession)
    (key : String) :
    session.prepare key =
      session.resolution.map fun outcome =>
        ({ session with confirmation := .pending (session.requestFor outcome key) },
          session.requestFor outcome key) := by
  unfold prepare resolution requireSettled requireActive
  cases session.confirmation.isPending <;> cases session.activeStep? <;>
    simp [bind, Except.bind, Except.map, pure, Except.pure, throw, throwThe,
      MonadExceptOf.throw]
  split <;> simp_all

/-- A prepared request is the one for what the session resolves to. -/
theorem prepare_eq_ok_iff
    {session pending : WorkSession}
    {request : CompletionRequest}
    {key : String} :
    session.prepare key = .ok (pending, request) ↔
      ∃ outcome, session.resolution = .ok outcome ∧
        request = session.requestFor outcome key ∧
        pending = { session with confirmation := .pending request } := by
  rw [prepare_eq]
  cases session.resolution with
  | error failure =>
      simp [Except.map]
  | ok outcome =>
      simp only [Except.map, Except.ok.injEq, Prod.mk.injEq, exists_eq_left']
      constructor
      · rintro ⟨rfl, rfl⟩
        exact ⟨rfl, rfl⟩
      · rintro ⟨rfl, rfl⟩
        exact ⟨rfl, rfl⟩

/-- Where nothing is left of earlier completions, a request is made anew. -/
theorem prepare_of_idle
    {session pending : WorkSession}
    {request : CompletionRequest}
    {key : String}
    (idle : session.confirmation = .idle)
    (prepared : session.prepare key = .ok (pending, request)) :
    ∃ step outcome,
      session.activeStep? = some step ∧
        session.task.resolve step session.inputs = .ok outcome ∧
        request = session.freshRequest outcome key ∧
        pending = { session with confirmation := .pending request } := by
  obtain ⟨outcome, resolved, isRequest, isPending⟩ := prepare_eq_ok_iff.mp prepared
  obtain ⟨_, step, focus, outcomeOfStep⟩ := resolution_eq_ok_iff.mp resolved
  have anew : session.repeats outcome = false := by
    simp [repeats, idle]
  rw [requestFor_of_not_repeats anew key] at isRequest
  exact ⟨step, outcome, focus, outcomeOfStep, isRequest, isPending⟩

theorem confirm_eq_ok_iff
    {session confirmed : WorkSession}
    {refreshed : FieldTask}
    {transition : StepTransition} :
    session.confirm refreshed = .ok (confirmed, transition) ↔
      ∃ request, session.confirmation = .pending request ∧
        refreshed.id = session.task.id ∧
        confirmed = start refreshed ∧
        transition = ⟨request.step, activeId refreshed, refreshed.progress⟩ := by
  unfold confirm requirePending requireSameTask
  cases session.confirmation <;> by_cases same : refreshed.id = session.task.id <;>
    simp [same, bind, Except.bind, pure, Except.pure, eq_comm]

theorem reject_eq_ok_iff
    {session rejected : WorkSession}
    {failure : Failure} :
    session.reject failure = .ok rejected ↔
      ∃ request, session.confirmation = .pending request ∧
        rejected = { session with confirmation := .failed request failure } := by
  unfold reject requirePending
  cases session.confirmation <;>
    simp [bind, Except.bind, pure, Except.pure, eq_comm]

/--
A settled session takes a fresh copy of its task.  Where the step in focus is
another one, it starts anew on the copy.
-/
theorem replaceTask_eq_ok_iff
    {session replaced : WorkSession}
    {refreshed : FieldTask} :
    session.replaceTask refreshed = .ok replaced ↔
      session.confirmation.isPending = false ∧
        refreshed.id = session.task.id ∧
        replaced =
          if session.inputs.step = activeId refreshed then
            { session with task := refreshed }
          else
            start refreshed := by
  unfold replaceTask requireSettled requireSameTask start StepInputs.scopedTo
  cases session.confirmation.isPending <;>
    by_cases same : refreshed.id = session.task.id <;>
    by_cases kept : session.inputs.step = activeId refreshed <;>
    simp [same, kept, bind, Except.bind, pure, Except.pure, eq_comm]

/-- What a call that succeeds leaves behind, and when it does. -/
inductive Effect
    (session : WorkSession) :
    SessionCall →
    WorkSession →
    Prop where
  | enter
      {entry : StepInputs.Entry}
      {step : Step}
      (settled : session.confirmation.isPending = false)
      (focus : session.activeStep? = some step) :
      Effect session (.enter entry)
        { session with inputs := session.inputs.enter entry }
  | clear
      {step : Step}
      (settled : session.confirmation.isPending = false)
      (focus : session.activeStep? = some step) :
      Effect session .clear { session with inputs := session.inputs.cleared }
  | prepare
      {key : String}
      {outcome : ResolvedOutcome}
      (resolved : session.resolution = .ok outcome) :
      Effect session (.prepare key)
        { session with confirmation := .pending (session.requestFor outcome key) }
  | confirm
      {request : CompletionRequest}
      {refreshed : FieldTask}
      (awaited : session.confirmation = .pending request)
      (sameTask : refreshed.id = session.task.id) :
      Effect session (.confirm refreshed) (start refreshed)
  | reject
      {request : CompletionRequest}
      {failure : Failure}
      (awaited : session.confirmation = .pending request) :
      Effect session (.reject failure)
        { session with confirmation := .failed request failure }
  | keepFocus
      {refreshed : FieldTask}
      (settled : session.confirmation.isPending = false)
      (sameTask : refreshed.id = session.task.id)
      (sameStep : session.inputs.step = activeId refreshed) :
      Effect session (.replaceTask refreshed) { session with task := refreshed }
  | moveFocus
      {refreshed : FieldTask}
      (settled : session.confirmation.isPending = false)
      (sameTask : refreshed.id = session.task.id)
      (otherStep : session.inputs.step ≠ activeId refreshed) :
      Effect session (.replaceTask refreshed) (start refreshed)

/-- A call that succeeds has one of the effects above. -/
theorem effect_of_attempt
    {session changed : WorkSession}
    {call : SessionCall}
    (succeeded : session.attempt call = .ok changed) :
    Effect session call changed := by
  cases call with
  | enter entry =>
      unfold attempt enter at succeeded
      obtain ⟨settled, ⟨step, focus⟩, rfl⟩ := editInputs_eq_ok_iff.mp succeeded
      exact .enter settled focus
  | clear =>
      unfold attempt clear at succeeded
      obtain ⟨settled, ⟨step, focus⟩, rfl⟩ := editInputs_eq_ok_iff.mp succeeded
      exact .clear settled focus
  | prepare key =>
      obtain ⟨⟨pending, request⟩, prepared, rfl⟩ := Except.map_eq_ok_iff.mp succeeded
      obtain ⟨outcome, resolved, rfl, rfl⟩ := prepare_eq_ok_iff.mp prepared
      exact .prepare resolved
  | confirm refreshed =>
      obtain ⟨⟨confirmed, transition⟩, done, rfl⟩ := Except.map_eq_ok_iff.mp succeeded
      obtain ⟨request, awaited, sameTask, rfl, rfl⟩ := confirm_eq_ok_iff.mp done
      exact .confirm awaited sameTask
  | reject failure =>
      obtain ⟨request, awaited, rfl⟩ := reject_eq_ok_iff.mp succeeded
      exact .reject awaited
  | replaceTask refreshed =>
      obtain ⟨settled, sameTask, rfl⟩ := replaceTask_eq_ok_iff.mp succeeded
      split
      · rename_i sameStep
        exact .keepFocus settled sameTask sameStep
      · rename_i otherStep
        exact .moveFocus settled sameTask otherStep

end WorkSession

end Fieldwork
