import Fieldwork.Proofs.Session.Calls
import Fieldwork.Proofs.Task.Resolving

namespace Fieldwork.WorkSession

/-!
# What a session keeps in step

The task, the inputs and the held request of a session change in different
calls and yet stay in step: the inputs are for the step in focus, and the
request names the task of the session and that step.  The step in focus is
never stored; it is read off the task again after every change.
-/

/-- The parts of a session on a task fit together. -/
structure InStep
    (opened : Int64)
    (session : WorkSession) :
    Prop where
  sameTask :
    session.task.id = opened
  inputsForFocus :
    session.inputs.step = activeId session.task
  blankWithoutFocus :
    activeId session.task = none →
      session.inputs.isBlank = true
  requestForFocus :
    ∀ request,
      session.confirmation.request? = some request →
      request.task = opened ∧ some request.step = activeId session.task

theorem activeId_of_activeStep?
    {task : FieldTask}
    {step : Step}
    (focus : task.activeStep? = some step) :
    activeId task = some step.id := by
  simp [activeId, focus]

/-- The step in focus is told by its identifier. -/
theorem activeId_eq_some_iff
    {task : FieldTask}
    {step : Step}
    (member : step ∈ task.steps) :
    activeId task = some step.id ↔ task.activeStep? = some step := by
  constructor
  · intro sameId
    obtain ⟨active, focus, same⟩ := Option.map_eq_some_iff.mp sameId
    rw [focus, FieldTask.eq_of_id_eq (FieldTask.mem_of_activeStep? focus) member same]
  · exact activeId_of_activeStep?

/-- An outcome that a session resolves to belongs to its step in focus. -/
theorem activeId_of_resolution
    {session : WorkSession}
    {outcome : ResolvedOutcome}
    (resolved : session.resolution = .ok outcome) :
    activeId session.task = some outcome.step := by
  obtain ⟨_, step, focus, outcomeOfStep⟩ := resolution_eq_ok_iff.mp resolved
  rw [activeId_of_activeStep? focus, FieldTask.step_of_resolve outcomeOfStep]

namespace InStep

variable {opened : Int64} {session changed : WorkSession}

theorem start
    (task : FieldTask) :
    InStep task.id (WorkSession.start task) where
  sameTask := rfl
  inputsForFocus := rfl
  blankWithoutFocus := fun _ => rfl
  requestForFocus := by
    intro request held
    cases held

theorem withInputs
    (inStep : InStep opened session)
    {inputs : StepInputs}
    {step : Step}
    (focus : session.activeStep? = some step)
    (sameScope : inputs.step = session.inputs.step) :
    InStep opened { session with inputs := inputs } where
  sameTask := inStep.sameTask
  inputsForFocus := sameScope.trans inStep.inputsForFocus
  blankWithoutFocus := by
    intro noFocus
    rw [activeId_of_activeStep? focus] at noFocus
    cases noFocus
  requestForFocus := inStep.requestForFocus

/-- What is known about a completion may change where its request is in step. -/
theorem withConfirmation
    (inStep : InStep opened session)
    {confirmation : Confirmation}
    (requestInStep :
      ∀ request,
        confirmation.request? = some request →
        request.task = opened ∧ some request.step = activeId session.task) :
    InStep opened { session with confirmation := confirmation } where
  sameTask := inStep.sameTask
  inputsForFocus := inStep.inputsForFocus
  blankWithoutFocus := inStep.blankWithoutFocus
  requestForFocus := requestInStep

theorem requestFor
    (inStep : InStep opened session)
    {outcome : ResolvedOutcome}
    (resolved : session.resolution = .ok outcome)
    (key : String) :
    (session.requestFor outcome key).task = opened ∧
      some (session.requestFor outcome key).step = activeId session.task := by
  cases again : session.repeats outcome with
  | true =>
      obtain ⟨failure, failed, _⟩ := failed_of_repeats again key
      exact inStep.requestForFocus _ (by rw [failed]; rfl)
  | false =>
      rw [requestFor_of_not_repeats again key]
      exact ⟨inStep.sameTask, (activeId_of_resolution resolved).symm⟩

/-- Every call that succeeds keeps a session in step. -/
theorem effect
    {call : SessionCall}
    (inStep : InStep opened session)
    (changes : Effect session call changed) :
    InStep opened changed := by
  cases changes with
  | @enter entry step settled focus =>
      refine inStep.withInputs focus ?_
      cases entry <;> rfl
  | clear settled focus =>
      exact inStep.withInputs focus rfl
  | @prepare key outcome resolved =>
      refine inStep.withConfirmation ?_
      rintro request held
      cases held
      exact inStep.requestFor resolved key
  | confirm awaited sameTask =>
      have opens := start ‹FieldTask›
      rwa [sameTask, inStep.sameTask] at opens
  | @reject awaitedRequest failure awaited =>
      refine inStep.withConfirmation ?_
      rintro request held
      cases held
      exact inStep.requestForFocus _ (by rw [awaited]; rfl)
  | @keepFocus refreshed settled sameTask sameStep =>
      have sameFocus : activeId refreshed = activeId session.task :=
        sameStep.symm.trans inStep.inputsForFocus
      exact {
        sameTask := sameTask.trans inStep.sameTask
        inputsForFocus := sameStep
        blankWithoutFocus := by
          intro noFocus
          exact inStep.blankWithoutFocus (sameFocus.symm.trans noFocus)
        requestForFocus := by
          intro request held
          rw [sameFocus]
          exact inStep.requestForFocus request held }
  | moveFocus settled sameTask otherStep =>
      have opens := start ‹FieldTask›
      rwa [sameTask, inStep.sameTask] at opens

theorem perform
    (inStep : InStep opened session)
    (call : SessionCall) :
    InStep opened (session.perform call) := by
  cases attempted : session.attempt call with
  | error failure =>
      rwa [perform_of_error attempted]
  | ok changed =>
      rw [perform_of_ok attempted]
      exact inStep.effect (effect_of_attempt attempted)

/-- Every run keeps a session in step. -/
theorem run
    (inStep : InStep opened session)
    (calls : List SessionCall) :
    InStep opened (session.run calls) := by
  induction calls generalizing session with
  | nil =>
      exact inStep
  | cons call rest inductionHypothesis =>
      exact inductionHypothesis (inStep.perform call)

/--
A session in step does not resolve for three reasons only: a result is
awaited, no step is in focus, or the step in focus is refused for a reason
that concerns it.
-/
theorem resolution_error
    (inStep : InStep opened session)
    {failure : Failure}
    (failed : session.resolution = .error failure) :
    failure = .session (.awaitingConfirmation opened) ∨
      failure = .session (.noActiveStep opened) ∨
      ∃ fault : OutcomeFault, failure = .outcome fault ∧ fault.ConcernsStep := by
  unfold resolution requireSettled requireActive at failed
  rw [inStep.sameTask] at failed
  cases pending : session.confirmation.isPending with
  | true =>
      rw [pending] at failed
      exact .inl (Except.error.inj failed).symm
  | false =>
      rw [pending] at failed
      cases focus : session.activeStep? with
      | none =>
          rw [focus] at failed
          exact .inr (.inl (Except.error.inj failed).symm)
      | some step =>
          rw [focus] at failed
          obtain ⟨fault, refused, rfl⟩ := Except.mapError_eq_error_iff.mp failed
          refine .inr (.inr ⟨fault, rfl, ?_⟩)
          refine FieldTask.resolve_error ⟨step, FieldTask.mem_of_activeStep? focus, rfl⟩ ?_ refused
          intro owner owned
          have scope := inStep.inputsForFocus
          rw [activeId_of_activeStep? focus] at scope
          rw [scope] at owned
          exact (Option.some.inj owned).symm

/-- A completion that cannot be prepared fails for a reason of the same kinds. -/
theorem prepare_error
    (inStep : InStep opened session)
    {key : String}
    {failure : Failure}
    (failed : session.prepare key = .error failure) :
    failure = .session (.awaitingConfirmation opened) ∨
      failure = .session (.noActiveStep opened) ∨
      ∃ fault : OutcomeFault, failure = .outcome fault ∧ fault.ConcernsStep := by
  rw [prepare_eq, Except.map_eq_error_iff] at failed
  exact inStep.resolution_error failed

end InStep

/--
Every run keeps the session in step, so that a completion which cannot be
prepared is never refused for a step outside the task or for inputs of another
step.
-/
theorem every_run_in_step
    (task : FieldTask)
    (calls : List SessionCall) :
    InStep task.id ((start task).run calls) ∧
      ∀ key failure,
        ((start task).run calls).prepare key = .error failure →
        failure.kind ≠ .notFound ∧
          ∀ step, failure ≠ .outcome (.foreignInputs step) := by
  have inStep := (InStep.start task).run calls
  refine ⟨inStep, ?_⟩
  intro key failure failed
  rcases inStep.prepare_error failed with rfl | rfl | ⟨fault, rfl, concerns⟩
  · exact ⟨by simp [Failure.kind, SessionFault.kind], by simp⟩
  · exact ⟨by simp [Failure.kind, SessionFault.kind], by simp⟩
  · constructor
    · rcases concerns with validation | configuration
      · simp [Failure.kind, validation]
      · simp [Failure.kind, configuration]
    · rintro step same
      cases same
      rcases concerns with validation | configuration
      · cases validation
      · cases configuration

/-- A task with one step, which asks for a number. -/
def meterReading : FieldTask where
  id := 7
  templateId := none
  steps := [⟨⟨1, none, "Read the meter", 1, true, false, .number, [],
    by decide, by decide⟩, {}⟩]
  percentage := .zero
  wellOrdered := by simp [WellOrdered]

/-- A word in the place of the number is refused, and for no foreign reason. -/
theorem every_run_in_step_word :
    ((start meterReading).run [.enter (.number "ten")]).prepare "first" =
        .error (.outcome (.notNumeric "Read the meter" "ten")) ∧
      (Failure.outcome (.notNumeric "Read the meter" "ten")).kind ≠ .notFound := by
  have refused :
      ((start meterReading).run [.enter (.number "ten")]).prepare "first" =
        .error (.outcome (.notNumeric "Read the meter" "ten")) :=
    rfl
  exact ⟨refused, ((every_run_in_step meterReading [.enter (.number "ten")]).2
    "first" _ refused).1⟩

end Fieldwork.WorkSession
