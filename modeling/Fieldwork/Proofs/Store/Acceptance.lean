import Fieldwork.Proofs.Session.Keys
import Fieldwork.Proofs.Store.Completion

namespace Fieldwork

/-!
# Whether a store accepts what is prepared

Whether a completion can be made is decided twice: by the session, which
resolves the step in focus on its copy of the task, and by the store, which
moves the steps of its own copy.  Where the two copies are equal, the answers
differ in one case only.  A session lets a jump ahead pass over a step whose
status is not known, and the store cannot skip such a step.
-/

theorem Step.IsOpen.unresolved
    {step : Step}
    (isOpen : step.IsOpen) :
    step.status.isTerminal = false := by
  rcases isOpen with pending | started
  · rw [pending]
    rfl
  · rw [started]
    rfl

/-- A step that is neither final nor open has a status that is not known. -/
theorem Step.status_eq_unrecognized
    {step : Step}
    (unresolved : step.status.isTerminal = false)
    (notOpen : ¬ step.IsOpen) :
    step.status = .unrecognized := by
  unfold IsOpen at notOpen
  cases status : step.status <;> simp_all [StepStatus.isTerminal]

/-- Only a step that is not open refuses to be resolved, and it names the move that it forbids. -/
theorem Step.finish_error
    {step : Step}
    {status : StepStatus}
    {time : Timestamp}
    {performer : String}
    {fault : TaskFault}
    (final : status.isTerminal = true)
    (refused : step.finish status time performer = .error fault) :
    ¬ step.IsOpen ∧ fault = .forbiddenMove step.id step.status status := by
  rw [finish_eq final] at refused
  split at refused
  · cases refused
  · rename_i notOpen
    cases refused
    exact ⟨notOpen, rfl⟩

namespace FieldTask

/-- A task refuses new records because one of its steps refuses its own. -/
theorem error_of_withRecords?
    {ε : Type}
    {task : FieldTask}
    {record : Step → Except ε StepRecord}
    {fault : ε}
    (refused : task.withRecords? record = .error fault) :
    ∃ step ∈ task.steps, record step = .error fault := by
  have refusedList : newRecords? record task.steps = .error fault :=
    Except.map_eq_error_iff.mp refused
  generalize task.steps = steps at refusedList
  induction steps with
  | nil =>
      cases refusedList
  | cons head rest inductionHypothesis =>
      unfold newRecords? at refusedList
      cases headRecord : record head with
      | error headFault =>
          rw [headRecord] at refusedList
          cases refusedList
          exact ⟨head, by simp, headRecord⟩
      | ok kept =>
          cases restRecords : newRecords? record rest with
          | error restFault =>
              simp only [headRecord, restRecords] at refusedList
              cases refusedList
              obtain ⟨step, member, stepRecord⟩ := inductionHypothesis restRecords
              exact ⟨step, List.mem_cons_of_mem _ member, stepRecord⟩
          | ok updated =>
              simp [headRecord, restRecords] at refusedList

/-- Skipping is refused because of a step in between whose status is not known. -/
theorem skipBetween_error
    {task : FieldTask}
    {after before : Int32}
    {time : Timestamp}
    {performer : String}
    {fault : TaskFault}
    (refused : task.skipBetween after before time performer = .error fault) :
    ∃ step ∈ task.steps,
      after < step.order ∧ step.order < before ∧ step.status = .unrecognized ∧
        fault = .forbiddenMove step.id .unrecognized .skipped := by
  obtain ⟨step, member, stepRefused⟩ := error_of_withRecords? refused
  split at stepRefused
  · rename_i selected
    simp only [Bool.and_eq_true, decide_eq_true_eq, Bool.not_eq_true'] at selected
    obtain ⟨⟨behind, ahead⟩, unresolved⟩ := selected
    obtain ⟨notOpen, isFault⟩ := Step.finish_error rfl stepRefused
    have unknown := Step.status_eq_unrecognized unresolved notOpen
    rw [unknown] at isFault
    exact ⟨step, member, behind, ahead, unknown, isFault⟩
  · cases stepRefused

/--
Where an open step is resolved, a step behind it whose status is not known
cannot be skipped.
-/
theorem finishThenSkip_of_unknown
    {task : FieldTask}
    {after before : Int32}
    {status : StepStatus}
    {passed : Step}
    (final : status.isTerminal = true)
    (openAtFirst : ∀ step ∈ task.steps, step.order = after → step.IsOpen)
    (member : passed ∈ task.steps)
    (behind : after < passed.order)
    (ahead : passed.order < before)
    (unknown : passed.status = .unrecognized)
    (time : Timestamp)
    (performer : String) :
    ∃ step ∈ task.steps,
      step.status = .unrecognized ∧
        ((task.finishStep after status time performer).bind fun finished =>
          finished.skipBetween after before time performer) =
            .error (.forbiddenMove step.id .unrecognized .skipped) := by
  have finishes : task.finishStep after status time performer = .ok _ :=
    (finishStep_eq_ok_iff final).mpr ⟨openAtFirst, rfl⟩
  rw [finishes, Except.bind]
  cases skips :
      (task.withRecords fun step =>
        if step.order = after then ⟨status, some time, some performer⟩
        else step.record).skipBetween after before time performer with
  | ok updated =>
      obtain ⟨allOpen, _⟩ := skipBetween_eq_ok_iff.mp skips
      have passedOpen :=
        allOpen passed
          (mem_withRecords_iff.mpr ⟨passed, member, Step.withRecord_elsewhere behind⟩)
          ⟨behind, ahead, by rw [unknown]; rfl⟩
      simp [Step.IsOpen, unknown] at passedOpen
  | error fault =>
      obtain ⟨step, inFinished, isBehind, _, isUnknown, rfl⟩ := skipBetween_error skips
      obtain ⟨old, inTask, rfl⟩ := mem_withRecords_iff.mp inFinished
      rw [Step.order_withRecord] at isBehind
      rw [Step.withRecord_elsewhere isBehind] at isUnknown ⊢
      exact ⟨old, inTask, isUnknown, rfl⟩

end FieldTask

namespace CompletionRequest

variable {request : CompletionRequest} {task : FieldTask} {current : Step}
  {next : Option Step}

/-- A request jumps from its step over a later one whose status is not known. -/
def PassesUnknown
    (request : CompletionRequest)
    (task : FieldTask) :
    Prop :=
  ∃ current ∈ task.steps, ∃ passed ∈ task.steps, ∃ order,
    current.id = request.step ∧
      request.action = .jump order ∧
      current.order < passed.order ∧ passed.order < order ∧
      passed.status = .unrecognized

/-- A request for an open step that leads on is permitted unless it passes an unknown step. -/
theorem permitted_iff_of_leads
    (member : current ∈ task.steps)
    (concerns : current.id = request.step)
    (isOpen : current.IsOpen)
    (leads : task.target current request.action = .ok next) :
    request.Permitted task current ↔ ¬ request.PassesUnknown task := by
  have onlyCurrent :
      ∀ other ∈ task.steps, other.id = request.step → other = current :=
    fun other inTask sameId =>
      FieldTask.eq_of_id_eq inTask member (sameId.trans concerns.symm)
  unfold Permitted PassesUnknown
  cases action : request.action with
  | advance =>
      simp [isOpen]
  | again =>
      simp
  | jump order =>
      rw [action] at leads
      obtain ⟨target, inTask, atOrder, _⟩ := FieldTask.target_jump_eq_ok_iff.mp leads
      simp only [isOpen, true_and]
      constructor
      · rintro ⟨_, allOpen⟩ ⟨other, otherInTask, passed, passedInTask, _, sameId, ⟨⟩,
          behind, ahead, unknown⟩
        obtain rfl := onlyCurrent other otherInTask sameId
        have passedOpen :=
          allOpen (by grind) passed passedInTask
            ⟨behind, ahead, by rw [unknown]; rfl⟩
        simp [Step.IsOpen, unknown] at passedOpen
      · intro nonePassed
        refine ⟨⟨target, inTask, atOrder⟩, fun _ step inSteps lies => ?_⟩
        by_contra notOpen
        exact nonePassed ⟨current, member, step, inSteps, order, concerns, rfl, lies.1,
          lies.2.1, Step.status_eq_unrecognized lies.2.2 notOpen⟩

/-- A request that passes an unknown step is refused, because the step cannot be skipped. -/
theorem applyTo_of_passesUnknown
    (member : current ∈ task.steps)
    (concerns : current.id = request.step)
    (isOpen : current.IsOpen)
    (leads : task.target current request.action = .ok next)
    (passes : request.PassesUnknown task)
    (time : Timestamp)
    (performer : String) :
    ∃ passed ∈ task.steps,
      passed.status = .unrecognized ∧
        request.applyTo task time performer =
          .error (.task (.forbiddenMove passed.id .unrecognized .skipped)) := by
  obtain ⟨other, otherInTask, passed, inTask, order, sameId, action, behind, ahead,
    unknown⟩ := passes
  obtain rfl :=
    FieldTask.eq_of_id_eq otherInTask member (sameId.trans concerns.symm)
  rw [action] at leads
  obtain ⟨target, targetInTask, atOrder, _⟩ := FieldTask.target_jump_eq_ok_iff.mp leads
  have targeted : task.stepAt? order = some target :=
    FieldTask.stepAt?_eq_some_iff.mpr ⟨targetInTask, atOrder⟩
  have notBack : ¬ order ≤ other.order := by grind
  obtain ⟨step, stepInTask, stepUnknown, refused⟩ :=
    FieldTask.finishThenSkip_of_unknown request.outcomeStatus_isTerminal
      ((forall_order_eq_iff member).mpr isOpen) inTask behind ahead unknown time performer
  refine ⟨step, stepInTask, stepUnknown, ?_⟩
  have found : task.step? request.step = some other :=
    FieldTask.step?_eq_some_iff.mpr ⟨member, concerns⟩
  simp only [applyTo, found, isOpen.unresolved, Bool.false_eq_true, ↓reduceIte, actOn,
    action, targeted, Option.isNone_some, notBack, refused]
  rfl

end CompletionRequest

namespace WorkSession

/-- The step in focus is open. -/
theorem isOpen_of_activeStep?
    {task : FieldTask}
    {step : Step}
    (focus : task.activeStep? = some step) :
    step.IsOpen := by
  rcases FieldTask.activeStep?_cases focus with ⟨pending, _⟩ | ⟨started, _⟩
  · exact .inl pending
  · exact .inr started

/--
What a session prepares that works on the task as the store holds it, the store
accepts under a new key, whatever the statuses of the steps, unless it is a jump
ahead over a step whose status is not known.  Such a jump is refused with a
conflict.
-/
theorem up_to_date_completion_accepted
    {task : FieldTask}
    {calls : List SessionCall}
    {session pending : WorkSession}
    {store : TaskStore}
    {request : CompletionRequest}
    {key : String}
    (reached : session = (start task).run calls)
    (upToDate : store.task? session.task.id = some session.task)
    (prepared : session.prepare key = .ok (pending, request))
    (unapplied : request.key ∉ store.keys)
    (time : Timestamp) :
    (¬ request.PassesUnknown session.task →
        ∃ updated, store.complete request time = .ok updated) ∧
      (request.PassesUnknown session.task →
        ∃ passed ∈ session.task.steps,
          passed.status = .unrecognized ∧
            store.complete request time =
              .error (.task (.forbiddenMove passed.id .unrecognized .skipped))) := by
  have inStep : session.InStep task.id := reached ▸ (InStep.start task).run calls
  obtain ⟨current, outcome, focus, resolved, addressed, sameStep, sameAction, _⟩ :=
    carries_of_prepare inStep prepared
  have member := FieldTask.mem_of_activeStep? focus
  have isOpen := isOpen_of_activeStep? focus
  have concerns : current.id = request.step :=
    (FieldTask.step_of_resolve resolved).symm.trans sameStep.symm
  obtain ⟨next, leads⟩ := FieldTask.target_of_resolve resolved
  rw [← sameAction] at leads
  have found : store.task? request.task = some session.task := by
    rw [addressed, upToDate]
  constructor
  · intro nonePassed
    have permitted :=
      (CompletionRequest.permitted_iff_of_leads member concerns isOpen leads).mpr nonePassed
    have applied : request.applyTo session.task time store.performer = .ok _ :=
      CompletionRequest.applyTo_eq_ok_iff.mpr
        ⟨current, member, concerns, isOpen.unresolved, permitted, rfl⟩
    exact ⟨_, TaskStore.complete_eq_ok_iff.mpr
      (.inr ⟨unapplied, _, _, found, applied, rfl⟩)⟩
  · intro passes
    obtain ⟨passed, inTask, unknown, refused⟩ :=
      CompletionRequest.applyTo_of_passesUnknown member concerns isOpen leads passes time
        store.performer
    refine ⟨passed, inTask, unknown, ?_⟩
    simp [TaskStore.complete, unapplied, found, refused, Except.map]

/-- Three steps, the first of which jumps to the last, with a status for the one between. -/
def shortcut
    (between : StepStatus) :
    FieldTask where
  id := 7
  templateId := none
  steps := [
    ⟨⟨11, none, "Look in", 1, true, false, .none, [⟨"empty", "", .jump (some 3), by decide⟩],
      by decide, by simp⟩, {}⟩,
    (Step.plain 12 2 "Repair" (by decide)).withRecord { status := between },
    Step.plain 13 3 "Lock up" (by decide)]
  percentage := .zero
  wellOrdered := by simp [WellOrdered, Step.plain, Step.withRecord]

/-- The session in which the shortcut is selected. -/
def shortcutSession
    (between : StepStatus) :
    WorkSession :=
  (start (shortcut between)).run [.enter (.select "empty")]

/-- The request for the shortcut. -/
def shortcutRequest : CompletionRequest :=
  ⟨7, 11, FieldValues.empty.insert selectedName (.string "empty"), .jump 3, "first"⟩

def shortcutTime : Timestamp :=
  ⟨⟨2024, 1, 1⟩, 43200, 0⟩

/-- The shortcut over a step in progress is accepted. -/
theorem up_to_date_completion_accepted_shortcut :
    let session := shortcutSession .inProgress
    let store := TaskStore.ofTasks [shortcut .inProgress] "Ada"
    store.task? session.task.id = some session.task ∧
      session.prepare "first" =
        .ok ({ session with confirmation := .pending shortcutRequest }, shortcutRequest) ∧
      shortcutRequest.key ∉ store.keys ∧
      ¬ shortcutRequest.PassesUnknown session.task ∧
      ∃ updated, store.complete shortcutRequest shortcutTime = .ok updated := by
  intro session store
  have upToDate : store.task? session.task.id = some session.task := rfl
  have prepared :
      session.prepare "first" =
        .ok ({ session with confirmation := .pending shortcutRequest }, shortcutRequest) :=
    rfl
  have unapplied : shortcutRequest.key ∉ store.keys := by decide
  have nonePassed : ¬ shortcutRequest.PassesUnknown session.task := by
    rintro ⟨_, _, passed, inTask, _, _, _, _, _, unknown⟩
    have known : ∀ step ∈ session.task.steps, step.status ≠ .unrecognized := by decide
    exact known passed inTask unknown
  exact ⟨upToDate, prepared, unapplied, nonePassed,
    (up_to_date_completion_accepted rfl upToDate prepared unapplied shortcutTime).1
      nonePassed⟩

/--
Not all that an up-to-date session prepares is accepted: the shortcut over a step
whose status is not known is prepared, and the store refuses it.
-/
theorem shortcut_over_unknown_refused :
    let session := shortcutSession .unrecognized
    let store := TaskStore.ofTasks [shortcut .unrecognized] "Ada"
    store.task? session.task.id = some session.task ∧
      session.prepare "first" =
        .ok ({ session with confirmation := .pending shortcutRequest }, shortcutRequest) ∧
      shortcutRequest.key ∉ store.keys ∧
      ∀ updated, store.complete shortcutRequest shortcutTime ≠ .ok updated := by
  refine ⟨rfl, rfl, by decide, ?_⟩
  have refused :
      (TaskStore.ofTasks [shortcut .unrecognized] "Ada").complete shortcutRequest
          shortcutTime =
        .error (.task (.forbiddenMove 12 .unrecognized .skipped)) :=
    rfl
  simp [refused]

end WorkSession

end Fieldwork
