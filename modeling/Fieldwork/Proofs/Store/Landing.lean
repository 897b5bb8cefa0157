import Fieldwork.Proofs.Store.Acceptance

namespace Fieldwork

/-!
# Where a re-entry lands

Nothing before the step in focus is pending, in both of the ways in which a step
comes into focus.  So a completion that sets the steps from some step up to the
one in focus back to pending brings the first of them into focus, whatever the
statuses of all steps were.
-/

namespace FieldTask

variable {task : FieldTask} {current target : Step}

theorem not_pending_of_before_focus
    {step : Step}
    (focus : task.activeStep? = some current)
    (member : step ∈ task.steps)
    (before : step.order < current.order) :
    step.status ≠ .pending := by
  rcases activeStep?_cases focus with ⟨_, noneBefore⟩ | ⟨_, nonePending, _⟩
  · exact noneBefore step member before
  · exact nonePending step member

/-- With new records, the first step that is pending by its own comes into focus. -/
theorem activeStep?_withRecords_of_pending
    {record : Step → StepRecord}
    (member : target ∈ task.steps)
    (pending : (record target).status = .pending)
    (least :
      ∀ step ∈ task.steps, step.order < target.order →
        (record step).status ≠ .pending) :
    (task.withRecords record).activeStep? = some (target.withRecord (record target)) := by
  refine activeStep?_of_pending (mem_withRecords_iff.mpr ⟨target, member, rfl⟩) pending ?_
  intro _ inNew before
  obtain ⟨step, inTask, rfl⟩ := mem_withRecords_iff.mp inNew
  exact least step inTask before

end FieldTask

namespace CompletionRequest

variable {request : CompletionRequest} {task : FieldTask} {current target : Step}
  {time : Timestamp} {performer : String}

/-- A request has its step done again, or jumps from it to one that is not above it. -/
inductive GoesBack
    (request : CompletionRequest)
    (current : Step) :
    Step →
    Prop
  | again
      (action : request.action = .again) :
      GoesBack request current current
  | jump {target : Step}
      (action : request.action = .jump target.order)
      (notAbove : target.order ≤ current.order) :
      GoesBack request current target

/-- Both ways of going back set the steps from the target up to the present one to pending. -/
theorem newRecord_of_goesBack
    (goesBack : request.GoesBack current target)
    (step : Step) :
    request.newRecord current time performer step =
      if target.order ≤ step.order ∧ step.order ≤ current.order then Step.reopened
      else step.record := by
  cases goesBack with
  | again action =>
      have onlyThere :
          current.order ≤ step.order ∧ step.order ≤ current.order ↔
            step.order = current.order := by
        grind
      simp only [newRecord, action, onlyThere]
  | jump action notAbove =>
      simp only [newRecord, action, if_pos notAbove]

theorem permitted_of_goesBack
    (member : target ∈ task.steps)
    (goesBack : request.GoesBack current target) :
    request.Permitted task current := by
  unfold Permitted
  cases goesBack with
  | again action =>
      rw [action]
      trivial
  | jump action notAbove =>
      rw [action]
      refine ⟨⟨target, member, rfl⟩, fun ahead => ?_⟩
      exact (Int32.lt_irrefl (Int32.lt_of_lt_of_le ahead notAbove)).elim

/-- What a request goes back to is the target of its action. -/
theorem target_of_goesBack
    (member : target ∈ task.steps)
    (goesBack : request.GoesBack current target) :
    task.target current request.action = .ok (some target) := by
  cases goesBack with
  | again action =>
      rw [action]
      exact FieldTask.target_again member
  | jump action notAbove =>
      rw [action]
      exact FieldTask.target_jump_eq_ok_iff.mpr ⟨target, member, rfl, rfl⟩

/-- A request on the step in focus that goes back applies, and its target comes into focus. -/
theorem applyTo_of_goesBack
    (focus : task.activeStep? = some current)
    (concerns : current.id = request.step)
    (member : target ∈ task.steps)
    (goesBack : request.GoesBack current target)
    (time : Timestamp)
    (performer : String) :
    ∃ updated,
      request.applyTo task time performer = .ok updated ∧
        updated.id = task.id ∧
        updated.activeStep? = some (target.withRecord Step.reopened) := by
  have inTask := FieldTask.mem_of_activeStep? focus
  have unresolved := (WorkSession.isOpen_of_activeStep? focus).unresolved
  have notAbove : target.order ≤ current.order := by
    cases goesBack with
    | again _ => exact Int32.le_refl current.order
    | jump _ notAbove => exact notAbove
  have isReopened :
      request.newRecord current time performer target = Step.reopened := by
    rw [newRecord_of_goesBack goesBack, if_pos ⟨Int32.le_refl target.order, notAbove⟩]
  have lands :
      (task.withRecords (request.newRecord current time performer)).activeStep? =
        some (target.withRecord Step.reopened) := by
    rw [← isReopened]
    refine FieldTask.activeStep?_withRecords_of_pending member (by rw [isReopened]; rfl) ?_
    intro step inSteps before
    have outside : ¬ (target.order ≤ step.order ∧ step.order ≤ current.order) := by
      grind
    rw [newRecord_of_goesBack goesBack, if_neg outside]
    exact FieldTask.not_pending_of_before_focus focus inSteps
      (Int32.lt_of_lt_of_le before notAbove)
  exact ⟨_, applyTo_eq_ok_iff.mpr ⟨current, inTask, concerns, unresolved,
    permitted_of_goesBack member goesBack, rfl⟩, rfl, lands⟩

end CompletionRequest

namespace TaskStore

variable {store : TaskStore} {request : CompletionRequest} {task : FieldTask}
  {current : Step}

/--
A completion of the step in focus under a new key that has this step done again,
or jumps to an existing one not above it, is recorded whatever the statuses of
the steps.  On the task loaded next, the step in focus is the one that the action
led to before: the same step, or the one with the order of the jump.
-/
theorem reentry_lands_on_target
    (held : store.task? request.task = some task)
    (focus : task.activeStep? = some current)
    (concerns : current.id = request.step)
    (fresh : request.key ∉ store.keys)
    (reenters :
      request.action = .again ∨
        ∃ order ≤ current.order, request.action = .jump order ∧
          ∃ step ∈ task.steps, step.order = order)
    (time : Timestamp) :
    ∃ target updated loaded,
      task.target current request.action = .ok (some target) ∧
        (request.action = .again → target = current) ∧
        (∀ order, request.action = .jump order → target.order = order) ∧
        store.complete request time = .ok updated ∧
        updated.load request.task = .ok loaded ∧
        loaded.activeStep? = some (target.withRecord Step.reopened) := by
  obtain ⟨target, member, goesBack⟩ :
      ∃ target ∈ task.steps, request.GoesBack current target := by
    rcases reenters with again | ⟨_, notAbove, jump, target, member, rfl⟩
    · exact ⟨current, FieldTask.mem_of_activeStep? focus, .again again⟩
    · exact ⟨target, member, .jump jump notAbove⟩
  obtain ⟨loaded, applied, sameId, lands⟩ :=
    CompletionRequest.applyTo_of_goesBack focus concerns member goesBack time store.performer
  have leads := CompletionRequest.target_of_goesBack member goesBack
  have recorded : store.complete request time = .ok (store.recorded request loaded) :=
    complete_eq_ok_iff.mpr (.inr ⟨fresh, task, loaded, held, applied, rfl⟩)
  have found : (store.recorded request loaded).task? request.task = some loaded := by
    rw [task?_recorded, if_pos (sameId.trans (id_of_task? held))]
  refine ⟨target, _, loaded, leads, ?_, ?_, recorded, by rw [load, found], lands⟩
  · intro again
    rw [again, FieldTask.target_again (FieldTask.mem_of_activeStep? focus)] at leads
    cases leads
    rfl
  · intro order jump
    rw [jump] at leads
    obtain ⟨_, _, sameOrder, same⟩ := FieldTask.target_jump_eq_ok_iff.mp leads
    cases same
    exact sameOrder

/-- A step of some rework that is in progress, with no pending step around it. -/
def varnishing : Step :=
  (Step.plain 44 8 "Varnish" (by decide)).withRecord { status := .inProgress }

/-- A step whose status is not known. -/
def sanding : Step :=
  (Step.plain 42 2 "Sand" (by decide)).withRecord { status := .unrecognized }

def rework : FieldTask where
  id := 9
  templateId := none
  steps := [(Step.plain 41 (-1) "Look at it" (by decide)).withRecord { status := .completed },
    sanding, (Step.plain 43 5 "Paint" (by decide)).withRecord { status := .skipped },
    varnishing, (Step.plain 45 9 "Show it" (by decide)).withRecord { status := .failed }]
  percentage := .zero
  wellOrdered := by simp [WellOrdered, varnishing, sanding, Step.plain, Step.withRecord]

def sandAgain : CompletionRequest :=
  ⟨9, 44, .empty, .jump 2, "first"⟩

def inTheEvening : Timestamp :=
  ⟨⟨2024, 1, 1⟩, 64800, 0⟩

/--
A jump back from the step in progress lands on the step whose status is not known,
behind one that stays completed and in front of one that stays failed.
-/
theorem reentry_lands_on_target_sanding :
    let store := ofTasks [rework] "Ada"
    store.task? 9 = some rework ∧
      rework.activeStep? = some varnishing ∧
      sandAgain.key ∉ store.keys ∧
      ∃ updated loaded,
        store.complete sandAgain inTheEvening = .ok updated ∧
          updated.load 9 = .ok loaded ∧
          loaded.activeStep? = some (sanding.withRecord Step.reopened) := by
  intro store
  have held : store.task? 9 = some rework := rfl
  have focus : rework.activeStep? = some varnishing := rfl
  have fresh : sandAgain.key ∉ store.keys := by decide
  have toSanding : ∃ step ∈ rework.steps, step.order = 2 := ⟨sanding, by simp [rework], rfl⟩
  obtain ⟨target, updated, loaded, leads, _, _, recorded, loads, lands⟩ :=
    reentry_lands_on_target held focus rfl fresh
      (.inr ⟨2, by decide, rfl, toSanding⟩) inTheEvening
  have isSanding : rework.target varnishing sandAgain.action = .ok (some sanding) := rfl
  obtain rfl : target = sanding := Option.some.inj (Except.ok.inj (leads.symm.trans isSanding))
  exact ⟨held, focus, fresh, updated, loaded, recorded, loads, lands⟩

end TaskStore

end Fieldwork
