import Fieldwork.Proofs.Store.Completion
import Fieldwork.Proofs.Task.Sequence

namespace Fieldwork

/-!
# Where a completion moves a task

A completion of the step in focus moves the place at which a task stands to the
target of its action, whether this lies behind, ahead or at the step itself.
-/

namespace FieldTask

@[simp] theorem standsAt_recomputed
    {task : FieldTask}
    {place : Option StepPlan} :
    task.recomputed.StandsAt place ↔ task.StandsAt place := by
  cases place <;> rfl

/-- New records leave a task at the end where all of them are final. -/
theorem standsAt_none_withRecords
    {task : FieldTask}
    {record : Step → StepRecord}
    (final : ∀ step ∈ task.steps, (record step).status.isTerminal = true) :
    (task.withRecords record).StandsAt none := by
  intro step member
  obtain ⟨old, inTask, rfl⟩ := mem_withRecords_iff.mp member
  exact final old inTask

/-- New records bring a task to a step where they are final before it and pending from it on. -/
theorem standsAt_some_withRecords
    {task : FieldTask}
    {record : Step → StepRecord}
    {target : Step}
    (inTask : target ∈ task.steps)
    (final :
      ∀ step ∈ task.steps, step.order < target.order →
        (record step).status.isTerminal = true)
    (pending :
      ∀ step ∈ task.steps, target.order ≤ step.order →
        (record step).status = .pending) :
    (task.withRecords record).StandsAt (some target.plan) := by
  refine ⟨⟨_, mem_withRecords_iff.mpr ⟨target, inTask, rfl⟩, rfl⟩, ?_, ?_⟩
  · intro step member before
    obtain ⟨old, oldInTask, rfl⟩ := mem_withRecords_iff.mp member
    exact final old oldInTask before
  · intro step member notBefore
    obtain ⟨old, oldInTask, rfl⟩ := mem_withRecords_iff.mp member
    exact pending old oldInTask notBefore

end FieldTask

namespace CompletionRequest

variable {request : CompletionRequest} {task : FieldTask} {current : Step}
  {next : Option Step} {time : Timestamp} {performer : String}

/-- Where the target of an action exists, a request on the place of a task is permitted. -/
theorem permitted_of_standsAt
    (stands : task.StandsAt (some current.plan))
    (member : current ∈ task.steps)
    (leads : task.target current request.action = .ok next) :
    request.Permitted task current := by
  obtain ⟨_, resolved, pending⟩ := stands
  have currentOpen : current.IsOpen :=
    .inl (pending current member (Int32.le_refl current.order))
  unfold Permitted
  cases action : request.action with
  | advance =>
      exact currentOpen
  | again =>
      trivial
  | jump order =>
      rw [action] at leads
      obtain ⟨target, inTask, atOrder, _⟩ := FieldTask.target_jump_eq_ok_iff.mp leads
      refine ⟨⟨target, inTask, atOrder⟩, fun _ => ⟨currentOpen, ?_⟩⟩
      intro step inSteps lies
      exact .inl (pending step inSteps (Int32.le_of_lt lies.1))

section

variable
    (resolved :
      ∀ step ∈ task.steps, step.order < current.order → step.status.isTerminal = true)
    (pending :
      ∀ step ∈ task.steps, current.order ≤ step.order → step.status = .pending)

include resolved pending

/-- Advancing moves a task to the step behind its place. -/
theorem standsAt_of_advance
    (member : current ∈ task.steps)
    (action : request.action = .advance) :
    (task.withRecords (request.newRecord current time performer)).StandsAt
      ((task.stepAfter? current.id).map Step.plan) := by
  have final :
      ∀ step ∈ task.steps, step.order ≤ current.order →
        (request.newRecord current time performer step).status.isTerminal = true := by
    intro step inSteps notBehind
    rw [newRecord, action]
    by_cases isCurrent : step.order = current.order
    · simpa [isCurrent] using request.outcomeStatus_isTerminal
    · simpa [isCurrent] using resolved step inSteps (by grind)
  rcases FieldTask.stepAfter?_cases member with
    ⟨isLast, allBefore⟩ | ⟨target, inTask, isNext, behind, least⟩
  · rw [isLast]
    exact FieldTask.standsAt_none_withRecords fun step inSteps =>
      final step inSteps (allBefore step inSteps)
  · rw [isNext]
    refine FieldTask.standsAt_some_withRecords inTask ?_ ?_
    · intro step inSteps beforeTarget
      refine final step inSteps (Int32.not_lt.mp fun behindCurrent => ?_)
      have atTarget := least step inSteps behindCurrent
      grind
    · intro step inSteps notBefore
      have elsewhere : step.order ≠ current.order := by grind
      rw [newRecord, action]
      simpa [elsewhere] using pending step inSteps (by grind)

/-- Doing a step again leaves a task at its place. -/
theorem standsAt_of_again
    (member : current ∈ task.steps)
    (action : request.action = .again) :
    (task.withRecords (request.newRecord current time performer)).StandsAt
      (some current.plan) := by
  refine FieldTask.standsAt_some_withRecords member ?_ ?_
  · intro step inSteps before
    have elsewhere : step.order ≠ current.order := by grind
    rw [newRecord, action]
    simpa [elsewhere] using resolved step inSteps before
  · intro step inSteps notBefore
    rw [newRecord, action]
    by_cases isCurrent : step.order = current.order
    · simp [isCurrent, Step.reopened]
    · simpa [isCurrent] using pending step inSteps notBefore

/-- A jump back, or to the same step, moves a task to its target. -/
theorem standsAt_of_jumpBack
    {target : Step}
    (inTask : target ∈ task.steps)
    (action : request.action = .jump target.order)
    (back : target.order ≤ current.order) :
    (task.withRecords (request.newRecord current time performer)).StandsAt
      (some target.plan) := by
  refine FieldTask.standsAt_some_withRecords inTask ?_ ?_
  · intro step inSteps before
    have outside : ¬ target.order ≤ step.order := by grind
    rw [newRecord, action]
    simpa [back, outside] using resolved step inSteps (by grind)
  · intro step inSteps notBefore
    rw [newRecord, action]
    by_cases reopened : step.order ≤ current.order
    · simp [back, notBefore, reopened, Step.reopened]
    · simpa [back, reopened] using pending step inSteps (by grind)

/-- A jump ahead moves a task to its target. -/
theorem standsAt_of_jumpAhead
    {target : Step}
    (inTask : target ∈ task.steps)
    (action : request.action = .jump target.order)
    (ahead : current.order < target.order) :
    (task.withRecords (request.newRecord current time performer)).StandsAt
      (some target.plan) := by
  have notBack : ¬ target.order ≤ current.order := by grind
  refine FieldTask.standsAt_some_withRecords inTask ?_ ?_
  · intro step inSteps before
    rw [newRecord, action]
    by_cases isCurrent : step.order = current.order
    · simpa [notBack, isCurrent] using request.outcomeStatus_isTerminal
    · by_cases behind : current.order < step.order
      · have lies : step.LiesUnresolved current.order target.order := by
          refine ⟨behind, before, ?_⟩
          rw [pending step inSteps (by grind)]
          rfl
        simp [notBack, isCurrent, lies, StepStatus.isTerminal]
      · -- What stands before the step in focus is resolved already and stays so.
        have notBetween : ¬ step.LiesUnresolved current.order target.order :=
          fun lies => behind lies.1
        simpa [notBack, isCurrent, notBetween] using resolved step inSteps (by grind)
  · intro step inSteps notBefore
    have elsewhere : step.order ≠ current.order := by grind
    have notBetween : ¬ step.LiesUnresolved current.order target.order :=
      fun lies => Int32.lt_irrefl (Int32.lt_of_lt_of_le lies.2.1 notBefore)
    rw [newRecord, action]
    simpa [notBack, elsewhere, notBetween] using pending step inSteps (by grind)

end

/-- A request on the place of a task moves it to the target of the action. -/
theorem standsAt_of_newRecord
    (stands : task.StandsAt (some current.plan))
    (member : current ∈ task.steps)
    (leads : task.target current request.action = .ok next) :
    (task.withRecords (request.newRecord current time performer)).StandsAt
      (next.map Step.plan) := by
  obtain ⟨_, resolved, pending⟩ := stands
  cases action : request.action with
  | advance =>
      rw [action] at leads
      cases leads
      exact standsAt_of_advance resolved pending member action
  | again =>
      rw [action, FieldTask.target_again member] at leads
      cases leads
      exact standsAt_of_again resolved pending member action
  | jump order =>
      rw [action] at leads
      obtain ⟨target, inTask, rfl, rfl⟩ := FieldTask.target_jump_eq_ok_iff.mp leads
      by_cases back : target.order ≤ current.order
      · exact standsAt_of_jumpBack resolved pending inTask action back
      · exact standsAt_of_jumpAhead resolved pending inTask action
          (Int32.not_le.mp back)

/--
A request on the step in focus of a task in sequence applies, and moves the
task to the target of the action.
-/
theorem applyTo_of_inSequence
    (sequence : task.InSequence)
    (focus : task.activeStep? = some current)
    (concerns : request.step = current.id)
    (leads : task.target current request.action = .ok next)
    (time : Timestamp)
    (performer : String) :
    ∃ updated,
      request.applyTo task time performer = .ok updated ∧
        updated.id = task.id ∧
        updated.StandsAt (next.map Step.plan) := by
  have member := FieldTask.mem_of_activeStep? focus
  have stands := sequence.standsAt
  rw [FieldTask.focusPlan?, focus, Option.map_some] at stands
  have unresolved : current.status.isTerminal = false := by
    rw [stands.2.2 current member (Int32.le_refl current.order)]
    rfl
  refine ⟨_, applyTo_eq_ok_iff.mpr ⟨current, member, concerns.symm, unresolved,
    permitted_of_standsAt stands member leads, rfl⟩, rfl, ?_⟩
  exact FieldTask.standsAt_recomputed.mpr (standsAt_of_newRecord stands member leads)

end CompletionRequest

end Fieldwork
