import Fieldwork.Proofs.Task.Steps

namespace Fieldwork.FieldTask

/-!
# The step in focus

The step in focus is the pending step of least order, or where none is pending
the step in progress of least order.  Beside this, the module says where the
three control actions lead from a step of the task.
-/

/-- A pending step is in focus where no step before it is pending. -/
theorem activeStep?_of_pending
    {task : FieldTask}
    {step : Step}
    (member : step ∈ task.steps)
    (pending : step.status = .pending)
    (least :
      ∀ other ∈ task.steps, other.order < step.order → other.status ≠ .pending) :
    task.activeStep? = some step := by
  have found :
      (task.steps.find? fun step => step.status = .pending) = some step := by
    rw [find?_eq_some_iff_of_ascending task.ascending]
    refine ⟨member, by simpa using pending, ?_⟩
    intro other inTask before
    simpa using least other inTask before
  rw [activeStep?, found, Option.some_or]

theorem mem_of_activeStep?
    {task : FieldTask}
    {step : Step}
    (focus : task.activeStep? = some step) :
    step ∈ task.steps := by
  unfold activeStep? at focus
  rcases Option.or_eq_some_iff.mp focus with found | ⟨_, found⟩ <;>
    exact List.mem_of_find?_eq_some found

/--
The step in focus is the first pending one, or the first one in progress where
none is pending.
-/
theorem activeStep?_cases
    {task : FieldTask}
    {step : Step}
    (focus : task.activeStep? = some step) :
    (step.status = .pending ∧
        ∀ other ∈ task.steps, other.order < step.order → other.status ≠ .pending) ∨
      (step.status = .inProgress ∧
        (∀ other ∈ task.steps, other.status ≠ .pending) ∧
        ∀ other ∈ task.steps, other.order < step.order → other.status ≠ .inProgress) := by
  unfold activeStep? at focus
  rcases Option.or_eq_some_iff.mp focus with found | ⟨missing, found⟩
  · left
    obtain ⟨_, pending, least⟩ :=
      (find?_eq_some_iff_of_ascending task.ascending).mp found
    exact ⟨by simpa using pending, fun other member before =>
      by simpa using least other member before⟩
  · right
    obtain ⟨_, started, least⟩ :=
      (find?_eq_some_iff_of_ascending task.ascending).mp found
    rw [List.find?_eq_none] at missing
    exact ⟨by simpa using started, fun other member => by simpa using missing other member,
      fun other member before => by simpa using least other member before⟩

/-- What it takes for a step of a task to be in focus. -/
theorem activeStep?_eq_some_iff
    {task : FieldTask}
    {step : Step} :
    task.activeStep? = some step ↔
      step ∈ task.steps ∧
        ((step.status = .pending ∧
            ∀ other ∈ task.steps, other.order < step.order → other.status ≠ .pending) ∨
          (step.status = .inProgress ∧
            (∀ other ∈ task.steps, other.status ≠ .pending) ∧
            ∀ other ∈ task.steps, other.order < step.order → other.status ≠ .inProgress)) := by
  constructor
  · intro focus
    exact ⟨mem_of_activeStep? focus, activeStep?_cases focus⟩
  · rintro ⟨member, ⟨pending, least⟩ | ⟨started, nonePending, least⟩⟩
    · exact activeStep?_of_pending member pending least
    · have missing : (task.steps.find? fun step => step.status = .pending) = none := by
        rw [List.find?_eq_none]
        intro other inTask
        simpa using nonePending other inTask
      rw [activeStep?, missing, Option.none_or, find?_eq_some_iff_of_ascending task.ascending]
      refine ⟨member, by simpa using started, ?_⟩
      intro other inTask before
      simpa using least other inTask before

/-- No step is in focus where none is pending and none in progress. -/
theorem activeStep?_eq_none_iff
    {task : FieldTask} :
    task.activeStep? = none ↔
      ∀ step ∈ task.steps, step.status ≠ .pending ∧ step.status ≠ .inProgress := by
  unfold activeStep?
  rw [Option.or_eq_none_iff, List.find?_eq_none, List.find?_eq_none]
  simp only [decide_eq_true_eq]
  exact ⟨fun ⟨noPending, noStarted⟩ step member =>
      ⟨noPending step member, noStarted step member⟩,
    fun neither => ⟨fun step member => (neither step member).1,
      fun step member => (neither step member).2⟩⟩

theorem target_again
    {task : FieldTask}
    {step : Step}
    (member : step ∈ task.steps) :
    task.target step .again = .ok (some step) := by
  rw [target, step?_eq_some_iff.mpr ⟨member, rfl⟩]

/-- A jump leads to the step with its order. -/
theorem target_jump_eq_ok_iff
    {task : FieldTask}
    {step : Step}
    {order : Int32}
    {next : Option Step} :
    task.target step (.jump order) = .ok next ↔
      ∃ found ∈ task.steps, found.order = order ∧ next = some found := by
  simp only [target]
  split
  · rename_i found search
    obtain ⟨member, same⟩ := (find?_order_eq_some_iff task.ascending).mp search
    constructor
    · intro leads
      cases leads
      exact ⟨found, member, same, rfl⟩
    · rintro ⟨other, inTask, sameOrder, rfl⟩
      rw [eq_of_order_eq member inTask (same.trans sameOrder.symm)]
  · rename_i search
    rw [List.find?_eq_none] at search
    constructor
    · intro leads
      cases leads
    · rintro ⟨found, member, same, _⟩
      exact (search found member (by simpa using same)).elim

/-- From a step of the task, an action only fails to lead on where a jump has no target. -/
theorem target_error
    {task : FieldTask}
    {step : Step}
    {action : ControlAction}
    {fault : TargetFault}
    (known : ∃ member ∈ task.steps, member.id = step.id)
    (failed : task.target step action = .error fault) :
    ∃ order, action = .jump order ∧ fault = .missingOrder step.name order := by
  cases action with
  | advance =>
      cases failed
  | again =>
      obtain ⟨member, inTask, same⟩ := known
      rw [target, step?_eq_some_iff.mpr ⟨inTask, same⟩] at failed
      cases failed
  | jump order =>
      refine ⟨order, rfl, ?_⟩
      simp only [target] at failed
      split at failed
      · cases failed
      · cases failed
        rfl

/-- From a step of the task, an action leads on where its jump, if any, has a target. -/
theorem exists_target_iff
    {task : FieldTask}
    {step : Step}
    {action : ControlAction}
    (known : ∃ member ∈ task.steps, member.id = step.id) :
    (∃ next, task.target step action = .ok next) ↔
      ∀ order, action = .jump order → ∃ target ∈ task.steps, target.order = order := by
  constructor
  · rintro ⟨next, leads⟩ order rfl
    obtain ⟨found, inTask, same, _⟩ := target_jump_eq_ok_iff.mp leads
    exact ⟨found, inTask, same⟩
  · intro targeted
    cases leads : task.target step action with
    | ok next =>
        exact ⟨next, rfl⟩
    | error fault =>
        obtain ⟨order, rfl, _⟩ := target_error known leads
        obtain ⟨found, inTask, same⟩ := targeted order rfl
        rw [target_jump_eq_ok_iff.mpr ⟨found, inTask, same, rfl⟩] at leads
        cases leads

end Fieldwork.FieldTask
