import Fieldwork.Proofs.Task.Moves

namespace Fieldwork

/-!
# Changing a task

Once it is there, a task is changed by moving one of its steps forward, by
setting one back to pending and by counting its percentage anew.  No change
touches the plan of a step, and the record of a step is its old one, a blank
one, or the one of a forward move.
-/

/-- One change to a task; a step is named by its identifier. -/
inductive TaskEdit where
  | move (step : Int64) (next : StepStatus) (time : Timestamp) (performer : Option String)
  | reopen (step : Int64)
  | recount
  deriving DecidableEq, Repr

namespace FieldTask

section Refusable

variable {ε : Type} {record : Step → Except ε StepRecord} {task updated : FieldTask}

theorem plans_of_withRecords?
    (renewed : task.withRecords? record = .ok updated) :
    updated.steps.map Step.plan = task.steps.map Step.plan := by
  obtain ⟨inner, _, rfl⟩ := Except.map_eq_ok_iff.mp renewed
  exact inner.2

/-- Each step with a new record is an old one with the record that was given for it. -/
theorem exists_old_of_newRecords?
    {steps : List Step}
    {renewed : { updated : List Step // updated.map Step.plan = steps.map Step.plan }}
    (given : newRecords? record steps = .ok renewed) :
    ∀ step ∈ renewed.1, ∃ old ∈ steps, ∃ kept,
      record old = .ok kept ∧ step = old.withRecord kept := by
  induction steps with
  | nil =>
      cases given
      intro step member
      cases member
  | cons head rest inductionHypothesis =>
      unfold newRecords? at given
      cases headGiven : record head with
      | error fault =>
          simp [headGiven] at given
      | ok kept =>
          cases restGiven : newRecords? record rest with
          | error fault =>
              simp [headGiven, restGiven] at given
          | ok renewedRest =>
              simp only [headGiven, restGiven] at given
              cases given
              intro step member
              rcases List.mem_cons.mp member with rfl | inRest
              · exact ⟨head, by simp, kept, headGiven, rfl⟩
              · obtain ⟨old, inOld, shape⟩ := inductionHypothesis restGiven step inRest
                exact ⟨old, List.mem_cons_of_mem _ inOld, shape⟩

theorem exists_old_of_withRecords?
    {step : Step}
    (renewed : task.withRecords? record = .ok updated)
    (member : step ∈ updated.steps) :
    ∃ old ∈ task.steps, ∃ kept, record old = .ok kept ∧ step = old.withRecord kept := by
  obtain ⟨inner, given, rfl⟩ := Except.map_eq_ok_iff.mp renewed
  exact exists_old_of_newRecords? given step member

end Refusable

/-- A task after one change; a move that is refused leaves it as it was. -/
def perform
    (task : FieldTask) :
    TaskEdit →
    FieldTask
  | .move step next time performer =>
      match task.moveStep step next time performer with
      | .ok moved => moved
      | .error _ => task
  | .reopen step => task.reopenStep step
  | .recount => task.recomputed

/-- A task after changes, one after the other. -/
def run
    (task : FieldTask)
    (edits : List TaskEdit) :
    FieldTask :=
  edits.foldl perform task

variable {task : FieldTask} {step : Step}

/-- A move gives the moved task, or leaves the task as it was where it is refused. -/
theorem perform_move_cases
    (task : FieldTask)
    (id : Int64)
    (next : StepStatus)
    (time : Timestamp)
    (performer : Option String) :
    task.perform (.move id next time performer) = task ∨
      ∃ moved,
        task.moveStep id next time performer = .ok moved ∧
          task.perform (.move id next time performer) = moved := by
  cases moves : task.moveStep id next time performer with
  | ok moved =>
      right
      exact ⟨moved, rfl, by simp [perform, moves]⟩
  | error fault =>
      left
      simp [perform, moves]

theorem plans_of_perform
    (task : FieldTask)
    (edit : TaskEdit) :
    (task.perform edit).steps.map Step.plan = task.steps.map Step.plan := by
  cases edit with
  | move id next time performer =>
      rcases perform_move_cases task id next time performer with same | ⟨moved, moves, same⟩
      · rw [same]
      · rw [same]
        exact plans_of_withRecords? moves
  | reopen step =>
      exact map_plan_withRecord _ task.steps
  | recount =>
      rfl

/-- The steps keep their plans and their places, whatever is changed. -/
theorem plans_of_run
    (task : FieldTask)
    (edits : List TaskEdit) :
    (task.run edits).steps.map Step.plan = task.steps.map Step.plan := by
  induction edits generalizing task with
  | nil =>
      rfl
  | cons edit rest inductionHypothesis =>
      exact (inductionHypothesis (task.perform edit)).trans (plans_of_perform task edit)

/-- A change keeps the record of a step, blanks it, or moves the step forward. -/
theorem record_of_perform
    {edit : TaskEdit}
    (member : step ∈ (task.perform edit).steps) :
    ∃ old ∈ task.steps,
      step.record = old.record ∨ step.record = Step.reopened ∨
        ∃ next time performer,
          edit = .move old.id next time performer ∧
            old.moveTo next time performer = .ok step.record := by
  cases edit with
  | move id next time performer =>
      rcases perform_move_cases task id next time performer with same | ⟨moved, moves, same⟩
      · rw [same] at member
        exact ⟨step, member, .inl rfl⟩
      · rw [same] at member
        obtain ⟨old, inOld, kept, given, rfl⟩ := exists_old_of_withRecords? moves member
        refine ⟨old, inOld, ?_⟩
        by_cases named : old.id = id
        · subst named
          rw [if_pos rfl] at given
          exact .inr (.inr ⟨next, time, performer, rfl, given⟩)
        · rw [if_neg named] at given
          cases given
          exact .inl rfl
  | reopen id =>
      obtain ⟨old, inOld, rfl⟩ := mem_withRecords_iff.mp member
      refine ⟨old, inOld, ?_⟩
      by_cases named : old.id = id
      · right
        left
        simp [named]
      · left
        simp [named]
  | recount =>
      exact ⟨step, member, .inl rfl⟩

end FieldTask

/-- A forward move takes the record's time from the move, or leaves it as it was. -/
theorem Step.completedAt_of_moveTo
    {step : Step}
    {next : StepStatus}
    {time : Timestamp}
    {performer : Option String}
    {record : StepRecord}
    (moves : step.moveTo next time performer = .ok record) :
    record.completedAt = some time ∨ record.completedAt = step.record.completedAt := by
  rcases moveTo_eq_ok_iff.mp moves with ⟨_, _, rfl⟩ | ⟨_, _, rfl⟩
  · exact .inr rfl
  · exact .inl rfl

end Fieldwork
