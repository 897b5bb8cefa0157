import Fieldwork.Proofs.Except
import Fieldwork.Proofs.Task.Steps

namespace Fieldwork

/-!
# New records for the steps of a task

An operation on a task gives its steps new records and leaves their plans
alone.  Where it may be refused, it is a function from steps to records as soon
as no step refuses its own.
-/

namespace Step

@[simp] theorem id_withRecord
    (step : Step)
    (record : StepRecord) :
    (step.withRecord record).id = step.id :=
  rfl

@[simp] theorem order_withRecord
    (step : Step)
    (record : StepRecord) :
    (step.withRecord record).order = step.order :=
  rfl

@[simp] theorem status_withRecord
    (step : Step)
    (record : StepRecord) :
    (step.withRecord record).status = record.status :=
  rfl

@[simp] theorem status_record
    (step : Step) :
    step.record.status = step.status :=
  rfl

@[simp] theorem record_withRecord
    (step : Step)
    (record : StepRecord) :
    (step.withRecord record).record = record :=
  rfl

@[simp] theorem withRecord_withRecord
    (step : Step)
    (first second : StepRecord) :
    (step.withRecord first).withRecord second = step.withRecord second :=
  rfl

end Step

namespace FieldTask

theorem eq_of_parts
    {left right : FieldTask}
    (sameId : left.id = right.id)
    (sameTemplate : left.templateId = right.templateId)
    (sameSteps : left.steps = right.steps)
    (samePercentage : left.percentage = right.percentage) :
    left = right := by
  cases left
  cases right
  cases sameId
  cases sameTemplate
  cases sameSteps
  cases samePercentage
  rfl

@[simp] theorem id_withRecords
    (task : FieldTask)
    (record : Step → StepRecord) :
    (task.withRecords record).id = task.id :=
  rfl

@[simp] theorem id_recomputed
    (task : FieldTask) :
    task.recomputed.id = task.id :=
  rfl

@[simp] theorem steps_recomputed
    (task : FieldTask) :
    task.recomputed.steps = task.steps :=
  rfl

theorem mem_withRecords_iff
    {task : FieldTask}
    {record : Step → StepRecord}
    {step : Step} :
    step ∈ (task.withRecords record).steps ↔
      ∃ old ∈ task.steps, old.withRecord (record old) = step :=
  List.mem_map

/-- Giving records twice is giving them once. -/
theorem withRecords_withRecords
    (task : FieldTask)
    (first second : Step → StepRecord) :
    (task.withRecords first).withRecords second =
      task.withRecords fun step => second (step.withRecord (first step)) := by
  refine eq_of_parts rfl rfl ?_ rfl
  simp [withRecords]

section Refusable

variable {ε : Type} {record : Step → Except ε StepRecord}

/-- Where no step refuses its record, all of them get theirs. -/
theorem newRecords?_of_ok
    {steps : List Step}
    {new : Step → StepRecord}
    (given : ∀ step ∈ steps, record step = .ok (new step)) :
    ∃ updated,
      newRecords? record steps = .ok updated ∧
        updated.1 = steps.map fun step => step.withRecord (new step) := by
  induction steps with
  | nil =>
      exact ⟨_, rfl, rfl⟩
  | cons step rest inductionHypothesis =>
      obtain ⟨updated, restGiven, shape⟩ :=
        inductionHypothesis fun later member => given later (List.mem_cons_of_mem _ member)
      have stepGiven := given step (by simp)
      refine ⟨⟨step.withRecord (new step) :: updated.1, ?_⟩, ?_, ?_⟩
      · simp [Step.withRecord, updated.2]
      · simp only [newRecords?, stepGiven, restGiven]
      · simp [shape]

/-- A step that refuses its record refuses those of the whole list. -/
theorem ok_of_newRecords?
    {steps : List Step}
    {updated : { updated : List Step // updated.map Step.plan = steps.map Step.plan }}
    (given : newRecords? record steps = .ok updated) :
    ∀ step ∈ steps, ∃ kept, record step = .ok kept := by
  induction steps with
  | nil =>
      intro step member
      cases member
  | cons head rest inductionHypothesis =>
      unfold newRecords? at given
      cases headGiven : record head with
      | error fault =>
          simp [headGiven] at given
      | ok kept =>
          cases restGiven : newRecords? record rest with
          | error fault =>
              simp [headGiven, restGiven] at given
          | ok updatedRest =>
              intro step member
              rcases List.mem_cons.mp member with rfl | inRest
              · exact ⟨kept, headGiven⟩
              · exact inductionHypothesis restGiven step inRest

/--
Records that may be refused, where a step that does not refuse has only one
record to get.
-/
theorem withRecords?_eq_ok_iff
    {task updated : FieldTask}
    (new : Step → StepRecord)
    (determined : ∀ step kept, record step = .ok kept → kept = new step) :
    task.withRecords? record = .ok updated ↔
      (∀ step ∈ task.steps, record step = .ok (new step)) ∧
        updated = task.withRecords new := by
  constructor
  · intro given
    obtain ⟨inner, renewed, rfl⟩ := Except.map_eq_ok_iff.mp given
    have all : ∀ step ∈ task.steps, record step = .ok (new step) := by
      intro step member
      obtain ⟨kept, stepGiven⟩ := ok_of_newRecords? renewed step member
      rw [stepGiven, determined step kept stepGiven]
    obtain ⟨other, renewedToo, shape⟩ := newRecords?_of_ok all
    cases renewed.symm.trans renewedToo
    exact ⟨all, eq_of_parts rfl rfl shape rfl⟩
  · rintro ⟨all, rfl⟩
    obtain ⟨inner, renewed, shape⟩ := newRecords?_of_ok all
    rw [withRecords?, renewed]
    exact congrArg Except.ok (eq_of_parts rfl rfl shape rfl)

end Refusable

/-- Where two lists look alike in some view, each step of one has its like in the other. -/
theorem exists_alike
    {α : Type}
    {view : Step → α}
    {steps steps' : List Step}
    {step : Step}
    (alike : steps.map view = steps'.map view)
    (member : step ∈ steps) :
    ∃ step' ∈ steps', view step' = view step := by
  have inView : view step ∈ steps.map view := List.mem_map_of_mem member
  rw [alike] at inView
  exact List.mem_map.mp inView

/-- Steps with one identifier have one plan, in tasks whose steps have the same plans. -/
theorem plan_eq_of_id_eq
    {task other : FieldTask}
    {step step' : Step}
    (samePlans : task.steps.map Step.plan = other.steps.map Step.plan)
    (inTask : step ∈ task.steps)
    (inOther : step' ∈ other.steps)
    (sameId : step.id = step'.id) :
    step.plan = step'.plan := by
  obtain ⟨like, likeInOther, samePlan⟩ := exists_alike samePlans inTask
  have likeId : like.id = step'.id := (congrArg StepPlan.id samePlan).trans sameId
  rw [← samePlan, eq_of_id_eq likeInOther inOther likeId]

end FieldTask

/-- A pending step that records nothing and leads on to the next one. -/
def Step.plain
    (id : Int64)
    (order : Int32)
    (name : String)
    (solid : Text.isBlank name = false) :
    Step :=
  ⟨⟨id, none, name, order, false, false, .none, [], solid, List.nodup_nil⟩, {}⟩

/-- Plans decide which of two steps comes first. -/
theorem Step.before_of_plan_eq
    {earlier later earlier' later' : Step}
    (before : earlier.order < later.order)
    (sameEarlier : earlier'.plan = earlier.plan)
    (sameLater : later'.plan = later.plan) :
    earlier'.order < later'.order := by
  have earlierOrder : earlier'.order = earlier.order := congrArg StepPlan.order sameEarlier
  have laterOrder : later'.order = later.order := congrArg StepPlan.order sameLater
  rwa [earlierOrder, laterOrder]

end Fieldwork
