import Fieldwork.Proofs.Store.Completion

namespace Fieldwork

/-!
# Completions at other times

A store notes the time at which it resolves a step and never looks at one.  So
tasks that differ in such times alone answer a request alike, whenever it comes:
with the same failure, or with tasks that differ in these times alone.
-/

/-- A step without the time that its record notes; whether one is noted stays. -/
def Step.timeless
    (step : Step) :
    StepPlan × StepStatus × Bool × Option String :=
  (step.plan, step.status, step.record.completedAt.isSome, step.record.performedBy)

/-- A task without the times that its records note. -/
def FieldTask.timeless
    (task : FieldTask) :
    Int64 × Option Int64 × Percentage ×
      List (StepPlan × StepStatus × Bool × Option String) :=
  (task.id, task.templateId, task.percentage, task.steps.map Step.timeless)

/-! ## Lists that look alike -/

section Lists

variable {α β γ : Type} {view : α → β} {left right : List α}

/-- Lists that agree in one view agree in every other that the first determines. -/
theorem map_eq_map_of_determined
    {other : α → γ}
    (determined : ∀ x y, view x = view y → other x = other y)
    (alike : left.map view = right.map view) :
    left.map other = right.map other := by
  induction left generalizing right with
  | nil =>
      cases right with
      | nil =>
          rfl
      | cons head rest =>
          cases alike
  | cons head rest inductionHypothesis =>
      cases right with
      | nil =>
          cases alike
      | cons head' rest' =>
          obtain ⟨sameHead, sameRest⟩ := List.cons.inj alike
          rw [List.map_cons, List.map_cons, determined head head' sameHead,
            inductionHypothesis sameRest]

/-- In lists that look alike, a look finds items that look alike. -/
theorem map_find?_congr
    {wanted : α → Bool}
    (determined : ∀ x y, view x = view y → wanted x = wanted y)
    (alike : left.map view = right.map view) :
    (left.find? wanted).map view = (right.find? wanted).map view := by
  induction left generalizing right with
  | nil =>
      cases right with
      | nil =>
          rfl
      | cons head rest =>
          cases alike
  | cons head rest inductionHypothesis =>
      cases right with
      | nil =>
          cases alike
      | cons head' rest' =>
          obtain ⟨sameHead, sameRest⟩ := List.cons.inj alike
          rw [List.find?_cons, List.find?_cons, ← determined head head' sameHead]
          cases wanted head with
          | true =>
              exact congrArg some sameHead
          | false =>
              exact inductionHypothesis sameRest

end Lists

/-! ## Steps -/

namespace Step

variable {step step' : Step} {status : StepStatus} {performer : String}

theorem id_eq_of_timeless
    (alike : step.timeless = step'.timeless) :
    step.id = step'.id :=
  congrArg (fun view => view.1.id) alike

theorem order_eq_of_timeless
    (alike : step.timeless = step'.timeless) :
    step.order = step'.order :=
  congrArg (fun view => view.1.order) alike

theorem status_eq_of_timeless
    (alike : step.timeless = step'.timeless) :
    step.status = step'.status :=
  congrArg (fun view => view.2.1) alike

theorem timeless_reopened
    (alike : step.timeless = step'.timeless) :
    (step.withRecord reopened).timeless = (step'.withRecord reopened).timeless := by
  have samePlan : step.plan = step'.plan := congrArg Prod.fst alike
  simp [timeless, withRecord, samePlan, Step.status]

/-- Steps that are alike are resolved alike, or refuse it alike. -/
theorem timeless_finish
    (final : status.isTerminal = true)
    (alike : step.timeless = step'.timeless)
    (time time' : Timestamp) :
    ((step.finish status time performer).map fun record =>
        (step.withRecord record).timeless) =
      (step'.finish status time' performer).map fun record =>
        (step'.withRecord record).timeless := by
  have samePlan : step.plan = step'.plan := congrArg Prod.fst alike
  have sameOpen : step.IsOpen ↔ step'.IsOpen := by
    rw [IsOpen, IsOpen, status_eq_of_timeless alike]
  rw [finish_eq final, finish_eq final, id_eq_of_timeless alike,
    status_eq_of_timeless alike]
  by_cases isOpen : step'.IsOpen
  · rw [if_pos (sameOpen.mpr isOpen), if_pos isOpen]
    simp [Except.map, timeless, withRecord, samePlan, Step.status]
  · rw [if_neg (mt sameOpen.mp isOpen), if_neg isOpen]
    rfl

end Step

/-! ## Tasks -/

namespace FieldTask

variable {task task' : FieldTask} {performer : String}

theorem id_eq_of_timeless
    (alike : task.timeless = task'.timeless) :
    task.id = task'.id :=
  congrArg Prod.fst alike

theorem timeless_steps
    (alike : task.timeless = task'.timeless) :
    task.steps.map Step.timeless = task'.steps.map Step.timeless :=
  congrArg (fun view => view.2.2.2) alike

/-- A step is found under an identifier in both of two tasks that are alike, or in neither. -/
theorem timeless_step?
    (alike : task.timeless = task'.timeless)
    (id : Int64) :
    (task.step? id).map Step.timeless = (task'.step? id).map Step.timeless := by
  refine map_find?_congr ?_ (timeless_steps alike)
  intro step step' alikeSteps
  rw [Step.id_eq_of_timeless alikeSteps]

/-- A jump has a target in both of two tasks that are alike, or in neither. -/
theorem isNone_stepAt?_of_timeless
    (alike : task.timeless = task'.timeless)
    (order : Int32) :
    (task.stepAt? order).isNone = (task'.stepAt? order).isNone := by
  have sameOrders : task.steps.map Step.order = task'.steps.map Step.order :=
    map_eq_map_of_determined (fun _ _ => Step.order_eq_of_timeless) (timeless_steps alike)
  have orders (task : FieldTask) :
      (task.stepAt? order).isNone = true ↔ order ∉ task.steps.map Step.order := by
    rw [isNone_stepAt?_iff]
    simp
  rw [Bool.eq_iff_iff, orders, orders, sameOrders]

theorem timeless_recomputed
    (alike : task.timeless = task'.timeless) :
    task.recomputed.timeless = task'.recomputed.timeless := by
  have statuses :
      task.steps.map (fun step => step.status.isTerminal) =
        task'.steps.map fun step => step.status.isTerminal :=
    map_eq_map_of_determined
      (fun _ _ same => congrArg StepStatus.isTerminal (Step.status_eq_of_timeless same))
      (timeless_steps alike)
  have sameLength : task.steps.length = task'.steps.length := by
    simpa using congrArg List.length statuses
  have sameCount : task.resolvedCount = task'.resolvedCount := by
    rw [resolvedCount, resolvedCount, ← List.countP_eq_length_filter,
      ← List.countP_eq_length_filter]
    have counted := congrArg (List.countP fun final => final) statuses
    simpa only [List.countP_map, Function.comp_def] using counted
  simp only [timeless, Prod.mk.injEq] at alike
  obtain ⟨sameId, sameTemplate, _, alikeSteps⟩ := alike
  simp only [timeless, recomputed, Prod.mk.injEq]
  exact ⟨sameId, sameTemplate, by rw [sameCount, sameLength], alikeSteps⟩

section NewRecords

variable {record record' : Step → Except TaskFault StepRecord}
  (alikeRecords :
    ∀ step step' : Step, step.timeless = step'.timeless →
      ((record step).map fun new => (step.withRecord new).timeless) =
        (record' step').map fun new => (step'.withRecord new).timeless)

include alikeRecords

/-- Where steps that are alike get records alike, the first refusal is the same in both lists. -/
theorem timeless_newRecords?
    {steps steps' : List Step}
    (alike : steps.map Step.timeless = steps'.map Step.timeless) :
    ((newRecords? record steps).map fun updated => updated.1.map Step.timeless) =
      (newRecords? record' steps').map fun updated => updated.1.map Step.timeless := by
  induction steps generalizing steps' with
  | nil =>
      cases steps' with
      | nil =>
          rfl
      | cons head rest =>
          cases alike
  | cons head rest inductionHypothesis =>
      cases steps' with
      | nil =>
          cases alike
      | cons head' rest' =>
          obtain ⟨sameHead, sameRest⟩ := List.cons.inj alike
          rcases Except.cases_of_map_eq_map (alikeRecords head head' sameHead) with
            ⟨fault, refused, refused'⟩ | ⟨new, new', given, given', alikeNew⟩
          · simp only [newRecords?, refused, refused']
            rfl
          · rcases Except.cases_of_map_eq_map (inductionHypothesis sameRest) with
              ⟨fault, refused, refused'⟩ | ⟨updated, updated', others, others', alikeOthers⟩
            · simp only [newRecords?, given, given', refused, refused']
              rfl
            · simp only [newRecords?, given, given', others, others', Except.map,
                List.map_cons, alikeNew, alikeOthers]

theorem timeless_withRecords?
    (alike : task.timeless = task'.timeless) :
    (task.withRecords? record).map timeless = (task'.withRecords? record').map timeless := by
  rcases Except.cases_of_map_eq_map
      (timeless_newRecords? alikeRecords (timeless_steps alike)) with
    ⟨fault, refused, refused'⟩ | ⟨updated, updated', given, given', alikeSteps⟩
  · rw [withRecords?, withRecords?, refused, refused']
    rfl
  · rw [withRecords?, withRecords?, given, given']
    simp only [timeless, Prod.mk.injEq] at alike
    obtain ⟨sameId, sameTemplate, samePercentage, _⟩ := alike
    simp only [Except.map, timeless, sameId, sameTemplate, samePercentage, alikeSteps]

end NewRecords

/-- The same steps of tasks that are alike are resolved alike. -/
theorem timeless_finishSelected
    {status : StepStatus}
    (final : status.isTerminal = true)
    (selected selected' : Step → Prop)
    [DecidablePred selected]
    [DecidablePred selected']
    (alikeSelected :
      ∀ step step' : Step, step.timeless = step'.timeless →
        (selected step ↔ selected' step'))
    (alike : task.timeless = task'.timeless)
    (time time' : Timestamp) :
    ((task.withRecords? fun step =>
        if selected step then step.finish status time performer
        else .ok step.record).map timeless) =
      (task'.withRecords? fun step =>
        if selected' step then step.finish status time' performer
        else .ok step.record).map timeless := by
  refine timeless_withRecords? (fun step step' alikeSteps => ?_) alike
  by_cases isSelected : selected step
  · simp only [if_pos isSelected, if_pos ((alikeSelected step step' alikeSteps).mp isSelected)]
    exact Step.timeless_finish final alikeSteps time time'
  · simp only [if_neg isSelected,
      if_neg (mt (alikeSelected step step' alikeSteps).mpr isSelected)]
    exact congrArg Except.ok alikeSteps

theorem timeless_finishStep
    {status : StepStatus}
    (final : status.isTerminal = true)
    (alike : task.timeless = task'.timeless)
    (order : Int32)
    (time time' : Timestamp)
    (performer : String) :
    (task.finishStep order status time performer).map timeless =
      (task'.finishStep order status time' performer).map timeless := by
  refine timeless_finishSelected final (fun step => step.order = order)
    (fun step => step.order = order) ?_ alike time time'
  intro step step' alikeSteps
  rw [Step.order_eq_of_timeless alikeSteps]

theorem timeless_skipBetween
    (alike : task.timeless = task'.timeless)
    (after before : Int32)
    (time time' : Timestamp)
    (performer : String) :
    (task.skipBetween after before time performer).map timeless =
      (task'.skipBetween after before time' performer).map timeless := by
  refine timeless_finishSelected rfl _ _ ?_ alike time time'
  intro step step' alikeSteps
  rw [Step.order_eq_of_timeless alikeSteps, Step.status_eq_of_timeless alikeSteps]

theorem timeless_reopenRange
    (alike : task.timeless = task'.timeless)
    (first last : Int32) :
    (task.reopenRange first last).timeless = (task'.reopenRange first last).timeless := by
  have alikeSteps :
      (task.reopenRange first last).steps.map Step.timeless =
        (task'.reopenRange first last).steps.map Step.timeless := by
    simp only [reopenRange, withRecords, List.map_map]
    refine map_eq_map_of_determined (fun step step' alikeStep => ?_) (timeless_steps alike)
    simp only [Function.comp_apply, Step.order_eq_of_timeless alikeStep]
    split
    · exact Step.timeless_reopened alikeStep
    · exact alikeStep
  simp only [timeless, Prod.mk.injEq] at alike
  obtain ⟨sameId, sameTemplate, samePercentage, _⟩ := alike
  simp only [timeless, Prod.mk.injEq]
  exact ⟨sameId, sameTemplate, samePercentage, alikeSteps⟩

end FieldTask

/-! ## Requests -/

namespace CompletionRequest

variable {task task' : FieldTask} {current current' : Step}

theorem timeless_actOn
    (request : CompletionRequest)
    (alike : task.timeless = task'.timeless)
    (alikeCurrent : current.timeless = current'.timeless)
    (time time' : Timestamp)
    (performer : String) :
    (request.actOn task current time performer).map FieldTask.timeless =
      (request.actOn task' current' time' performer).map FieldTask.timeless := by
  have final := request.outcomeStatus_isTerminal
  have sameOrder := Step.order_eq_of_timeless alikeCurrent
  have resolved :=
    FieldTask.timeless_finishStep final alike current'.order time time' performer
  simp only [actOn, sameOrder]
  cases request.action with
  | advance =>
      exact Except.map_mapError_congr resolved Failure.task
  | again =>
      exact congrArg Except.ok (FieldTask.timeless_reopenRange alike _ _)
  | jump order =>
      simp only [FieldTask.isNone_stepAt?_of_timeless alike]
      split
      · rfl
      · split
        · exact congrArg Except.ok (FieldTask.timeless_reopenRange alike _ _)
        · refine Except.map_mapError_congr (Except.map_bind_congr resolved ?_) Failure.task
          intro finished finished' alikeFinished
          exact FieldTask.timeless_skipBetween alikeFinished _ _ time time' performer

/--
A request answers two tasks that are alike with the same failure or with tasks
that are alike, whenever it comes.
-/
theorem timeless_applyTo
    (request : CompletionRequest)
    (alike : task.timeless = task'.timeless)
    (time time' : Timestamp)
    (performer : String) :
    (request.applyTo task time performer).map FieldTask.timeless =
      (request.applyTo task' time' performer).map FieldTask.timeless := by
  have found := FieldTask.timeless_step? alike request.step
  unfold applyTo
  cases isCurrent : task.step? request.step with
  | none =>
      rw [isCurrent] at found
      rw [Option.map_eq_none_iff.mp found.symm]
  | some current =>
      rw [isCurrent] at found
      obtain ⟨current', isCurrent', alikeCurrent⟩ := Option.map_eq_some_iff.mp found.symm
      simp only [isCurrent', Step.id_eq_of_timeless alikeCurrent,
        Step.status_eq_of_timeless alikeCurrent]
      split
      · rfl
      · have acted := timeless_actOn request alike alikeCurrent.symm time time' performer
        rcases Except.cases_of_map_eq_map acted with
          ⟨failure, failed, failed'⟩ | ⟨updated, updated', isUpdated, isUpdated', alikeUpdated⟩
        · rw [failed, failed']
        · rw [isUpdated, isUpdated']
          exact congrArg Except.ok (FieldTask.timeless_recomputed alikeUpdated)

end CompletionRequest

end Fieldwork
