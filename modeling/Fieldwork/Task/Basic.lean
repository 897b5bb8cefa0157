import Fieldwork.Task.Step

namespace Fieldwork

/-!
# Tasks

A task is a list of steps in strictly ascending order, with distinct
identifiers, and a percentage of completion.  Operations replace records of
steps and never their plans, so the order and the identifiers stay as they are.
-/

/-- A binary64 value as it may be given: a finite number, an infinity, or no number at all. -/
inductive GivenReal where
  | finite (value : Binary64)
  | infinite (negative : Bool)
  | notANumber
  deriving DecidableEq, Repr

instance : Coe Binary64 GivenReal :=
  ⟨.finite⟩

/-- A real from zero to one hundred. -/
structure Percentage where
  value : Binary64
  atLeast : 0 ≤ value.steps
  atMost : value.steps ≤ 100 * (Binary64.stepsPerUnit : Int)
  deriving DecidableEq, Repr

namespace Percentage

def zero : Percentage :=
  ⟨Binary64.zero false, by decide, by decide⟩

/-- A real as a percentage, if it is one. -/
def ofReal?
    (value : Binary64) :
    Option Percentage :=
  if atLeast : 0 ≤ value.steps then
    if atMost : value.steps ≤ 100 * (Binary64.stepsPerUnit : Int) then
      some ⟨value, atLeast, atMost⟩
    else
      none
  else
    none

/-- A given value as a percentage; neither an infinity nor what is no number is one. -/
def ofGiven? :
    GivenReal →
    Option Percentage
  | .finite value => ofReal? value
  | _ => none

/-- A natural up to one hundred as a percentage; a greater one counts as zero. -/
def ofNat
    (value : Nat) :
    Percentage :=
  ((Binary64.ofInt? value).bind ofReal?).getD zero

/--
The share of `part` in `whole` in percent, rounded to the nearest natural, a
half going up; all of nothing is everything.
-/
def share
    (part whole : Nat) :
    Percentage :=
  if whole = 0 then ofNat 100
  else ofNat ((200 * part + whole) / (2 * whole))

end Percentage

/-- Steps in strictly ascending order with distinct identifiers. -/
def WellOrdered
    (plans : List StepPlan) :
    Prop :=
  (plans.map StepPlan.id).Nodup ∧ (plans.map StepPlan.order).Pairwise (· < ·)

structure FieldTask where
  id : Int64
  templateId : Option Int64
  steps : List Step
  percentage : Percentage
  wellOrdered : WellOrdered (steps.map Step.plan)

/-- The parts from which a task is built. -/
structure TaskParts where
  id : Int64
  templateId : Option Int64 := none
  steps : List Step := []
  percentage : GivenReal := Binary64.zero false

/-- Put a step at its place in ascending order. -/
def insertStep
    (step : Step) :
    List Step →
    List Step
  | [] =>
      [step]
  | other :: rest =>
      if step.order < other.order then step :: other :: rest
      else other :: insertStep step rest

/-- Steps in ascending order; of equal orders the earlier one stays first. -/
def sortSteps
    (steps : List Step) :
    List Step :=
  steps.foldl (fun sorted step => insertStep step sorted) []

/-- Inserting a step adds it and nothing else. -/
theorem insertStep_perm
    (step : Step)
    (steps : List Step) :
    (insertStep step steps).Perm (step :: steps) := by
  induction steps with
  | nil =>
      exact List.Perm.refl _
  | cons other rest inductionHypothesis =>
      unfold insertStep
      split
      · exact List.Perm.refl _
      · exact (inductionHypothesis.cons other).trans (List.Perm.swap step other rest)

theorem sortSteps_perm
    (steps : List Step) :
    (sortSteps steps).Perm steps := by
  suffices general :
      ∀ sorted : List Step,
        (steps.foldl (fun sorted step => insertStep step sorted) sorted).Perm
          (sorted ++ steps) by
    simpa [sortSteps] using general []
  induction steps with
  | nil =>
      intro sorted
      simp
  | cons step rest inductionHypothesis =>
      intro sorted
      refine (inductionHypothesis (insertStep step sorted)).trans ?_
      refine ((insertStep_perm step sorted).append_right rest).trans ?_
      exact List.perm_middle.symm

/-- The orders of the steps after an insertion. -/
theorem mem_insertStep
    {step other : Step}
    {steps : List Step} :
    other ∈ insertStep step steps ↔ other = step ∨ other ∈ steps := by
  rw [(insertStep_perm step steps).mem_iff, List.mem_cons]

/-- Inserting a step of a new order keeps the orders strictly ascending. -/
theorem pairwise_insertStep
    {step : Step}
    {steps : List Step}
    (ascending : steps.Pairwise fun left right => left.order < right.order)
    (fresh : ∀ other ∈ steps, other.order ≠ step.order) :
    (insertStep step steps).Pairwise fun left right => left.order < right.order := by
  induction steps with
  | nil =>
      simp [insertStep]
  | cons other rest inductionHypothesis =>
      rw [List.pairwise_cons] at ascending
      unfold insertStep
      split
      · rename_i before
        rw [List.pairwise_cons, List.pairwise_cons]
        refine ⟨?_, ascending⟩
        intro later member
        rcases List.mem_cons.mp member with same | inRest
        · exact same ▸ before
        · exact Int32.lt_trans before (ascending.1 later inRest)
      · rename_i notBefore
        have after : other.order < step.order :=
          Std.lt_of_le_of_ne (Int32.not_lt.mp notBefore) (fresh other (by simp))
        rw [List.pairwise_cons]
        refine ⟨?_, inductionHypothesis ascending.2
          fun later member => fresh later (List.mem_cons_of_mem _ member)⟩
        intro later member
        rcases mem_insertStep.mp member with same | inRest
        · exact same ▸ after
        · exact ascending.1 later inRest

/-- Sorting steps of distinct orders puts the orders in strictly ascending order. -/
theorem pairwise_sortSteps
    {steps : List Step}
    (distinct : (steps.map Step.order).Nodup) :
    (sortSteps steps).Pairwise fun left right => left.order < right.order := by
  unfold sortSteps
  suffices general :
      ∀ sorted : List Step,
        (sorted.Pairwise fun left right => left.order < right.order) →
          (∀ step ∈ steps, ∀ other ∈ sorted, other.order ≠ step.order) →
            (steps.foldl (fun sorted step => insertStep step sorted) sorted).Pairwise
              fun left right => left.order < right.order from
    general [] (by simp) (by simp)
  induction steps with
  | nil =>
      intro sorted ascending _
      exact ascending
  | cons step rest inductionHypothesis =>
      intro sorted ascending apart
      rw [List.map_cons, List.nodup_cons] at distinct
      refine inductionHypothesis distinct.2 (insertStep step sorted) ?_ ?_
      · exact pairwise_insertStep ascending (apart step (by simp))
      · intro later member other inSorted
        rcases mem_insertStep.mp inSorted with same | inOld
        · subst same
          intro equalOrders
          exact distinct.1 (equalOrders ▸ List.mem_map_of_mem member)
        · exact apart later (List.mem_cons_of_mem _ member) other inOld

namespace FieldTask

/-- The first step of a list whose identifier or order stands before it. -/
def repeatedStep?
    (task : Int64)
    (ids : List Int64)
    (orders : List Int32) :
    List Step →
    Option TaskFault
  | [] => none
  | step :: rest =>
      if ids.contains step.id then
        some (.duplicateStepId task step.id)
      else if orders.contains step.order then
        some (.duplicateStepOrder task step.order)
      else
        repeatedStep? task (step.id :: ids) (step.order :: orders) rest

/-- A list without a repeated step has distinct identifiers and orders. -/
theorem nodup_of_repeatedStep?_eq_none
    {task : Int64}
    {ids : List Int64}
    {orders : List Int32}
    {steps : List Step}
    (noneRepeated : repeatedStep? task ids orders steps = none) :
    ((steps.map Step.id).Nodup ∧ ∀ step ∈ steps, step.id ∉ ids) ∧
      (steps.map Step.order).Nodup ∧ ∀ step ∈ steps, step.order ∉ orders := by
  induction steps generalizing ids orders with
  | nil =>
      simp
  | cons step rest inductionHypothesis =>
      unfold repeatedStep? at noneRepeated
      split at noneRepeated
      · cases noneRepeated
      · rename_i freshId
        split at noneRepeated
        · cases noneRepeated
        · rename_i freshOrder
          obtain ⟨⟨idsDistinct, idsApart⟩, ordersDistinct, ordersApart⟩ :=
            inductionHypothesis noneRepeated
          have freshId : step.id ∉ ids := by simpa using freshId
          have freshOrder : step.order ∉ orders := by simpa using freshOrder
          refine ⟨⟨?_, ?_⟩, ?_, ?_⟩
          · rw [List.map_cons, List.nodup_cons]
            refine ⟨?_, idsDistinct⟩
            intro member
            obtain ⟨other, inRest, same⟩ := List.mem_map.mp member
            exact idsApart other inRest (same ▸ List.mem_cons_self)
          · intro other member
            rcases List.mem_cons.mp member with same | inRest
            · exact same ▸ freshId
            · exact fun inIds => idsApart other inRest (List.mem_cons_of_mem _ inIds)
          · rw [List.map_cons, List.nodup_cons]
            refine ⟨?_, ordersDistinct⟩
            intro member
            obtain ⟨other, inRest, same⟩ := List.mem_map.mp member
            exact ordersApart other inRest (same ▸ List.mem_cons_self)
          · intro other member
            rcases List.mem_cons.mp member with same | inRest
            · exact same ▸ freshOrder
            · exact fun inOrders =>
                ordersApart other inRest (List.mem_cons_of_mem _ inOrders)

/-- Sorted steps without a repeated one are well ordered. -/
theorem wellOrdered_sortSteps
    {task : Int64}
    {steps : List Step}
    (noneRepeated : repeatedStep? task [] [] steps = none) :
    WellOrdered ((sortSteps steps).map Step.plan) := by
  obtain ⟨⟨idsDistinct, _⟩, ordersDistinct, _⟩ :=
    nodup_of_repeatedStep?_eq_none noneRepeated
  constructor
  · rw [List.map_map]
    exact (((sortSteps_perm steps).map Step.id).nodup_iff).mpr idsDistinct
  · rw [List.map_map, List.pairwise_map]
    exact pairwise_sortSteps ordersDistinct

/--
Build a task with its steps sorted.  The percentage is checked first, then the
steps in the order given, the identifier of each before its order.
-/
def build
    (parts : TaskParts) :
    Except TaskFault FieldTask :=
  match Percentage.ofGiven? parts.percentage with
  | none => .error (.percentageOutOfRange parts.id)
  | some percentage =>
      match noneRepeated : repeatedStep? parts.id [] [] parts.steps with
      | some fault => .error fault
      | none =>
          .ok ⟨parts.id, parts.templateId, sortSteps parts.steps, percentage,
            wellOrdered_sortSteps noneRepeated⟩

def step?
    (task : FieldTask)
    (id : Int64) :
    Option Step :=
  task.steps.find? fun step => step.id = id

/--
The step with an order in a list of ascending orders.  Each round looks at the
middle of the list and keeps the half that can hold the order.
-/
def searchOrder
    (order : Int32) :
    (fuel : Nat) →
    List Step →
    Option Step
  | 0, _ => none
  | fuel + 1, steps =>
      let middle := steps.length / 2
      match steps[middle]? with
      | none => none
      | some step =>
          if step.order = order then some step
          else if order < step.order then
            searchOrder order fuel (steps.take middle)
          else
            searchOrder order fuel (steps.drop (middle + 1))

def stepAt?
    (task : FieldTask)
    (order : Int32) :
    Option Step :=
  searchOrder order (task.steps.length + 1) task.steps

/-- Whether every step is in a final state. -/
def isTerminal
    (task : FieldTask) :
    Bool :=
  task.steps.all fun step => step.status.isTerminal

/-- How many steps are in a final state. -/
def resolvedCount
    (task : FieldTask) :
    Nat :=
  (task.steps.filter fun step => step.status.isTerminal).length

/-- A task whose percentage counts the steps in a final state. -/
def recomputed
    (task : FieldTask) :
    FieldTask :=
  { task with percentage := .share task.resolvedCount task.steps.length }

/-- Giving steps new records leaves their plans alone. -/
theorem map_plan_withRecord
    (record : Step → StepRecord)
    (steps : List Step) :
    (steps.map fun step => step.withRecord (record step)).map Step.plan =
      steps.map Step.plan := by
  simp [Step.withRecord, Function.comp_def]

/-- A task whose steps have new records. -/
def withRecords
    (task : FieldTask)
    (record : Step → StepRecord) :
    FieldTask :=
  { task with
    steps := task.steps.map fun step => step.withRecord (record step)
    wellOrdered := by
      rw [map_plan_withRecord]
      exact task.wellOrdered }

/--
New records for steps, some of which may be refused; the first refusal decides.
The plans stay as they are.
-/
def newRecords?
    (record : Step → Except ε StepRecord) :
    (steps : List Step) →
    Except ε { updated : List Step // updated.map Step.plan = steps.map Step.plan }
  | [] => .ok ⟨[], rfl⟩
  | step :: rest =>
      match record step with
      | .error fault => .error fault
      | .ok new =>
          match newRecords? record rest with
          | .error fault => .error fault
          | .ok ⟨updated, same⟩ =>
              .ok ⟨step.withRecord new :: updated, by simp [Step.withRecord, same]⟩

/-- A task whose steps have new records, unless one of them is refused. -/
def withRecords?
    (task : FieldTask)
    (record : Step → Except ε StepRecord) :
    Except ε FieldTask :=
  (newRecords? record task.steps).map fun updated =>
    { task with
      steps := updated.1
      wellOrdered := by
        rw [updated.2]
        exact task.wellOrdered }

/-- Move one step forward, if the task has it. -/
def moveStep
    (task : FieldTask)
    (id : Int64)
    (next : StepStatus)
    (time : Timestamp)
    (performer : Option String) :
    Except TaskFault FieldTask :=
  task.withRecords? fun step =>
    if step.id = id then step.moveTo next time performer else .ok step.record

/-- Set one step back to pending, if the task has it. -/
def reopenStep
    (task : FieldTask)
    (id : Int64) :
    FieldTask :=
  task.withRecords fun step => if step.id = id then Step.reopened else step.record

def reopenAll
    (task : FieldTask) :
    FieldTask :=
  task.withRecords fun _ => Step.reopened

/-- An authored jump that cannot be made. -/
structure InvalidJump where
  step : Int64
  outcome : String
  /-- The order that no step has, or nothing where no order is named. -/
  target : Option Int32
  deriving DecidableEq, Repr

def InvalidJump.message
    (jump : InvalidJump) :
    String :=
  let subject :=
    "step " ++ integerText jump.step.toInt ++ " option '" ++ jump.outcome ++ "' jumps "
  match jump.target with
  | some target => subject ++ "to missing step order " ++ integerText target.toInt
  | none => subject ++ "without a next_step"

/-- Whether an outcome jumps to no step of the task. -/
def jumpsNowhere
    (task : FieldTask)
    (outcome : AuthoredOutcome) :
    Bool :=
  outcome.action.isUntargetedJump ||
    outcome.action.target?.any fun target => (task.stepAt? target).isNone

/-- The authored jumps that cannot be made, in the order of steps and outcomes. -/
def invalidJumps
    (task : FieldTask) :
    List InvalidJump :=
  task.steps.flatMap fun step =>
    (step.plan.outcomes.filter task.jumpsNowhere).map fun outcome =>
      ⟨step.id, outcome.id, outcome.action.target?⟩

end FieldTask

end Fieldwork
