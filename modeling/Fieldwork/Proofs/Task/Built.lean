import Mathlib.Data.List.Perm.Basic
import Fieldwork.Proofs.Task.Edits
import Fieldwork.Proofs.Task.Focus
import Fieldwork.Task.Stored

namespace Fieldwork

/-!
# What tasks are built from

A task is built from parts exactly where its percentage lies between zero and
one hundred and no identifier and no order is given twice.  Its steps are the
given ones in ascending order, and no change to the task moves them or touches
their plans.  The search by halves therefore always finds what a look through
the list finds, and the step behind another is the one of the next order.
-/

namespace Percentage

/-- A given value is the percentage that it is read as. -/
theorem ofGiven?_eq_some_iff
    {given : GivenReal}
    {percentage : Percentage} :
    ofGiven? given = some percentage ↔ given = percentage.value := by
  obtain ⟨value, atLeast, atMost⟩ := percentage
  cases given with
  | finite other =>
      constructor
      · intro accepted
        simp only [ofGiven?, ofReal?] at accepted
        split at accepted
        · split at accepted <;> cases accepted
          rfl
        · cases accepted
      · intro same
        cases same
        rw [ofGiven?, ofReal?, dif_pos atLeast, dif_pos atMost]
  | infinite negative =>
      simp [ofGiven?]
  | notANumber =>
      simp [ofGiven?]

end Percentage

/-- A sorted list stays as it is, since sorting only rearranges it. -/
theorem sortSteps_of_ascending
    {steps : List Step}
    (ascending : steps.Pairwise fun left right => left.order < right.order) :
    sortSteps steps = steps := by
  have sorted := pairwise_sortSteps (orders_nodup_of_ascending ascending)
  refine (sortSteps_perm steps).eq_of_pairwise ?_ sorted ascending
  intro left right _ _ before after
  exact (Int32.lt_asymm before after).elim

/-- What the parts of a task have to be. -/
structure TaskParts.Fit (parts : TaskParts) : Prop where
  percentage :
    ∃ value : Binary64,
      parts.percentage = value ∧
        0 ≤ value.steps ∧ value.steps ≤ 100 * (Binary64.stepsPerUnit : Int)
  ids : (parts.steps.map Step.id).Nodup
  orders : (parts.steps.map Step.order).Nodup

namespace FieldTask

/-- No step is repeated in a list where no identifier and no order is. -/
theorem repeatedStep?_eq_none_of_nodup
    {task : Int64}
    {ids : List Int64}
    {orders : List Int32}
    {steps : List Step}
    (distinctIds : (steps.map Step.id).Nodup)
    (distinctOrders : (steps.map Step.order).Nodup)
    (freshIds : ∀ step ∈ steps, step.id ∉ ids)
    (freshOrders : ∀ step ∈ steps, step.order ∉ orders) :
    repeatedStep? task ids orders steps = none := by
  induction steps generalizing ids orders with
  | nil =>
      rfl
  | cons step rest inductionHypothesis =>
      rw [List.map_cons, List.nodup_cons] at distinctIds distinctOrders
      have freshId : step.id ∉ ids := freshIds step (by simp)
      have freshOrder : step.order ∉ orders := freshOrders step (by simp)
      have restFresh :
          repeatedStep? task (step.id :: ids) (step.order :: orders) rest = none := by
        apply inductionHypothesis distinctIds.2 distinctOrders.2
        · intro other member earlier
          rcases List.mem_cons.mp earlier with same | inIds
          · exact distinctIds.1 (same ▸ List.mem_map_of_mem member)
          · exact freshIds other (List.mem_cons_of_mem _ member) inIds
        · intro other member earlier
          rcases List.mem_cons.mp earlier with same | inOrders
          · exact distinctOrders.1 (same ▸ List.mem_map_of_mem member)
          · exact freshOrders other (List.mem_cons_of_mem _ member) inOrders
      simp [repeatedStep?, freshId, freshOrder, restFresh]

theorem repeatedStep?_eq_none_iff
    {task : Int64}
    {steps : List Step} :
    repeatedStep? task [] [] steps = none ↔
      (steps.map Step.id).Nodup ∧ (steps.map Step.order).Nodup := by
  constructor
  · intro noneRepeated
    obtain ⟨⟨ids, _⟩, orders, _⟩ := nodup_of_repeatedStep?_eq_none noneRepeated
    exact ⟨ids, orders⟩
  · rintro ⟨ids, orders⟩
    exact repeatedStep?_eq_none_of_nodup ids orders (by simp) (by simp)

/-- A task is built from its own parts, with the steps given in any order. -/
theorem build_eq_ok_iff
    {parts : TaskParts}
    {task : FieldTask} :
    build parts = .ok task ↔
      parts.percentage = task.percentage.value ∧
        (parts.steps.map Step.id).Nodup ∧ (parts.steps.map Step.order).Nodup ∧
        task.id = parts.id ∧ task.templateId = parts.templateId ∧
        task.steps = sortSteps parts.steps := by
  unfold build
  constructor
  · intro built
    split at built
    · cases built
    · rename_i percentage accepted
      split at built
      · cases built
      · rename_i noneRepeated
        cases built
        obtain ⟨ids, orders⟩ := repeatedStep?_eq_none_iff.mp noneRepeated
        exact ⟨Percentage.ofGiven?_eq_some_iff.mp accepted, ids, orders, rfl, rfl, rfl⟩
  · rintro ⟨samePercentage, ids, orders, sameId, sameTemplate, sameSteps⟩
    have accepted := Percentage.ofGiven?_eq_some_iff.mpr samePercentage
    have noneRepeated : repeatedStep? parts.id [] [] parts.steps = none :=
      repeatedStep?_eq_none_iff.mpr ⟨ids, orders⟩
    split
    · rename_i refused
      rw [accepted] at refused
      cases refused
    · rename_i percentage acceptedToo
      obtain rfl : task.percentage = percentage :=
        Option.some.inj (accepted.symm.trans acceptedToo)
      split
      · rename_i fault someRepeated
        rw [noneRepeated] at someRepeated
        cases someRepeated
      · exact congrArg Except.ok
          (eq_of_parts sameId.symm sameTemplate.symm sameSteps.symm rfl)

theorem exists_build_iff
    {parts : TaskParts} :
    (∃ task, build parts = .ok task) ↔ parts.Fit := by
  constructor
  · rintro ⟨task, built⟩
    obtain ⟨percentage, ids, orders, _⟩ := build_eq_ok_iff.mp built
    exact ⟨⟨_, percentage, task.percentage.atLeast, task.percentage.atMost⟩, ids, orders⟩
  · rintro ⟨⟨value, isValue, atLeast, atMost⟩, ids, orders⟩
    have noneRepeated : repeatedStep? parts.id [] [] parts.steps = none :=
      repeatedStep?_eq_none_iff.mpr ⟨ids, orders⟩
    exact ⟨⟨parts.id, parts.templateId, sortSteps parts.steps, ⟨value, atLeast, atMost⟩,
        wellOrdered_sortSteps noneRepeated⟩,
      build_eq_ok_iff.mpr ⟨isValue, ids, orders, rfl, rfl, rfl⟩⟩

/-- A task that was read has been built from what was read. -/
theorem exists_parts_of_read
    {document : Json.Document}
    {task : FieldTask}
    (reads : read document = .ok task) :
    ∃ parts, build parts = .ok task := by
  obtain ⟨fields, _, reads⟩ := Except.bind_eq_ok_iff.mp reads
  obtain ⟨id, _, reads⟩ := Except.bind_eq_ok_iff.mp reads
  cases built :
      build {
        id
        templateId := fields.templateId
        steps := fields.steps
        percentage := fields.percentage } with
  | ok other =>
      rw [built] at reads
      cases reads
      exact ⟨_, built⟩
  | error fault =>
      rw [built] at reads
      cases reads

/-- What a task keeps of its steps: distinct, in order, and authored without a gap. -/
structure WellKept (task : FieldTask) : Prop where
  ids : (task.steps.map Step.id).Nodup
  ascending : task.steps.Pairwise fun left right => left.order < right.order
  percentage :
    0 ≤ task.percentage.value.steps ∧
      task.percentage.value.steps ≤ 100 * (Binary64.stepsPerUnit : Int)
  names : ∀ step ∈ task.steps, Text.isBlank step.name = false
  distinctOutcomes : ∀ step ∈ task.steps, (step.plan.outcomes.map AuthoredOutcome.id).Nodup
  outcomeIds :
    ∀ step ∈ task.steps, ∀ outcome ∈ step.plan.outcomes, Text.isBlank outcome.id = false
  targets :
    ∀ step ∈ task.steps, ∀ outcome ∈ step.plan.outcomes, ∀ target,
      outcome.action.target? = some target → outcome.action = .jump target

/-- How the steps of a task are found: by their order, by a jump, and one behind the other. -/
structure FindsSteps (task : FieldTask) : Prop where
  stepAt :
    ∀ order, task.stepAt? order = task.steps.find? fun step => step.order = order
  jump :
    ∀ step order,
      task.target step (.jump order) =
        match task.stepAt? order with
        | some found => .ok (some found)
        | none => .error (.missingOrder step.name order)
  after :
    ∀ step ∈ task.steps, ∀ next,
      task.stepAfter? step.id = some next ↔
        next ∈ task.steps ∧ step.order < next.order ∧
          ∀ other ∈ task.steps, step.order < other.order → next.order ≤ other.order

theorem wellKept
    (task : FieldTask) :
    task.WellKept where
  ids := task.ids_nodup
  ascending := task.ascending
  percentage := ⟨task.percentage.atLeast, task.percentage.atMost⟩
  names := fun step _ => step.plan.solidName
  distinctOutcomes := fun step _ => step.plan.distinctOutcomes
  outcomeIds := fun _ _ outcome _ => outcome.solidId
  targets := by
    intro step _ outcome _ target aims
    cases action : outcome.action with
    | jump aimed =>
        rw [action] at aims
        exact congrArg OutcomeAction.jump aims
    | _ =>
        rw [action] at aims
        cases aims

/-- The search by halves finds the first step of an order, as a look through the list does. -/
theorem stepAt?_eq_find?
    (task : FieldTask)
    (order : Int32) :
    task.stepAt? order = task.steps.find? fun step => step.order = order :=
  searchOrder_eq_find? task.ascending (Nat.lt_succ_self _)

/-- The step behind another is the one of the least order beyond its own. -/
theorem stepAfter?_eq_some_iff
    {task : FieldTask}
    {step next : Step}
    (member : step ∈ task.steps) :
    task.stepAfter? step.id = some next ↔
      next ∈ task.steps ∧ step.order < next.order ∧
        ∀ other ∈ task.steps, step.order < other.order → next.order ≤ other.order := by
  rcases stepAfter?_cases member with ⟨isLast, last⟩ | ⟨found, inTask, isFound, behind, least⟩
  · rw [isLast]
    constructor
    · intro impossible
      cases impossible
    · rintro ⟨nextInTask, beyond, _⟩
      exact (Int32.lt_irrefl (Int32.lt_of_lt_of_le beyond (last next nextInTask))).elim
  · rw [isFound]
    constructor
    · intro same
      cases same
      exact ⟨inTask, behind, least⟩
    · rintro ⟨nextInTask, beyond, nextLeast⟩
      have sameOrder : found.order = next.order :=
        Int32.le_antisymm (least next nextInTask beyond) (nextLeast found inTask behind)
      rw [eq_of_order_eq inTask nextInTask sameOrder]

theorem findsSteps
    (task : FieldTask) :
    task.FindsSteps where
  stepAt := task.stepAt?_eq_find?
  jump := by
    intro step order
    rw [stepAt?_eq_find?]
    rfl
  after := fun _ member _ => stepAfter?_eq_some_iff member

/--
A task is built from parts exactly where they are fit for it, and then has the
given steps in strictly ascending order; reading a document builds a task from
parts as well.  Whatever changes are made to a built task, its steps keep the
plans that were given, each at its place, and are found by their orders.
-/
theorem built_task_stays_sorted :
    (∀ parts : TaskParts, (∃ task, build parts = .ok task) ↔ parts.Fit) ∧
      (∀ parts task,
        build parts = .ok task →
          task.steps.Perm parts.steps ∧
            task.steps.Pairwise fun left right => left.order < right.order) ∧
      (∀ document task, read document = .ok task → ∃ parts, build parts = .ok task) ∧
      ∀ parts task edits,
        build parts = .ok task →
          ((task.run edits).steps.map Step.plan).Perm (parts.steps.map Step.plan) ∧
            (task.run edits).WellKept ∧ (task.run edits).FindsSteps := by
  refine ⟨fun parts => exists_build_iff, ?_, fun document task => exists_parts_of_read, ?_⟩
  · intro parts task built
    obtain ⟨_, _, _, _, _, sorted⟩ := build_eq_ok_iff.mp built
    exact ⟨sorted ▸ sortSteps_perm parts.steps, task.ascending⟩
  · intro parts task edits built
    obtain ⟨_, _, _, _, _, sorted⟩ := build_eq_ok_iff.mp built
    refine ⟨?_, wellKept _, findsSteps _⟩
    rw [plans_of_run, sorted]
    exact (sortSteps_perm parts.steps).map Step.plan

/-- Three steps that are given out of order, one of them before the order zero. -/
def unsortedParts : TaskParts where
  id := 7
  steps :=
    [Step.plain 13 30 "Close the cabinet" (by decide),
      Step.plain 11 (-2) "Open the cabinet" (by decide),
      Step.plain 12 5 "Empty the cabinet" (by decide)]

/-- A start that is followed by a refused one, a step that is set back, and a new count. -/
def startedTwice : List TaskEdit :=
  [.move 11 .inProgress ⟨⟨2024, 5, 6⟩, 0, 0⟩ none, .move 11 .inProgress ⟨⟨2024, 5, 7⟩, 0, 0⟩ none,
    .reopen 12, .recount]

theorem built_task_stays_sorted_unsorted :
    ∃ task,
      build unsortedParts = .ok task ∧
        (task.run startedTwice).steps.map Step.id = [11, 12, 13] ∧
        ((task.run startedTwice).steps.map Step.plan).Perm
          (unsortedParts.steps.map Step.plan) ∧
        (task.run startedTwice).WellKept ∧ (task.run startedTwice).FindsSteps := by
  have built : ∃ task, build unsortedParts = .ok task ∧
      (task.run startedTwice).steps.map Step.id = [11, 12, 13] :=
    ⟨_, rfl, by decide⟩
  obtain ⟨task, built, inOrder⟩ := built
  exact ⟨task, built, inOrder,
    built_task_stays_sorted.2.2.2 unsortedParts task startedTwice built⟩

end FieldTask

end Fieldwork
