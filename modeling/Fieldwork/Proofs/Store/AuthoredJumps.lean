import Mathlib.Data.List.Nodup
import Fieldwork.Proofs.Task.Records
import Fieldwork.Proofs.Task.Rules
import Fieldwork.Workflow.Store

namespace Fieldwork

/-!
# Jumps that were authored wrong

An authored jump that names no step of its task is found in three places: in
the report on the task, when the outcome is resolved, and when a store is to
record it.  The report and the store search the steps by halves, resolving
looks through them.  All three agree, and the report lists every such outcome
once, in the order in which it was authored.
-/

/-- What a user selects is an outcome where it is its identifier, between blanks or none. -/
def StepInputs.Selects
    (inputs : StepInputs)
    (outcome : AuthoredOutcome) :
    Prop :=
  ∃ selected, inputs.selected = some selected ∧ Text.trim selected = outcome.id

/-- An identifier picks the outcome that has it, whatever the labels of the others are. -/
theorem StepInputs.Selects.exists_picks
    {step : Step}
    {inputs : StepInputs}
    {outcome : AuthoredOutcome}
    (selects : inputs.Selects outcome)
    (offered : outcome ∈ step.plan.outcomes) :
    ∃ selected, inputs.selected = some selected ∧
      step.Picks (Text.trim selected) outcome := by
  obtain ⟨selected, given, trimmed⟩ := selects
  exact ⟨selected, given, .byId offered trimmed.symm⟩

/-- The identifiers of the authored outcomes with their steps', in the order of both. -/
def FieldTask.authoredIds
    (task : FieldTask) :
    List (Int64 × String) :=
  task.steps.flatMap fun step =>
    step.plan.outcomes.map fun outcome => (step.id, outcome.id)

/-- Whether the report on a task lists an outcome of a step. -/
def FieldTask.Lists
    (task : FieldTask)
    (step : Step)
    (outcome : AuthoredOutcome) :
    Prop :=
  ∃ jump ∈ task.invalidJumps, jump.step = step.id ∧ jump.outcome = outcome.id

namespace FieldTask

variable {task : FieldTask} {step : Step} {inputs : StepInputs}
  {outcome : AuthoredOutcome}

theorem mem_invalidJumps_iff
    {jump : InvalidJump} :
    jump ∈ task.invalidJumps ↔
      ∃ step ∈ task.steps, ∃ outcome ∈ step.plan.outcomes,
        jump = ⟨step.id, outcome.id, outcome.action.target?⟩ ∧
          task.jumpsNowhere outcome = true := by
  simp only [invalidJumps, List.mem_flatMap, List.mem_map, List.mem_filter]
  constructor
  · rintro ⟨step, member, outcome, ⟨offered, nowhere⟩, rfl⟩
    exact ⟨step, member, outcome, offered, rfl, nowhere⟩
  · rintro ⟨step, member, outcome, offered, rfl, nowhere⟩
    exact ⟨step, member, outcome, ⟨offered, nowhere⟩, rfl⟩

/-- The report lists the outcomes that jump nowhere. -/
theorem lists_iff
    (member : step ∈ task.steps)
    (offered : outcome ∈ step.plan.outcomes) :
    task.Lists step outcome ↔ task.jumpsNowhere outcome = true := by
  constructor
  · rintro ⟨jump, listed, sameStep, sameOutcome⟩
    obtain ⟨other, inTask, another, inOther, rfl, nowhere⟩ := mem_invalidJumps_iff.mp listed
    obtain rfl := eq_of_id_eq inTask member sameStep
    obtain rfl : another = outcome :=
      List.inj_on_of_nodup_map other.plan.distinctOutcomes inOther offered sameOutcome
    exact nowhere
  · intro nowhere
    exact ⟨_, mem_invalidJumps_iff.mpr ⟨step, member, outcome, offered, rfl, nowhere⟩, rfl, rfl⟩

/-- The report is a part of the authored outcomes, in their order. -/
theorem invalidJumps_sublist
    (task : FieldTask) :
    (task.invalidJumps.map fun jump => (jump.step, jump.outcome)).Sublist task.authoredIds := by
  unfold invalidJumps authoredIds
  generalize task.jumpsNowhere = nowhere
  induction task.steps with
  | nil =>
      simp
  | cons step rest inductionHypothesis =>
      rw [List.flatMap_cons, List.flatMap_cons, List.map_append, List.map_map]
      exact (List.filter_sublist.map _).append inductionHypothesis

/-- No outcome of a step is authored twice. -/
theorem authoredIds_nodup
    (task : FieldTask) :
    task.authoredIds.Nodup := by
  rw [authoredIds, List.nodup_flatMap]
  constructor
  · intro step member
    have distinct := step.plan.distinctOutcomes
    rw [List.Nodup, List.pairwise_map] at distinct ⊢
    exact distinct.imp fun different same => different (congrArg Prod.snd same)
  · refine (List.pairwise_map.mp task.ids_nodup).imp ?_
    intro left right different pair inLeft inRight
    obtain ⟨_, _, rfl⟩ := List.mem_map.mp inLeft
    obtain ⟨_, _, same⟩ := List.mem_map.mp inRight
    exact different (congrArg Prod.fst same).symm

/-- Resolving a selected outcome fails for how it was authored where it jumps nowhere. -/
theorem resolve_misconfigured_iff
    (member : step ∈ task.steps)
    (authored : step.outcomeKind = .authored)
    (offered : outcome ∈ step.plan.outcomes)
    (ownInputs : ∀ owner ∈ inputs.step, owner = step.id)
    (selects : inputs.Selects outcome) :
    (∃ fault, task.resolve step inputs = .error fault ∧ fault.kind = .configuration) ↔
      task.jumpsNowhere outcome = true := by
  obtain ⟨selected, given, picks⟩ := selects.exists_picks offered
  exact resolve_picked_misconfigured_iff ⟨step, member, rfl⟩ ownInputs authored given picks

end FieldTask

theorem TaskFault.kind_ne_configuration
    (fault : TaskFault) :
    fault.kind ≠ .configuration := by
  intro misconfigured
  cases fault <;> cases misconfigured

/-- An action is misconfigured for a store only where it jumps to a missing step. -/
theorem CompletionRequest.misconfigured_of_actOn
    {request : CompletionRequest}
    {task : FieldTask}
    {current : Step}
    {time : Timestamp}
    {performer : String}
    {failure : Failure}
    (failed : request.actOn task current time performer = .error failure)
    (misconfigured : failure.kind = .configuration) :
    ∃ order, request.action = .jump order ∧ ∀ other ∈ task.steps, other.order ≠ order := by
  -- What the steps themselves refuse is never a matter of configuration.
  have notRefused : ∀ {result : Except TaskFault FieldTask},
      result.mapError Failure.task ≠ .error failure := by
    intro result refused
    obtain ⟨fault, _, rfl⟩ := Except.mapError_eq_error_iff.mp refused
    exact fault.kind_ne_configuration misconfigured
  cases action : request.action with
  | advance =>
      simp only [actOn, action] at failed
      exact (notRefused failed).elim
  | again =>
      simp only [actOn, action] at failed
      cases failed
  | jump order =>
      simp only [actOn, action] at failed
      split at failed
      · rename_i missing
        exact ⟨order, rfl, FieldTask.isNone_stepAt?_iff.mp missing⟩
      · split at failed
        · cases failed
        · exact (notRefused failed).elim

/-- A store finds a request misconfigured only where it jumps to a step that its task has not. -/
theorem TaskStore.misconfigured_of_complete
    {store : TaskStore}
    {task : FieldTask}
    {request : CompletionRequest}
    {time : Timestamp}
    {failure : Failure}
    (stored : store.task? request.task = some task)
    (failed : store.complete request time = .error failure)
    (misconfigured : failure.kind = .configuration) :
    ∃ order, request.action = .jump order ∧ ∀ other ∈ task.steps, other.order ≠ order := by
  unfold complete at failed
  split at failed
  · cases failed
  · rw [stored] at failed
    have refused := Except.map_eq_error_iff.mp failed
    unfold CompletionRequest.applyTo at refused
    split at refused
    · cases refused
      cases misconfigured
    · split at refused
      · cases refused
        cases misconfigured
      · exact CompletionRequest.misconfigured_of_actOn
          (Except.map_eq_error_iff.mp refused) misconfigured

namespace FieldTask

variable {task : FieldTask} {step : Step} {inputs : StepInputs}
  {outcome : AuthoredOutcome}

/-- The action of an outcome jumps where the outcome does. -/
theorem jumpsNowhere_of_authoredAction
    {order : Int32}
    (acts : step.authoredAction outcome = .ok (.jump order))
    (missing : ∀ other ∈ task.steps, other.order ≠ order) :
    task.jumpsNowhere outcome = true := by
  rw [jumpsNowhere_iff]
  unfold Step.authoredAction at acts
  split at acts <;> cases acts
  rename_i action
  exact .inr ⟨order, action, missing⟩

/-- What a resolved outcome does next is what was authored. -/
theorem authoredAction_of_resolve
    {resolved : ResolvedOutcome}
    (member : step ∈ task.steps)
    (authored : step.outcomeKind = .authored)
    (offered : outcome ∈ step.plan.outcomes)
    (ownInputs : ∀ owner ∈ inputs.step, owner = step.id)
    (selects : inputs.Selects outcome)
    (resolves : task.resolve step inputs = .ok resolved) :
    resolved.step = step.id ∧ step.authoredAction outcome = .ok resolved.action := by
  obtain ⟨selected, given, picks⟩ := selects.exists_picks offered
  rw [resolve_of_picks ⟨step, member, rfl⟩ ownInputs authored given picks] at resolves
  obtain ⟨action, acts, chosen⟩ := Except.bind_eq_ok_iff.mp resolves
  obtain ⟨_, record, _, rfl⟩ := resolveChoice_eq_ok_iff.mp chosen
  exact ⟨rfl, acts⟩

/--
Where a step asks for one of its authored outcomes and one of them is selected,
resolving fails for how the task was authored exactly where the report lists
this outcome, whatever else was entered.  No store that holds the task finds a
request for an outcome misconfigured that is not listed, and a resolved outcome
makes such a request.  The report lists the outcomes that jump nowhere, each
once, in the order of the steps and then of their outcomes.
-/
theorem authored_jumps_agree
    (member : step ∈ task.steps)
    (authored : step.outcomeKind = .authored)
    (offered : outcome ∈ step.plan.outcomes)
    (ownInputs : ∀ owner ∈ inputs.step, owner = step.id)
    (selects : inputs.Selects outcome) :
    ((∃ fault, task.resolve step inputs = .error fault ∧ fault.kind = .configuration) ↔
        task.Lists step outcome) ∧
      (∀ resolved, task.resolve step inputs = .ok resolved →
        resolved.step = step.id ∧ step.authoredAction outcome = .ok resolved.action) ∧
      (¬ task.Lists step outcome →
        ∀ (store : TaskStore) (request : CompletionRequest) time failure,
          store.task? request.task = some task →
          step.authoredAction outcome = .ok request.action →
          store.complete request time = .error failure →
          failure.kind ≠ .configuration) ∧
      (∀ jump, jump ∈ task.invalidJumps ↔
        ∃ step ∈ task.steps, ∃ outcome ∈ step.plan.outcomes,
          jump = ⟨step.id, outcome.id, outcome.action.target?⟩ ∧
            (outcome.action = .jump none ∨
              ∃ target, outcome.action = .jump (some target) ∧
                ∀ other ∈ task.steps, other.order ≠ target)) ∧
      (task.invalidJumps.map fun jump => (jump.step, jump.outcome)).Sublist
        task.authoredIds ∧
      task.authoredIds.Nodup := by
  have listed := lists_iff member offered
  refine ⟨?_, ?_, ?_, ?_, task.invalidJumps_sublist, task.authoredIds_nodup⟩
  · rw [listed]
    exact resolve_misconfigured_iff member authored offered ownInputs selects
  · intro resolved
    exact authoredAction_of_resolve member authored offered ownInputs selects
  · intro notListed store request time failure stored acts failed misconfigured
    obtain ⟨order, jumps, missing⟩ :=
      TaskStore.misconfigured_of_complete stored failed misconfigured
    rw [jumps] at acts
    exact notListed (listed.mpr (jumpsNowhere_of_authoredAction acts missing))
  · intro jump
    simp only [mem_invalidJumps_iff, jumpsNowhere_iff]

/-- A jump to an order that no step has, and one to the step behind. -/
def lostWay : AuthoredOutcome :=
  ⟨"lost", "Go on", .jump (some 9), by decide⟩

def wayOn : AuthoredOutcome :=
  ⟨"on", "Go on", .jump (some 2), by decide⟩

/-- A step whose two outcomes have one label and are told apart by their identifiers. -/
def crossroads : Step :=
  ⟨⟨11, none, "Choose the way", 1, true, false, .text, [lostWay, wayOn], by decide,
    by decide⟩, {}⟩

def crossing : FieldTask where
  id := 7
  templateId := none
  steps := [crossroads, Step.plain 12 2 "Go on" (by decide)]
  percentage := .zero
  wellOrdered := by
    constructor <;> decide

/-- The way that leads nowhere is listed and refused, without a note for the step. -/
theorem authored_jumps_agree_lost :
    let inputs : StepInputs := { step := some 11, selected := some " lost " }
    crossroads ∈ crossing.steps ∧ crossroads.outcomeKind = .authored ∧
      lostWay ∈ crossroads.plan.outcomes ∧
      (∀ owner ∈ inputs.step, owner = crossroads.id) ∧ inputs.Selects lostWay ∧
      crossing.Lists crossroads lostWay ∧
      ∃ fault, crossing.resolve crossroads inputs = .error fault ∧
        fault.kind = .configuration := by
  intro inputs
  have member : crossroads ∈ crossing.steps := List.mem_cons_self
  have authored : crossroads.outcomeKind = .authored := by decide
  have offered : lostWay ∈ crossroads.plan.outcomes := List.mem_cons_self
  have ownInputs : ∀ owner ∈ inputs.step, owner = crossroads.id := by
    intro owner isOwner
    exact (Option.some.inj isOwner).symm
  have selects : inputs.Selects lostWay := ⟨" lost ", rfl, by decide⟩
  obtain ⟨refusedIff, _⟩ := authored_jumps_agree member authored offered ownInputs selects
  have listed : crossing.Lists crossroads lostWay :=
    ⟨⟨11, "lost", some 9⟩, by decide, rfl, rfl⟩
  exact ⟨member, authored, offered, ownInputs, selects, listed, refusedIff.mpr listed⟩

end FieldTask

end Fieldwork
