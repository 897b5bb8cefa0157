import Fieldwork.Proofs.Except
import Fieldwork.Proofs.Fields
import Fieldwork.Proofs.Sameness
import Fieldwork.Proofs.Task.Focus
import Fieldwork.Task.Outcome

namespace Fieldwork

/-!
# What resolving a step comes to

An outcome belongs to the step that was resolved, its action leads on inside
the task, and the values that it records have no parts.  A refusal is either
something that the user can enter otherwise or a jump that was authored wrong.
-/

/-- A refusal that is due to the entries or to the authored outcomes of the step. -/
def OutcomeFault.ConcernsStep
    (fault : OutcomeFault) :
    Prop :=
  fault.kind = .validation ∨ fault.kind = .configuration

namespace Step

variable {step : Step} {inputs : StepInputs} {fault : OutcomeFault}

theorem requiredSelection_error
    (failed : inputs.requiredSelection step = .error fault) :
    fault.kind = .validation := by
  unfold StepInputs.requiredSelection at failed
  split at failed <;> cases failed
  rfl

theorem callChoice_error
    (failed : step.callChoice inputs = .error fault) :
    fault.kind = .validation := by
  rcases Except.bind_eq_error_iff.mp failed with missing | ⟨selected, _, refused⟩
  · exact requiredSelection_error missing
  · simp only at refused
    split at refused
    · cases refused
    · split at refused <;> cases refused
      rfl

/-- An authored outcome is refused only where it jumps without a target. -/
theorem authoredAction_error
    {outcome : AuthoredOutcome}
    (failed : step.authoredAction outcome = .error fault) :
    fault.ConcernsStep := by
  unfold authoredAction at failed
  split at failed <;> cases failed
  exact .inr rfl

theorem authoredChoice_error
    (failed : step.authoredChoice inputs = .error fault) :
    fault.ConcernsStep := by
  rcases Except.bind_eq_error_iff.mp failed with missing | ⟨selected, _, refused⟩
  · exact .inl (requiredSelection_error missing)
  · split at refused
    · cases refused
      exact .inl rfl
    · exact authoredAction_error (Except.map_eq_error_iff.mp refused)

theorem genericValue_error
    {selected : String}
    (failed : step.genericValue selected = .error fault) :
    fault.kind = .validation := by
  unfold genericValue at failed
  simp only at failed
  split at failed
  · cases failed
  · split at failed <;> cases failed
    rfl

theorem genericChoice_error
    (failed : step.genericChoice inputs = .error fault) :
    fault.kind = .validation := by
  unfold genericChoice at failed
  split at failed
  · split at failed
    · cases failed
    · exact genericValue_error (Except.map_eq_error_iff.mp failed)
  · rcases Except.bind_eq_error_iff.mp failed with missing | ⟨selected, _, refused⟩
    · exact requiredSelection_error missing
    · exact genericValue_error (Except.map_eq_error_iff.mp refused)

/-- A free record is refused because of what was entered, never of what was authored. -/
theorem freeformRecord_error
    (failed : step.freeformRecord inputs = .error fault) :
    fault.kind = .validation := by
  unfold freeformRecord at failed
  split at failed
  · cases failed
  · cases failed
  · split at failed <;> cases failed
    rfl
  · split at failed
    · cases failed
      rfl
    · split at failed <;> cases failed
      rfl
  · split at failed <;> cases failed
    rfl

/-- A free record is a text, a number or a tick. -/
theorem isScalar_of_freeformRecord
    {name : String}
    {value : Json}
    (recorded : step.freeformRecord inputs = .ok (some (name, value))) :
    value.IsScalar := by
  unfold freeformRecord at recorded
  split at recorded
  · cases recorded
  · cases recorded
  · split at recorded <;> cases recorded
    trivial
  · split at recorded
    · cases recorded
    · split at recorded <;> cases recorded
      trivial
  · split at recorded <;> cases recorded
    trivial

end Step

/-- What is recorded for a choice and a free record has no parts. -/
theorem Step.isScalar_of_mem_recordedValues
    {selected : Option String}
    {record : Option (String × Json)}
    (scalar : ∀ name value, record = some (name, value) → value.IsScalar) :
    ∀ field ∈ (recordedValues selected record).fields, field.2.IsScalar := by
  have chosenScalar :
      ∀ field ∈ (recordedValues selected none).fields, field.2.IsScalar := by
    intro field member
    cases selected with
    | none =>
        cases member
    | some value =>
        rcases Json.mem_insertField member with rfl | inEmpty
        · trivial
        · cases inEmpty
  cases record with
  | none =>
      exact chosenScalar
  | some free =>
      intro field member
      rcases Json.mem_insertField member with rfl | chosen
      · exact scalar free.1 free.2 rfl
      · exact chosenScalar field chosen

namespace FieldTask

variable {task : FieldTask} {step : Step} {inputs : StepInputs}

/-- A choice resolves where its action leads on and its free record is there. -/
theorem resolveChoice_eq_ok_iff
    {choice : Step.Choice}
    {outcome : ResolvedOutcome} :
    task.resolveChoice step inputs choice = .ok outcome ↔
      (∃ next, task.target step choice.2 = .ok next) ∧
        ∃ record, step.freeformRecord inputs = .ok record ∧
          outcome = ⟨step.id, Step.recordedValues choice.1 record, choice.2⟩ := by
  unfold resolveChoice
  cases task.target step choice.2 with
  | error fault =>
      simp
  | ok next =>
      simp only [Except.map_eq_ok_iff, Except.ok.injEq, exists_eq', true_and,
        @eq_comm _ outcome]

/-- A step resolves at once, or by a choice that resolves. -/
theorem resolve_eq_ok_cases
    {outcome : ResolvedOutcome}
    (resolved : task.resolve step inputs = .ok outcome) :
    outcome = ⟨step.id, .empty, .advance⟩ ∨
      ∃ choice, task.resolveChoice step inputs choice = .ok outcome := by
  unfold resolve at resolved
  split at resolved
  · cases resolved
  · split at resolved
    · cases resolved
    · split at resolved
      · cases resolved
        exact .inl rfl
      all_goals
        obtain ⟨choice, _, chosen⟩ := Except.bind_eq_ok_iff.mp resolved
        exact .inr ⟨choice, chosen⟩

theorem step_of_resolve
    {outcome : ResolvedOutcome}
    (resolved : task.resolve step inputs = .ok outcome) :
    outcome.step = step.id := by
  rcases resolve_eq_ok_cases resolved with rfl | ⟨choice, chosen⟩
  · rfl
  · obtain ⟨_, record, _, rfl⟩ := resolveChoice_eq_ok_iff.mp chosen
    rfl

/-- The action of an outcome leads on from its step. -/
theorem target_of_resolve
    {outcome : ResolvedOutcome}
    (resolved : task.resolve step inputs = .ok outcome) :
    ∃ next, task.target step outcome.action = .ok next := by
  rcases resolve_eq_ok_cases resolved with rfl | ⟨choice, chosen⟩
  · exact ⟨task.stepAfter? step.id, rfl⟩
  · obtain ⟨leads, record, _, rfl⟩ := resolveChoice_eq_ok_iff.mp chosen
    exact leads

/-- The values of an outcome have no parts. -/
theorem isScalar_of_resolve
    {outcome : ResolvedOutcome}
    (resolved : task.resolve step inputs = .ok outcome) :
    ∀ field ∈ outcome.fieldValues.fields, field.2.IsScalar := by
  rcases resolve_eq_ok_cases resolved with rfl | ⟨choice, chosen⟩
  · intro field member
    cases member
  · obtain ⟨_, record, recorded, rfl⟩ := resolveChoice_eq_ok_iff.mp chosen
    apply Step.isScalar_of_mem_recordedValues
    rintro name value rfl
    exact Step.isScalar_of_freeformRecord recorded

/-- A choice for a step of the task is refused for a reason that concerns the step. -/
theorem resolveChoice_error
    {choice : Step.Choice}
    {fault : OutcomeFault}
    (known : ∃ member ∈ task.steps, member.id = step.id)
    (failed : task.resolveChoice step inputs choice = .error fault) :
    fault.ConcernsStep := by
  unfold resolveChoice at failed
  split at failed
  · rename_i missing
    obtain ⟨order, _, rfl⟩ := target_error known missing
    cases failed
    exact .inr rfl
  · exact .inl (Step.freeformRecord_error (Except.map_eq_error_iff.mp failed))

/-- A step that the task knows, with inputs of its own or of no step, is resolved as it asks. -/
theorem resolve_of_known
    (known : ∃ member ∈ task.steps, member.id = step.id)
    (ownInputs : ∀ owner ∈ inputs.step, owner = step.id) :
    task.resolve step inputs =
      match step.outcomeKind with
      | .immediate => .ok ⟨step.id, .empty, .advance⟩
      | .callOutcome => (step.callChoice inputs).bind (task.resolveChoice step inputs)
      | .authored => (step.authoredChoice inputs).bind (task.resolveChoice step inputs)
      | .generic => (step.genericChoice inputs).bind (task.resolveChoice step inputs) := by
  obtain ⟨member, inTask, same⟩ := known
  have found : (task.step? step.id).isNone = false := by
    rw [step?_eq_some_iff.mpr ⟨inTask, same⟩]
    rfl
  have own : (inputs.step.any fun owner => owner ≠ step.id) = false := by
    cases owned : inputs.step with
    | none =>
        rfl
    | some owner =>
        simpa using ownInputs owner owned
  rw [resolve, found, own]
  rfl

/--
A step of the task with inputs of its own is refused for a reason that
concerns the step: neither is it foreign to the task nor are the inputs to it.
-/
theorem resolve_error
    {fault : OutcomeFault}
    (known : ∃ member ∈ task.steps, member.id = step.id)
    (ownInputs : ∀ owner ∈ inputs.step, owner = step.id)
    (failed : task.resolve step inputs = .error fault) :
    fault.ConcernsStep := by
  rw [resolve_of_known known ownInputs] at failed
  split at failed
  · cases failed
  · rcases Except.bind_eq_error_iff.mp failed with refused | ⟨choice, _, refused⟩
    · exact .inl (Step.callChoice_error refused)
    · exact resolveChoice_error known refused
  · rcases Except.bind_eq_error_iff.mp failed with refused | ⟨choice, _, refused⟩
    · exact Step.authoredChoice_error refused
    · exact resolveChoice_error known refused
  · rcases Except.bind_eq_error_iff.mp failed with refused | ⟨choice, _, refused⟩
    · exact .inl (Step.genericChoice_error refused)
    · exact resolveChoice_error known refused

end FieldTask

end Fieldwork
