import Fieldwork.Proofs.Task.Choosing

namespace Fieldwork

/-!
# What the recorded values tell

The owner of a task is told the values that a step recorded, and not what was
chosen.  The choice can be read off the values, however it was entered, and the
choice on a step decides what happens next.
-/

/-- Fields that are the same hold the same value under every name. -/
theorem Json.find?_of_sameFields
    {left right : List (String × Json)}
    (alike : sameFields left right = true)
    (name : String) :
    Option.Rel (fun leftValue rightValue => same leftValue rightValue = true)
      ((left.find? fun field => field.1 = name).map Prod.snd)
      ((right.find? fun field => field.1 = name).map Prod.snd) := by
  induction left generalizing right with
  | nil =>
      cases right with
      | nil =>
          exact .none
      | cons field rest =>
          simp [sameFields] at alike
  | cons leftField leftRest inductionHypothesis =>
      cases right with
      | nil =>
          simp [sameFields] at alike
      | cons rightField rightRest =>
          simp only [sameFields, Bool.and_eq_true, beq_iff_eq] at alike
          obtain ⟨⟨sameName, sameValue⟩, sameRest⟩ := alike
          rw [List.find?_cons, List.find?_cons, ← sameName]
          by_cases found : leftField.1 = name
          · simpa [found] using Option.Rel.some sameValue
          · simpa [found] using inductionHypothesis sameRest

/-- Nothing but a text itself is the same as the text. -/
theorem Json.eq_of_same_text
    {text : String}
    {value : Json}
    (alike : same (.string text) value = true) :
    value = .string text := by
  cases value with
  | string other =>
      simp only [same, beq_iff_eq] at alike
      rw [alike]
  | _ =>
      simp [same] at alike

namespace Step

variable {step : Step} {inputs inputs' : StepInputs} {choice choice' : Choice}

/--
Two choices on a step that record the same have the same action.  Of authored
outcomes this holds because no two of a step share their identifier.
-/
theorem action_eq_of_recorded_eq
    (isChosen : step.chosen inputs = .ok choice)
    (isChosen' : step.chosen inputs' = .ok choice')
    (recorded : choice.1 = choice'.1) :
    choice.2 = choice'.2 := by
  unfold chosen at isChosen isChosen'
  cases kind : step.outcomeKind with
  | immediate =>
      rw [kind] at isChosen isChosen'
      cases isChosen
      cases isChosen'
      rfl
  | callOutcome =>
      rw [kind] at isChosen isChosen'
      have answeredIsNotRepeated : callAnswered ≠ callRepeated := by decide
      obtain ⟨_, _, ⟨_, rfl⟩ | ⟨_, rfl⟩⟩ := callChoice_eq_ok_iff.mp isChosen <;>
        obtain ⟨_, _, ⟨_, rfl⟩ | ⟨_, rfl⟩⟩ := callChoice_eq_ok_iff.mp isChosen'
      · rfl
      · exact (answeredIsNotRepeated (Option.some.inj recorded)).elim
      · exact (answeredIsNotRepeated (Option.some.inj recorded).symm).elim
      · rfl
  | authored =>
      rw [kind] at isChosen isChosen'
      obtain ⟨_, outcome, action, _, picks, leads, rfl⟩ := authoredChoice_eq_ok_iff.mp isChosen
      obtain ⟨_, outcome', action', _, picks', leads', rfl⟩ :=
        authoredChoice_eq_ok_iff.mp isChosen'
      obtain rfl : outcome = outcome' :=
        List.inj_on_of_nodup_map step.plan.distinctOutcomes picks.mem picks'.mem
          (Option.some.inj recorded)
      exact leads.unique leads'
  | generic =>
      rw [kind] at isChosen isChosen'
      obtain ⟨_, _, _, _, _, rfl⟩ | ⟨_, _, rfl⟩ := genericChoice_eq_ok_iff.mp isChosen <;>
        obtain ⟨_, _, _, _, _, rfl⟩ | ⟨_, _, rfl⟩ := genericChoice_eq_ok_iff.mp isChosen' <;>
        rfl

/-- The chosen outcome is found in what is recorded, beside any free record. -/
theorem get?_recordedValues
    {record : Option (String × Json)}
    (selected : Option String)
    (elsewhere : ∀ name value, record = some (name, value) → name ≠ selectedName) :
    (recordedValues selected record).get? selectedName = selected.map .string := by
  ext value
  rw [get?_recordedValues_eq_some_iff elsewhere]
  constructor
  · rintro (⟨_, isSelected⟩ | isRecord)
    · exact isSelected
    · exact (elsewhere selectedName value isRecord rfl).elim
  · exact fun isSelected => .inl ⟨rfl, isSelected⟩

/-- Values that are the same were recorded for the same chosen outcome. -/
theorem selected_eq_of_same
    {selected selected' : Option String}
    {record record' : Option (String × Json)}
    (elsewhere : ∀ name value, record = some (name, value) → name ≠ selectedName)
    (elsewhere' : ∀ name value, record' = some (name, value) → name ≠ selectedName)
    (alike :
      (recordedValues selected record).same (recordedValues selected' record') = true) :
    selected = selected' := by
  have related := Json.find?_of_sameFields alike selectedName
  have found := get?_recordedValues selected elsewhere
  have found' := get?_recordedValues selected' elsewhere'
  unfold FieldValues.get? at found found'
  rw [found, found'] at related
  cases selected with
  | none =>
      cases selected' with
      | none =>
          rfl
      | some value' =>
          cases related
  | some value =>
      cases selected' with
      | none =>
          cases related
      | some value' =>
          cases related with
          | some sameText =>
              have sameValue := Json.string.inj (Json.eq_of_same_text sameText)
              rw [sameValue]

end Step

namespace FieldTask

variable {task : FieldTask} {step : Step} {inputs inputs' : StepInputs}
  {outcome outcome' : ResolvedOutcome}

/-- An outcome records what was chosen and a free record beside it, and takes the chosen action. -/
theorem chosen_of_resolve
    (resolved : task.resolve step inputs = .ok outcome) :
    ∃ choice record,
      step.chosen inputs = .ok choice ∧
        (∀ name value, record = some (name, value) → name ≠ selectedName) ∧
        outcome = ⟨step.id, Step.recordedValues choice.1 record, choice.2⟩ := by
  have ofChoice :
      ∀ {chosen : Except OutcomeFault Step.Choice},
        step.chosen inputs = chosen →
        chosen.bind (task.resolveChoice step inputs) = .ok outcome →
        ∃ choice record,
          step.chosen inputs = .ok choice ∧
            (∀ name value, record = some (name, value) → name ≠ selectedName) ∧
            outcome = ⟨step.id, Step.recordedValues choice.1 record, choice.2⟩ := by
    intro chosen isChosen comesTo
    obtain ⟨choice, rfl, resolvedChoice⟩ := Except.bind_eq_ok_iff.mp comesTo
    obtain ⟨_, record, recorded, rfl⟩ := resolveChoice_eq_ok_iff.mp resolvedChoice
    exact ⟨choice, record, isChosen, (Step.freeformRecord_eq_ok_iff.mp recorded).elsewhere, rfl⟩
  unfold resolve at resolved
  split at resolved
  · cases resolved
  · split at resolved
    · cases resolved
    · cases kind : step.outcomeKind with
      | immediate =>
          rw [kind] at resolved
          cases resolved
          exact ⟨(none, .advance), none, by simp [Step.chosen, kind], by simp, rfl⟩
      | callOutcome =>
          rw [kind] at resolved
          exact ofChoice (by simp [Step.chosen, kind]) resolved
      | authored =>
          rw [kind] at resolved
          exact ofChoice (by simp [Step.chosen, kind]) resolved
      | generic =>
          rw [kind] at resolved
          exact ofChoice (by simp [Step.chosen, kind]) resolved

/--
However a step is resolved, the values that it records determine what happens
next: two outcomes of one step with the same values have the same action.
-/
theorem action_determined_by_values
    (resolved : task.resolve step inputs = .ok outcome)
    (resolved' : task.resolve step inputs' = .ok outcome')
    (alike : outcome.fieldValues.same outcome'.fieldValues = true) :
    outcome.action = outcome'.action := by
  obtain ⟨choice, record, isChosen, elsewhere, rfl⟩ := chosen_of_resolve resolved
  obtain ⟨choice', record', isChosen', elsewhere', rfl⟩ := chosen_of_resolve resolved'
  exact Step.action_eq_of_recorded_eq isChosen isChosen'
    (Step.selected_eq_of_same elsewhere elsewhere' alike)

/-- A step with a number to record and two outcomes, one of which is to look again. -/
def inspection : Step :=
  ⟨⟨1, none, "Inspect", 1, true, false, .number,
    [⟨"again", "Look again", .again, by decide⟩, ⟨"done", "", .next, by decide⟩],
    by decide, by decide⟩, {}⟩

def inspectionTask : FieldTask where
  id := 7
  templateId := none
  steps := [inspection]
  percentage := .zero
  wellOrdered := by simp [WellOrdered, inspection]

/-- An outcome selected by its identifier and by its label has one action. -/
theorem action_determined_by_values_label :
    ∃ outcome outcome',
      inspectionTask.resolve inspection
          { selected := some "again", number := some "0.0" } = .ok outcome ∧
        inspectionTask.resolve inspection
          { selected := some " Look again ", number := some "-0.0" } = .ok outcome' ∧
        outcome.fieldValues.same outcome'.fieldValues = true ∧
        outcome.action = outcome'.action := by
  have resolved :
      ∃ outcome,
        inspectionTask.resolve inspection
          { selected := some "again", number := some "0.0" } = .ok outcome :=
    ⟨_, rfl⟩
  have resolved' :
      ∃ outcome,
        inspectionTask.resolve inspection
          { selected := some " Look again ", number := some "-0.0" } = .ok outcome :=
    ⟨_, rfl⟩
  obtain ⟨outcome, byId⟩ := resolved
  obtain ⟨outcome', byLabel⟩ := resolved'
  have alike : outcome.fieldValues.same outcome'.fieldValues = true := by
    cases byId
    cases byLabel
    decide
  exact ⟨outcome, outcome', byId, byLabel, alike,
    action_determined_by_values byId byLabel alike⟩

end FieldTask

end Fieldwork
