import Fieldwork.Proofs.Task.Recording

namespace Fieldwork

/-!
# The rules by which a step is resolved

A step that asks for its outcome is resolved exactly where its rules admit the
inputs: the choice is accepted, its jump has a target, and what the step records
is there.  The outcome tells what was chosen and filled in and nothing else.
-/

/--
Inputs that the rules for a step admit, with what they choose and what they fill
in: the choice is accepted, its jump, if any, has a target, and what the step
records is there.
-/
structure FieldTask.Admits
    (task : FieldTask)
    (step : Step)
    (inputs : StepInputs)
    (choice : Step.Choice)
    (record : Option (String × Json)) :
    Prop where
  accepts : step.Accepts inputs.selected choice
  leads : ∀ order, choice.2 = .jump order → ∃ target ∈ task.steps, target.order = order
  fills : inputs.Fills step.plan.recordKind record

/-- An outcome that tells of a step what was chosen and filled in, and nothing else. -/
structure ResolvedOutcome.Tells
    (outcome : ResolvedOutcome)
    (step : Step)
    (choice : Step.Choice)
    (record : Option (String × Json)) :
    Prop where
  ofStep : outcome.step = step.id
  action : outcome.action = choice.2
  values :
    ∀ name value, outcome.fieldValues.get? name = some value ↔
      (name = "selected_option" ∧ choice.1.map Json.string = some value) ∨
        record = some (name, value)

/-- Only one outcome tells of a step what was chosen and filled in. -/
theorem ResolvedOutcome.tells_iff
    {outcome : ResolvedOutcome}
    {step : Step}
    {choice : Step.Choice}
    {record : Option (String × Json)}
    (elsewhere : ∀ name value, record = some (name, value) → name ≠ selectedName) :
    outcome.Tells step choice record ↔
      outcome = ⟨step.id, Step.recordedValues choice.1 record, choice.2⟩ := by
  constructor
  · rintro ⟨ofStep, action, values⟩
    have sameValues : outcome.fieldValues = Step.recordedValues choice.1 record := by
      apply FieldValues.eq_of_mem_fields_iff
      intro name value
      rw [← FieldValues.get?_eq_some_iff, ← FieldValues.get?_eq_some_iff, values,
        Step.get?_recordedValues_eq_some_iff elsewhere, selectedName]
    cases outcome
    simp_all
  · rintro rfl
    exact ⟨rfl, rfl, fun _ _ => Step.get?_recordedValues_eq_some_iff elsewhere⟩

namespace FieldTask

variable {task : FieldTask} {step : Step} {inputs : StepInputs}
  {outcome : AuthoredOutcome}

/-- An outcome jumps nowhere where it names no target, or one that no step has. -/
theorem jumpsNowhere_iff :
    task.jumpsNowhere outcome = true ↔
      outcome.action = .jump none ∨
        ∃ target, outcome.action = .jump (some target) ∧
          ∀ other ∈ task.steps, other.order ≠ target := by
  unfold jumpsNowhere
  cases outcome.action with
  | next =>
      simp [OutcomeAction.isUntargetedJump, OutcomeAction.target?]
  | again =>
      simp [OutcomeAction.isUntargetedJump, OutcomeAction.target?]
  | jump target =>
      cases target with
      | none =>
          simp [OutcomeAction.isUntargetedJump]
      | some target =>
          simp [OutcomeAction.isUntargetedJump, OutcomeAction.target?,
            -Option.isNone_iff_eq_none, isNone_stepAt?_iff]

/-- A choice is misconfigured exactly where its action leads nowhere. -/
theorem resolveChoice_misconfigured_iff
    {choice : Step.Choice}
    (known : ∃ member ∈ task.steps, member.id = step.id) :
    (∃ fault,
        task.resolveChoice step inputs choice = .error fault ∧
          fault.kind = .configuration) ↔
      ∃ order, choice.2 = .jump order ∧ ∀ other ∈ task.steps, other.order ≠ order := by
  unfold resolveChoice
  constructor
  · rintro ⟨fault, failed, misconfigured⟩
    cases leads : task.target step choice.2 with
    | error missing =>
        obtain ⟨order, jumps, rfl⟩ := target_error known leads
        refine ⟨order, jumps, ?_⟩
        intro other inTask same
        have found : task.target step (.jump order) = .ok (some other) :=
          target_jump_eq_ok_iff.mpr ⟨other, inTask, same, rfl⟩
        rw [← jumps, leads] at found
        cases found
    | ok next =>
        rw [leads] at failed
        have refused := Step.freeformRecord_error (Except.map_eq_error_iff.mp failed)
        rw [refused] at misconfigured
        cases misconfigured
  · rintro ⟨order, jumps, missing⟩
    rw [jumps]
    cases leads : task.target step (.jump order) with
    | error fault =>
        obtain ⟨_, _, rfl⟩ := target_error known leads
        exact ⟨_, rfl, rfl⟩
    | ok next =>
        obtain ⟨found, inTask, same, _⟩ := target_jump_eq_ok_iff.mp leads
        exact (missing found inTask same).elim

/-- A step that asks for its outcome is resolved by what is chosen on it. -/
theorem resolve_of_asks
    (known : ∃ member ∈ task.steps, member.id = step.id)
    (ownInputs : ∀ owner ∈ inputs.step, owner = step.id)
    (asks : step.IsCall ∨ step.plan.isConditional = true) :
    task.resolve step inputs =
      (step.chosen inputs).bind (task.resolveChoice step inputs) := by
  rw [resolve_of_known known ownInputs, Step.chosen]
  cases kind : step.outcomeKind with
  | immediate =>
      obtain ⟨noCall, unconditional⟩ := Step.outcomeKind_eq_immediate_iff.mp kind
      simp [noCall, unconditional] at asks
  | callOutcome => rfl
  | authored => rfl
  | generic => rfl

/-- A step that asks for its outcome is resolved exactly where its rules admit the inputs. -/
theorem resolve_eq_ok_iff
    {resolved : ResolvedOutcome}
    (known : ∃ member ∈ task.steps, member.id = step.id)
    (ownInputs : ∀ owner ∈ inputs.step, owner = step.id)
    (asks : step.IsCall ∨ step.plan.isConditional = true) :
    task.resolve step inputs = .ok resolved ↔
      ∃ choice record, task.Admits step inputs choice record ∧
        resolved = ⟨step.id, Step.recordedValues choice.1 record, choice.2⟩ := by
  rw [resolve_of_asks known ownInputs asks, Except.bind_eq_ok_iff]
  simp only [Step.chosen_eq_ok_iff asks, resolveChoice_eq_ok_iff, exists_target_iff known,
    Step.freeformRecord_eq_ok_iff]
  constructor
  · rintro ⟨choice, accepts, leads, record, fills, rfl⟩
    exact ⟨choice, record, ⟨accepts, leads, fills⟩, rfl⟩
  · rintro ⟨choice, record, ⟨accepts, leads, fills⟩, rfl⟩
    exact ⟨choice, accepts, leads, record, fills, rfl⟩

/-- A picked outcome resolves its step by its action. -/
theorem resolve_of_picks
    {selected : String}
    (known : ∃ member ∈ task.steps, member.id = step.id)
    (ownInputs : ∀ owner ∈ inputs.step, owner = step.id)
    (authored : step.outcomeKind = .authored)
    (given : inputs.selected = some selected)
    (picks : step.Picks (Text.trim selected) outcome) :
    task.resolve step inputs =
      (step.authoredAction outcome).bind fun action =>
        task.resolveChoice step inputs (some outcome.id, action) := by
  rw [resolve_of_known known ownInputs, authored]
  simp only [Step.authoredChoice_of_picks given picks]
  cases step.authoredAction outcome <;> rfl

/-- Resolving a picked outcome fails for how it was authored where it jumps nowhere. -/
theorem resolve_picked_misconfigured_iff
    {selected : String}
    (known : ∃ member ∈ task.steps, member.id = step.id)
    (ownInputs : ∀ owner ∈ inputs.step, owner = step.id)
    (authored : step.outcomeKind = .authored)
    (given : inputs.selected = some selected)
    (picks : step.Picks (Text.trim selected) outcome) :
    (∃ fault, task.resolve step inputs = .error fault ∧ fault.kind = .configuration) ↔
      task.jumpsNowhere outcome = true := by
  rw [resolve_of_picks known ownInputs authored given picks, jumpsNowhere_iff]
  have resolves (action : ControlAction) :
      (∃ fault,
          task.resolveChoice step inputs (some outcome.id, action) = .error fault ∧
            fault.kind = .configuration) ↔
        ∃ order, action = .jump order ∧ ∀ other ∈ task.steps, other.order ≠ order :=
    resolveChoice_misconfigured_iff known
  cases action : outcome.action with
  | next =>
      simpa [Step.authoredAction, action, Except.bind] using resolves .advance
  | again =>
      simpa [Step.authoredAction, action, Except.bind] using resolves .again
  | jump target =>
      cases target with
      | none =>
          simp [Step.authoredAction, action, Except.bind, OutcomeFault.kind]
      | some target =>
          simpa [Step.authoredAction, action, Except.bind] using
            resolves (.jump target)

/-- Resolving fails for how the task was authored exactly where a picked outcome jumps nowhere. -/
theorem resolve_misconfigured_iff_picks
    (known : ∃ member ∈ task.steps, member.id = step.id)
    (ownInputs : ∀ owner ∈ inputs.step, owner = step.id)
    (asks : step.IsCall ∨ step.plan.isConditional = true) :
    (∃ fault, task.resolve step inputs = .error fault ∧ fault.kind = .configuration) ↔
      ∃ selected outcome, inputs.selected = some selected ∧ ¬ step.IsCall ∧
        step.Picks (Text.trim selected) outcome ∧ task.jumpsNowhere outcome = true := by
  have ofPicked {selected : String} {outcome : AuthoredOutcome}
      (given : inputs.selected = some selected)
      (noCall : ¬ step.IsCall)
      (picks : step.Picks (Text.trim selected) outcome) :
      (∃ fault, task.resolve step inputs = .error fault ∧ fault.kind = .configuration) ↔
        task.jumpsNowhere outcome = true := by
    have conditional : step.plan.isConditional = true := by simpa [noCall] using asks
    have authored := Step.outcomeKind_of_picks noCall conditional picks
    exact resolve_picked_misconfigured_iff known ownInputs authored given picks
  constructor
  · intro misconfigured
    obtain ⟨selected, outcome, given, noCall, picks⟩ :
        ∃ selected outcome, inputs.selected = some selected ∧
          ¬ step.IsCall ∧ step.Picks (Text.trim selected) outcome := by
      obtain ⟨fault, failed, kind⟩ := misconfigured
      rw [resolve_of_asks known ownInputs asks] at failed
      rcases Except.bind_eq_error_iff.mp failed with unchosen | ⟨choice, isChosen, refused⟩
      · exact Step.exists_picked_of_chosen_error unchosen kind
      · obtain ⟨order, jumps, _⟩ :=
          (resolveChoice_misconfigured_iff known).mp ⟨fault, refused, kind⟩
        cases (Step.chosen_eq_ok_iff asks).mp isChosen with
        | authored noCall given encloses picks _ =>
            rw [← Text.trim_eq_iff.mpr encloses] at picks
            exact ⟨_, _, given, noCall, picks⟩
        | answered | notAnswered | generic | leftOpen => cases jumps
    exact ⟨selected, outcome, given, noCall, picks,
      (ofPicked given noCall picks).mp misconfigured⟩
  · rintro ⟨selected, outcome, given, noCall, picks, nowhere⟩
    exact (ofPicked given noCall picks).mpr nowhere

/--
Take a step that the task knows and inputs for it or for no step.  A step that is
neither a call nor conditional resolves to nothing but going on, whatever the
inputs are.  Any other one resolves exactly where its rules admit the inputs, and
the outcome tells what was chosen and filled in and nothing else.  Where it does
not resolve, this is due to how the task was authored exactly if the outcome that
was picked jumps nowhere, and else due to what was entered.
-/
theorem resolve_follows_rules
    (known : ∃ member ∈ task.steps, member.id = step.id)
    (ownInputs : ∀ owner ∈ inputs.step, owner = step.id) :
    (¬ step.IsCall → step.plan.isConditional = false →
        task.resolve step inputs = .ok ⟨step.id, .empty, .advance⟩) ∧
      (step.IsCall ∨ step.plan.isConditional = true →
        ((∃ resolved, task.resolve step inputs = .ok resolved) ↔
          ∃ choice record, task.Admits step inputs choice record) ∧
        (∀ resolved, task.resolve step inputs = .ok resolved ↔
          ∃ choice record, task.Admits step inputs choice record ∧
            resolved.Tells step choice record) ∧
        ∀ fault, task.resolve step inputs = .error fault →
          fault.ConcernsStep ∧
            (fault.kind = .configuration ↔
              ∃ entered selected outcome, inputs.selected = some entered ∧
                ¬ step.IsCall ∧ Text.Encloses entered selected ∧
                step.Picks selected outcome ∧
                (outcome.action = .jump none ∨
                  ∃ target, outcome.action = .jump (some target) ∧
                    ∀ other ∈ task.steps, other.order ≠ target))) := by
  refine ⟨fun noCall unconditional => ?_,
    fun asks => ⟨?_, fun resolved => ?_, fun fault failed => ?_⟩⟩
  · rw [resolve_of_known known ownInputs,
      Step.outcomeKind_eq_immediate_iff.mpr ⟨noCall, unconditional⟩]
  · simp only [resolve_eq_ok_iff known ownInputs asks]
    constructor
    · rintro ⟨_, choice, record, admits, _⟩
      exact ⟨choice, record, admits⟩
    · rintro ⟨choice, record, admits⟩
      exact ⟨_, choice, record, admits, rfl⟩
  · rw [resolve_eq_ok_iff known ownInputs asks]
    refine exists₂_congr fun choice record => and_congr_right fun admits => ?_
    exact (ResolvedOutcome.tells_iff admits.fills.elsewhere).symm
  · refine ⟨resolve_error known ownInputs failed, ?_⟩
    have misconfigured := resolve_misconfigured_iff_picks known ownInputs asks
    rw [failed] at misconfigured
    simpa [jumpsNowhere_iff, ← Text.trim_eq_iff] using misconfigured

/-- A call by its name, however it is spelled, and a step that may be noted freely. -/
def calling : Step :=
  ⟨⟨2, none, " call  HOMEOWNER", 2, false, false, .none, [], by decide, List.nodup_nil⟩, {}⟩

def reporting : Step :=
  ⟨⟨3, none, "Report back", 3, true, false, .text, [], by decide, List.nodup_nil⟩, {}⟩

def visitTask : FieldTask where
  id := 8
  templateId := none
  steps := [inspection, calling, reporting]
  percentage := .zero
  wellOrdered := by simp [WellOrdered, inspection, calling, reporting]

/--
An outcome is picked by its label and recorded by its identifier, beside a reading.  A
call was not answered, or was answered, in odd spellings.  And a step that asks for
success or failure is noted with or without one of them.
-/
theorem resolve_follows_rules_visit :
    let picked : StepInputs :=
      { step := some 1, selected := some " Look again ", number := some " 12 " }
    let unanswered : StepInputs := { step := some 2, selected := some " Did  NOT_answer " }
    let answered : StepInputs := { selected := some "ANSWERED" }
    let decided : StepInputs := { selected := some "Success ", text := some " all done " }
    let undecided : StepInputs := { step := some 3, selected := some "  ", text := some "later" }
    (∀ step ∈ visitTask.steps, ∃ member ∈ visitTask.steps, member.id = step.id) ∧
      calling.IsCall ∧ ¬ reporting.IsCall ∧
      (∃ resolved isWord, visitTask.resolve inspection picked = .ok resolved ∧
        resolved.Tells inspection (some "again", .again)
          (some ("number_value", .number (.integer 12 isWord)))) ∧
      (∃ resolved, visitTask.resolve calling unanswered = .ok resolved ∧
        resolved.Tells calling (some "repeat", .again) none) ∧
      (∃ resolved, visitTask.resolve calling answered = .ok resolved ∧
        resolved.Tells calling (some "answered", .advance) none) ∧
      (∃ resolved, visitTask.resolve reporting decided = .ok resolved ∧
        resolved.Tells reporting (some "success", .advance)
          (some ("text_value", .string "all done"))) ∧
      ∃ resolved, visitTask.resolve reporting undecided = .ok resolved ∧
        resolved.Tells reporting (none, .advance) (some ("text_value", .string "later")) := by
  intro picked unanswered answered decided undecided
  have known : ∀ step ∈ visitTask.steps, ∃ member ∈ visitTask.steps, member.id = step.id :=
    fun step member => ⟨step, member, rfl⟩
  have isCall : calling.IsCall := by decide
  have noCall : ¬ reporting.IsCall := by decide
  have admitted {step : Step} {inputs : StepInputs} {choice : Step.Choice}
      {record : Option (String × Json)}
      (member : step ∈ visitTask.steps)
      (ownInputs : inputs.step.all (· = step.id) = true)
      (asks : step.IsCall ∨ step.plan.isConditional = true)
      (admits : visitTask.Admits step inputs choice record) :
      ∃ resolved, visitTask.resolve step inputs = .ok resolved ∧
        resolved.Tells step choice record := by
    have own : ∀ owner ∈ inputs.step, owner = step.id := by
      simpa [Option.all_eq_true] using ownInputs
    obtain ⟨-, follows⟩ := resolve_follows_rules (known step member) own
    have tells :
        ResolvedOutcome.Tells ⟨step.id, Step.recordedValues choice.1 record, choice.2⟩ step choice
          record :=
      (ResolvedOutcome.tells_iff admits.fills.elsewhere).mpr rfl
    exact ⟨_, ((follows asks).2.1 _).mpr ⟨_, _, admits, tells⟩, tells⟩
  have fits : FitsInt64 12 := by decide
  have writes : WritesInteger "12".toList 12 := by
    have value : (naturalOf "12".toList : Int) = 12 := by decide
    exact value ▸ .unsigned (List.all_eq_true.mp (by decide)) (by decide)
  have picks : inspection.Picks "Look again" ⟨"again", "Look again", .again, by decide⟩ :=
    .byLabel (by decide) (List.nil_append _).symm (by decide) (by simp)
  have allBlank :
      ∀ selected ∈ undecided.selected, ∀ c ∈ selected.toList, Text.isBlankChar c = true := by
    rintro _ ⟨⟩
    exact List.all_eq_true.mp (by decide)
  refine ⟨known, isCall, noCall, ?_, ?_, ?_, ?_, ?_⟩
  · obtain ⟨resolved, resolves, tells⟩ :=
      @admitted _ picked _ _ (by simp [visitTask]) (by decide) (.inr rfl)
        { accepts := .authored (by decide) rfl (by decide) picks .again
          leads := by simp
          fills := .number rfl (by decide) (.integer writes fits) }
    exact ⟨resolved, fits.isWord, resolves, tells⟩
  · exact admitted (by simp [visitTask]) (by decide) (.inl isCall)
      { accepts := .notAnswered isCall rfl (by decide)
        leads := by simp
        fills := .none }
  · exact admitted (by simp [visitTask]) (by decide) (.inl isCall)
      { accepts := .answered isCall rfl (by decide)
        leads := by simp
        fills := .none }
  · exact admitted (by simp [visitTask]) (by decide) (.inr rfl)
      { accepts := .generic noCall rfl rfl (.inl rfl) (by decide)
        leads := by simp
        fills := .text rfl (by decide) (by decide) }
  · exact admitted (by simp [visitTask]) (by decide) (.inr rfl)
      { accepts := .leftOpen noCall rfl (.inl rfl) allBlank
        leads := by simp
        fills := .text rfl (by decide) (by decide) }

end FieldTask

end Fieldwork
