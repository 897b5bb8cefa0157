import Fieldwork.Proofs.Task.Entries
import Fieldwork.Proofs.Task.Resolving

namespace Fieldwork

/-!
# What inputs choose and fill in

What inputs choose on a step and what they fill in beside it are relations here,
with one rule for each way in which a step may ask.  The functions that read the
inputs come to these.
-/

namespace StepInputs

/-- What inputs fill in beside the outcome, under its name, for what a step is to record. -/
inductive Fills
    (inputs : StepInputs) :
    RecordKind →
    Option (String × Json) →
    Prop
  | none : Fills inputs .none .none
  | dropdown : Fills inputs .dropdown .none
  | text {entered note : String}
      (given : inputs.text = some entered)
      (encloses : Text.Encloses entered note)
      (solid : note ≠ "") :
      Fills inputs .text (some ("text_value", .string note))
  | number {entered digits : String} {value : Json.Number}
      (given : inputs.number = some entered)
      (encloses : Text.Encloses entered digits)
      (writes : WritesNumber digits.toList value) :
      Fills inputs .number (some ("number_value", .number value))
  | checkbox {checked : Bool}
      (given : inputs.check = some checked) :
      Fills inputs .checkbox (some ("checkbox_value", .bool checked))

/-- What is filled in does not stand under the name of the chosen outcome. -/
theorem Fills.elsewhere
    {inputs : StepInputs}
    {kind : RecordKind}
    {record : Option (String × Json)}
    (fills : inputs.Fills kind record)
    (name : String)
    (value : Json)
    (isRecord : record = some (name, value)) :
    name ≠ selectedName := by
  cases fills with
  | none | dropdown => cases isRecord
  | text | number | checkbox =>
      cases isRecord
      decide

theorem solidEntry_eq_some_iff
    {entry : Option String}
    {trimmed : String} :
    solidEntry entry = some trimmed ↔
      ∃ entered, entry = some entered ∧ Text.isBlank entered = false ∧
        trimmed = Text.trim entered := by
  cases entry with
  | none =>
      simp [solidEntry]
  | some entered =>
      simp only [solidEntry, Option.map_some, Option.filter_some, Text.isEmpty_trim,
        Option.some.injEq, exists_eq_left']
      cases blank : Text.isBlank entered <;> simp [eq_comm]

theorem requiredSelection_eq_ok_iff
    {inputs : StepInputs}
    {step : Step}
    {selected : String} :
    inputs.requiredSelection step = .ok selected ↔
      ∃ entered, inputs.selected = some entered ∧ Text.isBlank entered = false ∧
        selected = Text.trim entered := by
  rw [← solidEntry_eq_some_iff, requiredSelection]
  cases solidEntry inputs.selected <;> simp

/-- The blanks around a selection do not matter where it is compared by its words. -/
theorem normalized_trim
    (selected : String) :
    normalized (Text.trim selected) = normalized selected := by
  rw [normalized, normalized, Text.words_trim]

theorem normalized_of_isBlank
    {selected : String}
    (blank : Text.isBlank selected = true) :
    normalized selected = "" := by
  have nothing : Text.trim selected = "" := by
    rw [← String.isEmpty_iff, Text.isEmpty_trim]
    exact blank
  rw [← normalized_trim, nothing]
  rfl

/-- A selection that has words is not blank. -/
theorem solid_of_normalized
    {selected word : String}
    (reads : normalized selected = word)
    (isWord : word ≠ "") :
    Text.isBlank selected = false := by
  by_contra blank
  rw [Bool.not_eq_false] at blank
  exact isWord (reads.symm.trans (normalized_of_isBlank blank))

theorem answered_iff
    {selected : String} :
    normalized selected = callAnswered ↔ Text.Names selected "answered" :=
  normalized_eq_iff (by decide)

theorem notAnswered_iff
    {selected : String} :
    normalized selected = callNotAnswered ↔ Text.Names selected "did_not_answer" :=
  normalized_eq_iff (by decide)

theorem generic_iff
    {selected value : String}
    (isGeneric : value = genericSuccess ∨ value = genericFailure) :
    normalized selected = value ↔ Text.Names selected value := by
  refine normalized_eq_iff ?_
  rcases isGeneric with rfl | rfl <;> decide

/-- A number is not empty, so it needs no rule against blanks. -/
theorem WritesNumber.nonempty
    {text : String}
    {number : Json.Number}
    (writes : WritesNumber text.toList number) :
    text ≠ "" := by
  rintro rfl
  have reads := readNumber_eq_some_iff.mpr writes
  cases reads

end StepInputs

/-- What happens next after an authored outcome; a jump without a target leads nowhere. -/
inductive OutcomeAction.LeadsTo :
    OutcomeAction →
    ControlAction →
    Prop
  | next : LeadsTo .next .advance
  | again : LeadsTo .again .again
  | jump {target : Int32} : LeadsTo (.jump (some target)) (.jump target)

theorem OutcomeAction.LeadsTo.unique
    {authored : OutcomeAction}
    {action action' : ControlAction}
    (leads : authored.LeadsTo action)
    (leads' : authored.LeadsTo action') :
    action = action' := by
  cases leads <;> cases leads' <;> rfl

/-- A shown label is never blank, since an outcome without one shows its identifier. -/
theorem AuthoredOutcome.isBlank_shownLabel
    (outcome : AuthoredOutcome) :
    Text.isBlank outcome.shownLabel = false := by
  unfold shownLabel
  split
  · exact outcome.solidId
  · rename_i solid
    simpa using solid

/-- A record is entered freely where it is a text, a number or a tick. -/
theorem RecordKind.isFreeform_iff
    {kind : RecordKind} :
    kind.isFreeform = true ↔ kind = .text ∨ kind = .number ∨ kind = .checkbox := by
  cases kind <;> simp [isFreeform]

namespace Step

/-- A text picks the outcome with this identifier, or else the first that shows this label. -/
inductive Picks
    (step : Step)
    (selected : String)
    (outcome : AuthoredOutcome) :
    Prop
  | byId
      (authored : outcome ∈ step.plan.outcomes)
      (sameId : outcome.id = selected)
  | byLabel {earlier later : List AuthoredOutcome}
      (noneById : ∀ other ∈ step.plan.outcomes, other.id ≠ selected)
      (authored : step.plan.outcomes = earlier ++ outcome :: later)
      (sameLabel : outcome.shownLabel = selected)
      (first : ∀ other ∈ earlier, other.shownLabel ≠ selected)

/-- What an entry chooses on a step that asks for its outcome, by how the step asks. -/
inductive Accepts
    (step : Step)
    (entry : Option String) :
    Choice →
    Prop
  | answered {selected : String}
      (call : step.IsCall)
      (given : entry = some selected)
      (names : Text.Names selected "answered") :
      Accepts step entry (some "answered", .advance)
  | notAnswered {selected : String}
      (call : step.IsCall)
      (given : entry = some selected)
      (names : Text.Names selected "did_not_answer") :
      Accepts step entry (some "repeat", .again)
  | authored {entered selected : String} {outcome : AuthoredOutcome} {action : ControlAction}
      (noCall : ¬ step.IsCall)
      (given : entry = some entered)
      (encloses : Text.Encloses entered selected)
      (picks : step.Picks selected outcome)
      (leads : outcome.action.LeadsTo action) :
      Accepts step entry (some outcome.id, action)
  | generic {selected value : String}
      (noCall : ¬ step.IsCall)
      (plain : step.plan.outcomes = [])
      (given : entry = some selected)
      (isGeneric : value = "success" ∨ value = "failure")
      (names : Text.Names selected value) :
      Accepts step entry (some value, .advance)
  | leftOpen
      (noCall : ¬ step.IsCall)
      (plain : step.plan.outcomes = [])
      (freely :
        step.plan.recordKind = .text ∨ step.plan.recordKind = .number ∨
          step.plan.recordKind = .checkbox)
      (nothing : ∀ selected ∈ entry, ∀ c ∈ selected.toList, Text.isBlankChar c = true) :
      Accepts step entry (none, .advance)

/-- What the inputs choose, in the way in which the step asks for its outcome. -/
def chosen
    (step : Step)
    (inputs : StepInputs) :
    Except OutcomeFault Choice :=
  match step.outcomeKind with
  | .immediate => .ok (none, .advance)
  | .callOutcome => step.callChoice inputs
  | .authored => step.authoredChoice inputs
  | .generic => step.genericChoice inputs

variable {step : Step} {inputs : StepInputs} {choice : Choice} {outcome : AuthoredOutcome}

/-- A call asks whether it was answered, whatever else was authored for it. -/
theorem outcomeKind_eq_callOutcome_iff :
    step.outcomeKind = .callOutcome ↔ step.IsCall := by
  rw [← isCallOutcomeStep_iff]
  unfold outcomeKind
  cases step.isCallOutcomeStep <;> cases step.plan.isConditional <;>
    cases step.plan.outcomes <;> simp

/-- A step asks for its outcome unless it is an unconditional one that is no call. -/
theorem outcomeKind_eq_immediate_iff :
    step.outcomeKind = .immediate ↔
      ¬ step.IsCall ∧ step.plan.isConditional = false := by
  rw [← isCallOutcomeStep_eq_false_iff]
  unfold outcomeKind
  cases step.isCallOutcomeStep <;> cases step.plan.isConditional <;>
    cases step.plan.outcomes <;> simp

theorem outcomeKind_eq_authored_iff :
    step.outcomeKind = .authored ↔
      ¬ step.IsCall ∧ step.plan.isConditional = true ∧
        step.plan.outcomes ≠ [] := by
  rw [← isCallOutcomeStep_eq_false_iff]
  unfold outcomeKind
  cases step.isCallOutcomeStep <;> cases step.plan.isConditional <;>
    cases step.plan.outcomes <;> simp

theorem outcomeKind_eq_generic_iff :
    step.outcomeKind = .generic ↔
      ¬ step.IsCall ∧ step.plan.isConditional = true ∧
        step.plan.outcomes = [] := by
  rw [← isCallOutcomeStep_eq_false_iff]
  unfold outcomeKind
  cases step.isCallOutcomeStep <;> cases step.plan.isConditional <;>
    cases step.plan.outcomes <;> simp

theorem outcome?_eq_some_iff
    {selected : String} :
    step.outcome? selected = some outcome ↔ step.Picks selected outcome := by
  unfold outcome?
  rw [Option.or_eq_some_iff, find?_key_eq_some_iff step.plan.distinctOutcomes,
    List.find?_eq_none, List.find?_eq_some_iff_append]
  constructor
  · rintro (⟨authored, sameId⟩ | ⟨noneById, sameLabel, earlier, later, authored, first⟩)
    · exact .byId authored sameId
    · exact .byLabel (by simpa using noneById) authored (by simpa using sameLabel)
        (by simpa using first)
  · rintro (⟨authored, sameId⟩ | ⟨noneById, authored, sameLabel, first⟩)
    · exact .inl ⟨authored, sameId⟩
    · exact .inr ⟨by simpa using noneById, by simpa using sameLabel, _, _, authored,
        by simpa using first⟩

/-- Of two outcomes that a text picks, there is only one. -/
theorem Picks.unique
    {selected : String}
    {outcome' : AuthoredOutcome}
    (picks : step.Picks selected outcome)
    (picks' : step.Picks selected outcome') :
    outcome = outcome' := by
  have found := outcome?_eq_some_iff.mpr picks
  rw [outcome?_eq_some_iff.mpr picks'] at found
  exact (Option.some.inj found).symm

theorem Picks.mem
    {selected : String}
    (picks : step.Picks selected outcome) :
    outcome ∈ step.plan.outcomes := by
  cases picks with
  | byId authored _ =>
      exact authored
  | byLabel _ authored _ _ =>
      simp [authored]

/-- Nothing is picked by a blank text, whatever the labels are. -/
theorem Picks.solid
    {selected : String}
    (picks : step.Picks selected outcome) :
    Text.isBlank selected = false := by
  cases picks with
  | byId _ sameId =>
      exact sameId ▸ outcome.solidId
  | byLabel _ _ sameLabel _ =>
      exact sameLabel ▸ outcome.isBlank_shownLabel

/-- What is picked by a trimmed selection, which is not blank then, is what is chosen. -/
theorem requiredSelection_of_picks
    {entered : String}
    (given : inputs.selected = some entered)
    (picks : step.Picks (Text.trim entered) outcome) :
    inputs.requiredSelection step = .ok (Text.trim entered) := by
  refine StepInputs.requiredSelection_eq_ok_iff.mpr ⟨entered, given, ?_, rfl⟩
  by_contra blank
  rw [Bool.not_eq_false, ← Text.isEmpty_trim, String.isEmpty_iff] at blank
  have solid := picks.solid
  rw [blank] at solid
  cases solid

theorem callChoice_eq_ok_iff :
    step.callChoice inputs = .ok choice ↔
      ∃ selected, inputs.selected = some selected ∧
        (StepInputs.normalized selected = callAnswered ∧
            choice = (some callAnswered, .advance) ∨
          StepInputs.normalized selected = callNotAnswered ∧
            choice = (some callRepeated, .again)) := by
  unfold callChoice
  simp only [Except.bind_eq_ok_iff, StepInputs.requiredSelection_eq_ok_iff]
  constructor
  · rintro ⟨_, ⟨selected, given, _, rfl⟩, chosen⟩
    rw [StepInputs.normalized_trim] at chosen
    refine ⟨selected, given, ?_⟩
    split at chosen
    · rename_i reads
      cases chosen
      exact .inl ⟨reads, rfl⟩
    · split at chosen
      · rename_i reads
        cases chosen
        exact .inr ⟨reads, rfl⟩
      · cases chosen
  · have differ : callNotAnswered ≠ callAnswered := by decide
    rintro ⟨selected, given, ⟨reads, rfl⟩ | ⟨reads, rfl⟩⟩
    · refine ⟨_, ⟨selected, given, StepInputs.solid_of_normalized reads (by decide), rfl⟩, ?_⟩
      simp [StepInputs.normalized_trim, reads]
    · refine ⟨_, ⟨selected, given, StepInputs.solid_of_normalized reads (by decide), rfl⟩, ?_⟩
      simp [StepInputs.normalized_trim, reads, differ]

theorem authoredAction_eq_ok_iff
    {action : ControlAction} :
    step.authoredAction outcome = .ok action ↔ outcome.action.LeadsTo action := by
  unfold authoredAction
  cases outcome.action with
  | next =>
      constructor
      · rintro ⟨⟩
        exact .next
      · rintro ⟨⟩
        rfl
  | again =>
      constructor
      · rintro ⟨⟩
        exact .again
      · rintro ⟨⟩
        rfl
  | jump target =>
      cases target with
      | none =>
          constructor <;> rintro ⟨⟩
      | some target =>
          constructor
          · rintro ⟨⟩
            exact .jump
          · rintro ⟨⟩
            rfl

/-- A picked outcome is chosen where its action leads somewhere. -/
theorem authoredChoice_of_picks
    {entered : String}
    (given : inputs.selected = some entered)
    (picks : step.Picks (Text.trim entered) outcome) :
    step.authoredChoice inputs =
      (step.authoredAction outcome).map fun action => (some outcome.id, action) := by
  rw [authoredChoice, requiredSelection_of_picks given picks]
  simp only [Except.bind, outcome?_eq_some_iff.mpr picks]

theorem authoredChoice_eq_ok_iff :
    step.authoredChoice inputs = .ok choice ↔
      ∃ selected outcome action, inputs.selected = some selected ∧
        step.Picks (Text.trim selected) outcome ∧ outcome.action.LeadsTo action ∧
        choice = (some outcome.id, action) := by
  constructor
  · intro chosen
    obtain ⟨_, selection, read⟩ := Except.bind_eq_ok_iff.mp chosen
    obtain ⟨selected, given, _, rfl⟩ := StepInputs.requiredSelection_eq_ok_iff.mp selection
    split at read
    · cases read
    · rename_i outcome found
      obtain ⟨action, acts, rfl⟩ := Except.map_eq_ok_iff.mp read
      exact ⟨selected, outcome, action, given, outcome?_eq_some_iff.mp found,
        authoredAction_eq_ok_iff.mp acts, rfl⟩
  · rintro ⟨selected, outcome, action, given, picks, leads, rfl⟩
    rw [authoredChoice_of_picks given picks, authoredAction_eq_ok_iff.mpr leads]
    rfl

theorem genericValue_eq_ok_iff
    {selected value : String} :
    step.genericValue selected = .ok value ↔
      (value = genericSuccess ∨ value = genericFailure) ∧
        StepInputs.normalized selected = value := by
  have differ : genericFailure ≠ genericSuccess := by decide
  unfold genericValue
  simp only
  split
  · rename_i reads
    rw [reads]
    constructor
    · rintro ⟨⟩
      exact ⟨.inl rfl, rfl⟩
    · rintro ⟨_, rfl⟩
      rfl
  · split
    · rename_i reads
      rw [reads]
      constructor
      · rintro ⟨⟩
        exact ⟨.inr rfl, rfl⟩
      · rintro ⟨_, rfl⟩
        rfl
    · rename_i notSuccess notFailure
      simp only [reduceCtorEq, false_iff]
      rintro ⟨rfl | rfl, reads⟩
      · exact notSuccess reads
      · exact notFailure reads

theorem solid_of_generic
    {selected value : String}
    (isGeneric : value = genericSuccess ∨ value = genericFailure)
    (reads : StepInputs.normalized selected = value) :
    Text.isBlank selected = false := by
  refine StepInputs.solid_of_normalized reads ?_
  rcases isGeneric with rfl | rfl <;> decide

/-- Without a free record, success or failure has to be chosen. -/
theorem genericChoice_eq_ok_iff_of_required
    (required : step.plan.recordKind.isFreeform = false) :
    step.genericChoice inputs = .ok choice ↔
      ∃ selected value, inputs.selected = some selected ∧
        (value = genericSuccess ∨ value = genericFailure) ∧
        StepInputs.normalized selected = value ∧ choice = (some value, .advance) := by
  simp only [genericChoice, required, Bool.false_eq_true, ↓reduceIte, Except.bind_eq_ok_iff,
    Except.map_eq_ok_iff, StepInputs.requiredSelection_eq_ok_iff, genericValue_eq_ok_iff]
  constructor
  · rintro ⟨_, ⟨selected, given, _, rfl⟩, value, ⟨isGeneric, reads⟩, rfl⟩
    rw [StepInputs.normalized_trim] at reads
    exact ⟨selected, value, given, isGeneric, reads, rfl⟩
  · rintro ⟨selected, value, given, isGeneric, reads, rfl⟩
    refine ⟨_, ⟨selected, given, solid_of_generic isGeneric reads, rfl⟩, value, ⟨isGeneric, ?_⟩,
      rfl⟩
    rwa [StepInputs.normalized_trim]

/-- With a free record, success or failure may be chosen, or the choice left open. -/
theorem genericChoice_eq_ok_iff_of_freely
    (freely : step.plan.recordKind.isFreeform = true) :
    step.genericChoice inputs = .ok choice ↔
      (∃ selected value, inputs.selected = some selected ∧
          (value = genericSuccess ∨ value = genericFailure) ∧
          StepInputs.normalized selected = value ∧ choice = (some value, .advance)) ∨
        ((∀ selected ∈ inputs.selected, Text.isBlank selected = true) ∧
          choice = (none, .advance)) := by
  simp only [genericChoice, freely, ↓reduceIte]
  cases given : inputs.selected with
  | none =>
      simp [@eq_comm _ _ choice]
  | some selected =>
      cases blank : Text.isBlank selected with
      | true =>
          have nothingRead (value : String) :
              ¬ ((value = genericSuccess ∨ value = genericFailure) ∧
                StepInputs.normalized selected = value) := by
            rintro ⟨isGeneric, reads⟩
            rw [solid_of_generic isGeneric reads] at blank
            cases blank
          simp only [Option.filter_some, blank, Bool.not_true, Bool.false_eq_true, ↓reduceIte,
            Except.ok.injEq, Option.mem_def, Option.some.injEq, forall_eq', true_and]
          constructor
          · rintro rfl
            exact .inr rfl
          · rintro (⟨_, value, rfl, isGeneric, reads, _⟩ | isOpen)
            · exact (nothingRead value ⟨isGeneric, reads⟩).elim
            · exact isOpen.symm
      | false =>
          simp only [Option.filter_some, blank, Bool.not_false, ↓reduceIte, Except.map_eq_ok_iff,
            genericValue_eq_ok_iff, Option.mem_def, Option.some.injEq, forall_eq',
            Bool.false_eq_true, false_and, or_false]
          constructor
          · rintro ⟨value, ⟨isGeneric, reads⟩, rfl⟩
            exact ⟨selected, value, rfl, isGeneric, reads, rfl⟩
          · rintro ⟨_, value, rfl, isGeneric, reads, rfl⟩
            exact ⟨value, ⟨isGeneric, reads⟩, rfl⟩

theorem genericChoice_eq_ok_iff :
    step.genericChoice inputs = .ok choice ↔
      (∃ selected value, inputs.selected = some selected ∧
          (value = genericSuccess ∨ value = genericFailure) ∧
          StepInputs.normalized selected = value ∧ choice = (some value, .advance)) ∨
        (step.plan.recordKind.isFreeform = true ∧
          (∀ selected ∈ inputs.selected, Text.isBlank selected = true) ∧
          choice = (none, .advance)) := by
  cases freely : step.plan.recordKind.isFreeform with
  | false =>
      rw [genericChoice_eq_ok_iff_of_required freely]
      simp
  | true =>
      rw [genericChoice_eq_ok_iff_of_freely freely]
      simp

/-- What is chosen on a step that asks for its outcome is what its rules accept. -/
theorem chosen_eq_ok_iff
    (asks : step.IsCall ∨ step.plan.isConditional = true) :
    step.chosen inputs = .ok choice ↔ step.Accepts inputs.selected choice := by
  unfold chosen
  cases kind : step.outcomeKind with
  | immediate =>
      obtain ⟨noCall, unconditional⟩ := outcomeKind_eq_immediate_iff.mp kind
      simp [noCall, unconditional] at asks
  | callOutcome =>
      have call := outcomeKind_eq_callOutcome_iff.mp kind
      simp only [callChoice_eq_ok_iff, StepInputs.answered_iff, StepInputs.notAnswered_iff]
      constructor
      · rintro ⟨selected, given, ⟨names, rfl⟩ | ⟨names, rfl⟩⟩
        · exact .answered call given names
        · exact .notAnswered call given names
      · intro accepts
        cases accepts with
        | answered _ given names => exact ⟨_, given, .inl ⟨names, rfl⟩⟩
        | notAnswered _ given names => exact ⟨_, given, .inr ⟨names, rfl⟩⟩
        | authored noCall | generic noCall | leftOpen noCall => exact (noCall call).elim
  | authored =>
      obtain ⟨noCall, _, some⟩ := outcomeKind_eq_authored_iff.mp kind
      simp only [authoredChoice_eq_ok_iff]
      constructor
      · rintro ⟨entered, outcome, action, given, picks, leads, rfl⟩
        exact .authored noCall given (Text.encloses_trim entered) picks leads
      · intro accepts
        cases accepts with
        | authored _ given encloses picks leads =>
            rw [← Text.trim_eq_iff.mpr encloses] at picks
            exact ⟨_, _, _, given, picks, leads, rfl⟩
        | answered call | notAnswered call => exact (noCall call).elim
        | generic _ none | leftOpen _ none => exact (some none).elim
  | generic =>
      obtain ⟨noCall, _, plain⟩ := outcomeKind_eq_generic_iff.mp kind
      simp only [genericChoice_eq_ok_iff, RecordKind.isFreeform_iff, Text.isBlank_iff]
      constructor
      · rintro (⟨selected, value, given, isGeneric, reads, rfl⟩ | ⟨freely, nothing, rfl⟩)
        · exact .generic noCall plain given isGeneric ((StepInputs.generic_iff isGeneric).mp reads)
        · exact .leftOpen noCall plain freely nothing
      · intro accepts
        cases accepts with
        | generic _ _ given isGeneric names =>
            exact .inl ⟨_, _, given, isGeneric, (StepInputs.generic_iff isGeneric).mpr names, rfl⟩
        | leftOpen _ _ freely nothing => exact .inr ⟨freely, nothing, rfl⟩
        | authored _ _ _ picks _ => exact (List.ne_nil_of_mem picks.mem plain).elim
        | answered call | notAnswered call => exact (noCall call).elim

/-- An entry chooses one thing at most. -/
theorem Accepts.unique
    {entry : Option String}
    {choice' : Choice}
    (asks : step.IsCall ∨ step.plan.isConditional = true)
    (accepts : step.Accepts entry choice)
    (accepts' : step.Accepts entry choice') :
    choice = choice' := by
  have isChosen : step.chosen { selected := entry } = .ok choice :=
    (chosen_eq_ok_iff asks).mpr accepts
  have isChosen' : step.chosen { selected := entry } = .ok choice' :=
    (chosen_eq_ok_iff asks).mpr accepts'
  exact Except.ok.inj (isChosen.symm.trans isChosen')

theorem freeformRecord_eq_ok_iff
    {record : Option (String × Json)} :
    step.freeformRecord inputs = .ok record ↔ inputs.Fills step.plan.recordKind record := by
  unfold freeformRecord
  cases step.plan.recordKind with
  | none =>
      constructor
      · rintro ⟨⟩
        exact .none
      · rintro ⟨⟩
        rfl
  | dropdown =>
      constructor
      · rintro ⟨⟩
        exact .dropdown
      · rintro ⟨⟩
        rfl
  | text =>
      simp only
      constructor
      · intro recorded
        split at recorded
        · rename_i note entry
          obtain ⟨entered, given, trimmed⟩ := StepInputs.solidEntry_eq_some_iff.mp entry
          obtain ⟨encloses, solid⟩ := Text.encloses_solid_iff.mpr trimmed
          cases recorded
          exact .text given encloses solid
        · cases recorded
      · intro fills
        cases fills with
        | text given encloses solid =>
            have trimmed := Text.encloses_solid_iff.mp ⟨encloses, solid⟩
            rw [StepInputs.solidEntry_eq_some_iff.mpr ⟨_, given, trimmed⟩]
            rfl
  | number =>
      simp only
      constructor
      · intro recorded
        split at recorded
        · cases recorded
        · rename_i entered entry
          obtain ⟨_, given, trimmed⟩ := StepInputs.solidEntry_eq_some_iff.mp entry
          obtain ⟨encloses, -⟩ := Text.encloses_solid_iff.mpr trimmed
          split at recorded
          · rename_i value reads
            cases recorded
            exact .number given encloses (StepInputs.readNumber_eq_some_iff.mp reads)
          · cases recorded
      · intro fills
        cases fills with
        | number given encloses writes =>
            have trimmed := Text.encloses_solid_iff.mp ⟨encloses, writes.nonempty⟩
            rw [StepInputs.solidEntry_eq_some_iff.mpr ⟨_, given, trimmed⟩]
            simp only [StepInputs.readNumber_eq_some_iff.mpr writes]
            rfl
  | checkbox =>
      simp only
      constructor
      · intro recorded
        split at recorded
        · rename_i checked given
          cases recorded
          exact .checkbox given
        · cases recorded
      · intro fills
        cases fills with
        | checkbox given =>
            rw [given]
            rfl

/-- The chosen outcome and the free record are what is recorded, each under its own name. -/
theorem get?_recordedValues_eq_some_iff
    {selected : Option String}
    {record : Option (String × Json)}
    (elsewhere : ∀ name value, record = some (name, value) → name ≠ selectedName)
    {name : String}
    {value : Json} :
    (recordedValues selected record).get? name = some value ↔
      (name = selectedName ∧ selected.map Json.string = some value) ∨
        record = some (name, value) := by
  have chosenAlone :
      (recordedValues selected none).get? name = some value ↔
        name = selectedName ∧ selected.map Json.string = some value := by
    cases selected with
    | none =>
        simp [recordedValues]
    | some text =>
        simp only [recordedValues, FieldValues.get?_insert, FieldValues.get?_empty]
        by_cases same : selectedName = name
        · simp [same]
        · simp [same, Ne.symm same]
  cases record with
  | none =>
      simpa using chosenAlone
  | some free =>
      obtain ⟨freeName, freeValue⟩ := free
      have apart : freeName ≠ selectedName := elsewhere freeName freeValue rfl
      have inserted :
          (recordedValues selected (some (freeName, freeValue))).get? name =
            if freeName = name then some freeValue
            else (recordedValues selected none).get? name :=
        FieldValues.get?_insert _ _ _ _
      rw [inserted]
      by_cases same : freeName = name
      · subst same
        simp [apart]
      · simp [same, chosenAlone]

theorem outcomeKind_of_picks
    {selected : String}
    (noCall : ¬ step.IsCall)
    (conditional : step.plan.isConditional = true)
    (picks : step.Picks selected outcome) :
    step.outcomeKind = .authored :=
  outcomeKind_eq_authored_iff.mpr ⟨noCall, conditional, List.ne_nil_of_mem picks.mem⟩

/-- A choice only fails for how the step was authored where an outcome is picked. -/
theorem exists_picked_of_chosen_error
    {fault : OutcomeFault}
    (failed : step.chosen inputs = .error fault)
    (misconfigured : fault.kind = .configuration) :
    ∃ selected outcome, inputs.selected = some selected ∧
      ¬ step.IsCall ∧ step.Picks (Text.trim selected) outcome := by
  have notEntered : fault.kind ≠ .validation := by
    rw [misconfigured]
    decide
  unfold chosen at failed
  cases kind : step.outcomeKind with
  | immediate =>
      rw [kind] at failed
      cases failed
  | callOutcome =>
      rw [kind] at failed
      exact (notEntered (callChoice_error failed)).elim
  | generic =>
      rw [kind] at failed
      exact (notEntered (genericChoice_error failed)).elim
  | authored =>
      rw [kind] at failed
      have noCall := (outcomeKind_eq_authored_iff.mp kind).1
      rcases Except.bind_eq_error_iff.mp failed with missing | ⟨_, selection, refused⟩
      · exact (notEntered (requiredSelection_error missing)).elim
      · obtain ⟨selected, given, _, rfl⟩ := StepInputs.requiredSelection_eq_ok_iff.mp selection
        split at refused
        · cases refused
          exact (notEntered rfl).elim
        · rename_i outcome found
          exact ⟨selected, outcome, given, noCall, outcome?_eq_some_iff.mp found⟩

end Step

end Fieldwork
