import Fieldwork.Proofs.Task.Rules

namespace Fieldwork

/-!
# Numbers that steps record

A step reads a number as an integer where the text writes one of 64 bits, and as a
real elsewhere; a form compares texts by their reals only.  The two agree: what a step
accepts is what has a number in a form, and what it records stands for that number, but
the integer is recorded with all of its digits where the form sees the nearest number.
-/

/-- Whether two values stand for finite numbers that are equal. -/
def Json.SameNumber
    (value other : Json) :
    Prop :=
  ∃ number otherNumber,
    value.numeric? = some number ∧ other.numeric? = some otherNumber ∧
      number.same otherNumber = true

namespace StepInputs

variable {text : String} {value : Int}

theorem readNumber_cases
    (text : String) :
    (∃ value, ∃ fits : FitsInt64 value, WritesInteger text.toList value ∧
        readNumber text = some (.integer value fits.isWord)) ∨
      readNumber text = (readReal text.toList).map .real := by
  by_cases writesOne : ∃ value, WritesInteger text.toList value ∧ FitsInt64 value
  · obtain ⟨value, writes, fits⟩ := writesOne
    exact .inl ⟨value, fits, writes, readNumber_of_writesInteger writes fits⟩
  · push Not at writesOne
    exact .inr (readNumber_of_no_integer writesOne)

/-- The number that is read of a text is equal to the real that the text writes. -/
theorem real_of_readNumber
    {number : Json.Number}
    (reads : readNumber text = some number) :
    ∃ real written, readReal text.toList = some real ∧ number.real? = some written ∧
      written.same real = true := by
  rcases readNumber_cases text with ⟨value, fits, writes, isInteger⟩ | isReal
  · rw [isInteger] at reads
    cases reads
    have small := fits.isWord.natAbs_lt
    obtain ⟨real, readsReal, steps⟩ := readReal_of_writesInteger writes small
    obtain ⟨written, isNearest, writtenSteps⟩ := Binary64.exists_ofInt? small
    refine ⟨real, written, readsReal, isNearest, ?_⟩
    rw [Binary64.same, writtenSteps, steps]
    exact beq_self_eq_true _
  · rw [isReal] at reads
    obtain ⟨real, readsReal, rfl⟩ := Option.map_eq_some_iff.mp reads
    exact ⟨real, real, readsReal, rfl, beq_self_eq_true _⟩

/-- A number is read of a text exactly where the text writes a real. -/
theorem isSome_readNumber
    (text : String) :
    (readNumber text).isSome = (readReal text.toList).isSome := by
  rcases readNumber_cases text with ⟨value, fits, writes, isInteger⟩ | isReal
  · obtain ⟨real, readsReal, -⟩ := readReal_of_writesInteger writes fits.isWord.natAbs_lt
    rw [isInteger, readsReal]
    rfl
  · rw [isReal, Option.isSome_map]

end StepInputs

namespace Json

/-- A form gives a text a number exactly where a step reads one between its blanks. -/
theorem isNumeric_string_iff
    {text : String} :
    (Json.string text).IsNumeric ↔ (StepInputs.readNumber (Text.trim text)).isSome = true := by
  rw [StepInputs.isSome_readNumber, Text.trim, String.toList_ofList]
  rfl

theorem sameNumber_of_readNumber
    {text : String}
    {number : Number}
    (reads : StepInputs.readNumber (Text.trim text) = some number) :
    (Json.number number).SameNumber (.string text) := by
  obtain ⟨real, written, readsReal, isWritten, same⟩ := StepInputs.real_of_readNumber reads
  rw [Text.trim, String.toList_ofList] at readsReal
  exact ⟨written, real, isWritten, readsReal, same⟩

end Json

namespace FieldTask

variable {task : FieldTask} {step : Step} {inputs : StepInputs} {choice : Step.Choice}
  {text : String}

/-- A step with a choice that leads on and a number to record is resolved by that number. -/
theorem resolve_number_eq_ok_iff
    (known : ∃ member ∈ task.steps, member.id = step.id)
    (ownInputs : ∀ owner ∈ inputs.step, owner = step.id)
    (asks : step.IsCall ∨ step.plan.isConditional = true)
    (recordsNumber : step.plan.recordKind = .number)
    (accepts : step.Accepts inputs.selected choice)
    (leads : ∀ order, choice.2 = .jump order → ∃ target ∈ task.steps, target.order = order)
    (given : inputs.number = some text)
    (outcome : ResolvedOutcome) :
    task.resolve step inputs = .ok outcome ↔
      ∃ number, StepInputs.readNumber (Text.trim text) = some number ∧
        outcome =
          ⟨step.id, Step.recordedValues choice.1 (some (numberName, .number number)),
            choice.2⟩ := by
  rw [resolve_eq_ok_iff known ownInputs asks]
  constructor
  · rintro ⟨chosen, record, ⟨chosenAccepts, -, fills⟩, rfl⟩
    have sameChoice : chosen = choice := chosenAccepts.unique asks accepts
    rw [recordsNumber] at fills
    cases fills with
    | number entered encloses writes =>
        rw [given] at entered
        cases entered
        rw [Text.trim_eq_iff.mpr encloses, sameChoice]
        exact ⟨_, StepInputs.readNumber_eq_some_iff.mpr writes, rfl⟩
  · rintro ⟨number, reads, rfl⟩
    refine ⟨choice, some (numberName, .number number), ⟨accepts, leads, ?_⟩, rfl⟩
    rw [recordsNumber]
    exact .number given (Text.encloses_trim text) (StepInputs.readNumber_eq_some_iff.mp reads)

/--
Take a step that asks for its outcome and records a number, with a choice that it
accepts and that leads on.  It resolves with a text as its number exactly where a form
finds a number in the text.  What it records then stands for the number that the form
finds; and where the text, between its blanks, writes an integer of 64 bits, it is that
integer, of however many digits.
-/
theorem numbers_read_alike
    (known : ∃ member ∈ task.steps, member.id = step.id)
    (ownInputs : ∀ owner ∈ inputs.step, owner = step.id)
    (asks : step.isCallOutcomeStep = true ∨ step.plan.isConditional = true)
    (recordsNumber : step.plan.recordKind = .number)
    (accepts : step.Accepts inputs.selected choice)
    (leads : ∀ order, choice.2 = .jump order → ∃ target ∈ task.steps, target.order = order)
    (given : inputs.number = some text) :
    ((∃ outcome, task.resolve step inputs = .ok outcome) ↔ (Json.string text).IsNumeric) ∧
      (∀ outcome, task.resolve step inputs = .ok outcome →
        ∃ number, outcome.fieldValues.get? numberName = some (.number number) ∧
          (Json.number number).SameNumber (.string text)) ∧
      ∀ value, WritesInteger (Text.trim text).toList value → FitsInt64 value →
        ∃ outcome isWord, task.resolve step inputs = .ok outcome ∧
          outcome.fieldValues.get? numberName = some (.number (.integer value isWord)) := by
  have resolves :=
    resolve_number_eq_ok_iff known ownInputs (asks.imp_left Step.isCallOutcomeStep_iff.mp)
      recordsNumber accepts leads given
  have recorded (number : Json.Number) :
      (Step.recordedValues choice.1 (some (numberName, .number number))).get? numberName =
        some (.number number) := by
    have elsewhere :
        ∀ name value, some (numberName, Json.number number) = some (name, value) →
          name ≠ selectedName := by
      rintro _ _ ⟨⟩
      decide
    exact (Step.get?_recordedValues_eq_some_iff elsewhere).mpr (.inr rfl)
  refine ⟨?_, fun outcome resolved => ?_, fun value writes fits => ?_⟩
  · simp only [resolves, Json.isNumeric_string_iff, Option.isSome_iff_exists]
    constructor
    · rintro ⟨_, number, reads, -⟩
      exact ⟨number, reads⟩
    · rintro ⟨number, reads⟩
      exact ⟨_, number, reads, rfl⟩
  · obtain ⟨number, reads, rfl⟩ := (resolves outcome).mp resolved
    exact ⟨number, recorded number, Json.sameNumber_of_readNumber reads⟩
  · have reads := StepInputs.readNumber_of_writesInteger writes fits
    exact ⟨_, fits.isWord, (resolves _).mpr ⟨_, reads, rfl⟩, recorded _⟩

/-- A meter reading of 54 bits, entered with a sign and blanks, is recorded to its last digit. -/
theorem numbers_read_alike_meter :
    let inputs : StepInputs :=
      { step := some 1, selected := some "again", number := some " +9007199254740993 " }
    (∃ member ∈ inspectionTask.steps, member.id = inspection.id) ∧
      (∀ owner ∈ inputs.step, owner = inspection.id) ∧
      inspection.plan.isConditional = true ∧
      inspection.plan.recordKind = .number ∧
      inspection.Accepts inputs.selected (some "again", .again) ∧
      WritesInteger (Text.trim " +9007199254740993 ").toList 9007199254740993 ∧
      FitsInt64 9007199254740993 ∧
      (Json.string " +9007199254740993 ").IsNumeric ∧
      ∃ outcome isWord, inspectionTask.resolve inspection inputs = .ok outcome ∧
        outcome.fieldValues.get? numberName =
          some (.number (.integer 9007199254740993 isWord)) := by
  intro inputs
  have known : ∃ member ∈ inspectionTask.steps, member.id = inspection.id :=
    ⟨inspection, List.mem_cons_self, rfl⟩
  have ownInputs : ∀ owner ∈ inputs.step, owner = inspection.id := by
    intro owner isOwner
    exact (Option.some.inj isOwner).symm
  have picks :
      inspection.Picks "again" ⟨"again", "Look again", .again, by decide⟩ :=
    .byId (by decide) rfl
  have accepts : inspection.Accepts inputs.selected (some "again", .again) :=
    .authored (by decide) rfl (by decide) picks .again
  have writes : WritesInteger (Text.trim " +9007199254740993 ").toList 9007199254740993 := by
    have trimmed :
        (Text.trim " +9007199254740993 ").toList = '+' :: "9007199254740993".toList := by
      decide +kernel
    have value : (naturalOf "9007199254740993".toList : Int) = 9007199254740993 := by
      decide +kernel
    rw [trimmed, ← value]
    exact .plus (List.all_eq_true.mp (by decide)) (by decide)
  have fits : FitsInt64 9007199254740993 := by decide
  obtain ⟨resolvesIff, -, keepsIntegers⟩ :=
    numbers_read_alike known ownInputs (.inr rfl) rfl accepts (by simp) rfl
  obtain ⟨outcome, isWord, resolved, recorded⟩ := keepsIntegers _ writes fits
  exact ⟨known, ownInputs, rfl, rfl, accepts, writes, fits, resolvesIff.mp ⟨outcome, resolved⟩,
    outcome, isWord, resolved, recorded⟩

end FieldTask

end Fieldwork
