import Fieldwork.Proofs.Form.Integers
import Fieldwork.Proofs.Number.Integers
import Fieldwork.Proofs.Number.Value
import Fieldwork.Proofs.Number.Written
import Fieldwork.Proofs.Spelling
import Fieldwork.Task.Outcome

namespace Fieldwork

/-!
# What entries write

A selection is compared by its words and without regard to the case of its letters, which
is to say that the text names an outcome.  A text writes a number as an integer where it
writes one of 64 bits, and elsewhere as the real that is closest to its decimal.
-/

/-- Whether an integer fits 64 bits with a sign. -/
def FitsInt64
    (value : Int) :
    Prop :=
  leastInt64 ≤ value ∧ value ≤ greatestInt64

instance
    (value : Int) :
    Decidable (FitsInt64 value) :=
  inferInstanceAs (Decidable (_ ∧ _))

theorem FitsInt64.isWord
    {value : Int}
    (fits : FitsInt64 value) :
    IsWord value :=
  ⟨fits.1, fits.2.trans (by decide)⟩

/-- What is read of a text as a real is the number to which its decimal is rounded. -/
theorem readReal_eq_some_iff
    {text : List Char}
    {number : Binary64} :
    readReal text = some number ↔
      ∃ decimal, WritesDecimal text decimal ∧ decimal.RoundsTo number := by
  simp only [readReal, Option.bind_eq_some_iff, read_eq_some_iff, Decimal.toBinary64?_eq_some_iff]

namespace StepInputs

/-- Whether a text writes a finite number. -/
inductive WritesNumber
    (text : List Char) :
    Json.Number →
    Prop
  | integer {value : Int}
      (writes : WritesInteger text value)
      (fits : FitsInt64 value) :
      WritesNumber text (.integer value fits.isWord)
  | real {decimal : Decimal} {number : Binary64}
      (noInteger : ∀ value, WritesInteger text value → ¬ FitsInt64 value)
      (writes : WritesDecimal text decimal)
      (rounds : decimal.RoundsTo number) :
      WritesNumber text (.real number)

section Numbers

variable {text : String} {value : Int} {number : Json.Number}

/-- A text that writes an integer of 64 bits is read as that integer. -/
theorem readNumber_of_writesInteger
    (writes : WritesInteger text.toList value)
    (fits : FitsInt64 value) :
    readNumber text = some (.integer value fits.isWord) := by
  have reads : readInteger leastInt64 greatestInt64 text.toList = .ok value :=
    (readInteger_eq_ok_iff (by decide) (by decide)).mpr ⟨writes, fits⟩
  rw [readNumber, reads]
  exact dif_pos fits.isWord

/-- Every other text is read as a real, as a form reads it. -/
theorem readNumber_of_no_integer
    (noInteger : ∀ value, WritesInteger text.toList value → ¬ FitsInt64 value) :
    readNumber text = (readReal text.toList).map .real := by
  unfold readNumber
  cases reads : readInteger leastInt64 greatestInt64 text.toList with
  | error fault =>
      rfl
  | ok value =>
      obtain ⟨writes, fits⟩ := (readInteger_eq_ok_iff (by decide) (by decide)).mp reads
      exact absurd fits (noInteger value writes)

/-- The number that is read of a text is the one that the text writes. -/
theorem readNumber_eq_some_iff :
    readNumber text = some number ↔ WritesNumber text.toList number := by
  by_cases writesOne : ∃ value, WritesInteger text.toList value ∧ FitsInt64 value
  · obtain ⟨value, writes, fits⟩ := writesOne
    have reads := readNumber_of_writesInteger writes fits
    rw [reads]
    constructor
    · rintro ⟨⟩
      exact .integer writes fits
    · intro writesNumber
      cases writesNumber with
      | integer writes' fits' =>
          rw [← reads, readNumber_of_writesInteger writes' fits']
      | real noInteger =>
          exact absurd fits (noInteger value writes)
  · push Not at writesOne
    rw [readNumber_of_no_integer writesOne, Option.map_eq_some_iff]
    constructor
    · rintro ⟨real, readsReal, rfl⟩
      obtain ⟨decimal, writes, rounds⟩ := readReal_eq_some_iff.mp readsReal
      exact .real writesOne writes rounds
    · intro writesNumber
      cases writesNumber with
      | integer writes fits =>
          exact absurd fits (writesOne _ writes)
      | real _ writes rounds =>
          exact ⟨_, readReal_eq_some_iff.mpr ⟨_, writes, rounds⟩, rfl⟩

end Numbers

/-! ## Selections -/

/-- The form in which a selection is compared is a name where the selection names it. -/
theorem normalized_eq_iff
    {selected name : String}
    (noCapital : name.toList.any Char.isUpper = false) :
    normalized selected = name ↔ Text.Names selected name :=
  Text.lowerAscii_intercalate_words_eq_iff noCapital

end StepInputs

/-! ## Calls -/

/-- Whether a step is a call: it is marked as one, or has the name of calls in any case. -/
inductive Step.IsCall
    (step : Step) :
    Prop
  | marked
      (forced : step.plan.forcedConditional = true)
  | named {first second : List Char}
      (hasWords : Text.HasWords step.name.toList [first, second])
      (call : Text.Spells (String.ofList first) "call")
      (homeowner : Text.Spells (String.ofList second) "homeowner")

/-- A step asks whether a call was answered exactly where it is a call. -/
theorem Step.isCallOutcomeStep_iff
    {step : Step} :
    step.isCallOutcomeStep = true ↔ step.IsCall := by
  have callName : (Text.words callOutcomeName).map Text.lowerAscii = ["call", "homeowner"] := by
    decide
  have isCall {first : List Char} :
      Text.lowerAscii (String.ofList first) = "call" ↔
        Text.Spells (String.ofList first) "call" :=
    Text.lowerAscii_eq_iff (by decide)
  have isHomeowner {second : List Char} :
      Text.lowerAscii (String.ofList second) = "homeowner" ↔
        Text.Spells (String.ofList second) "homeowner" :=
    Text.lowerAscii_eq_iff (by decide)
  rw [isCallOutcomeStep, Bool.or_eq_true, beq_iff_eq, callName, Text.words, List.map_map]
  constructor
  · rintro (forced | sameName)
    · exact .marked forced
    · obtain ⟨first, behind, words, call, sameBehind⟩ := List.map_eq_cons_iff.mp sameName
      obtain ⟨second, none, rfl, homeowner, noMore⟩ := List.map_eq_cons_iff.mp sameBehind
      rw [List.map_eq_nil_iff.mp noMore] at words
      exact .named (Text.wordsOf_eq_iff.mp words) (isCall.mp call) (isHomeowner.mp homeowner)
  · rintro (forced | ⟨hasWords, call, homeowner⟩)
    · exact .inl forced
    · rw [hasWords.wordsOf_eq]
      exact .inr (by simp [isCall.mpr call, isHomeowner.mpr homeowner])

instance
    (step : Step) :
    Decidable step.IsCall :=
  decidable_of_iff (step.isCallOutcomeStep = true) Step.isCallOutcomeStep_iff

theorem Step.isCallOutcomeStep_eq_false_iff
    {step : Step} :
    step.isCallOutcomeStep = false ↔ ¬ step.IsCall := by
  rw [← isCallOutcomeStep_iff, Bool.not_eq_true]

end Fieldwork
