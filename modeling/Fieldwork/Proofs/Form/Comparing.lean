import Mathlib.Order.Basic
import Fieldwork.Form.Condition
import Fieldwork.Proofs.Number.ReadBack

namespace Fieldwork

/-!
# What comparisons compare

Equality compares two numeric values as numbers and other values as texts, while the
orderings know numbers only.  Still all three look at one thing: the number that a
value stands for is the number that its text writes, so a numeric value never has the
text of a value that is not numeric.
-/

namespace Json

/-! ## The number of a value and its text -/

/-- The number of a document is read from its text. -/
theorem Number.readReal_text
    (number : Number) :
    readReal number.text = number.real? := by
  cases number with
  | integer value inRange =>
      have small : value.natAbs < 10 ^ 20 := by
        unfold leastInt64 greatestNat64 at inRange
        omega
      exact readReal_integerText small
  | real value =>
      exact Binary64.readReal_text (.inr rfl) value

theorem Number.trimChars_text
    (number : Number) :
    Text.trimChars number.text = number.text := by
  cases number with
  | integer value inRange =>
      exact Decimal.trimChars_of_read (read_integerText value)
  | real value =>
      have reads : readReal (value.text layout) = some value :=
        Binary64.readReal_text (.inr rfl) value
      obtain ⟨decimal, reads, -⟩ := Option.bind_eq_some_iff.mp reads
      exact Decimal.trimChars_of_read reads

/-- The number that a value stands for is the one that its text writes between blanks. -/
theorem numeric?_eq_readReal
    (value : Json) :
    value.numeric? = readReal (Text.trimChars (comparable (some value)).toList) := by
  cases value with
  | null =>
      rfl
  | bool flag =>
      cases flag <;> decide +kernel
  | number number =>
      simp only [numeric?, comparable, render, written, String.toList_ofList,
        Number.trimChars_text, Number.readReal_text]
  | string content =>
      rfl
  | array items =>
      have bracket : '[' ∈ (comparable (some (.array items))).toList := by
        simp [comparable, render, written]
      exact (readReal_trimChars_eq_none bracket (by decide) (by simp [IsNumberChar, isDigit])).symm
  | object fields =>
      have brace : '\x7b' ∈ (comparable (some (.object fields))).toList := by
        simp [comparable, render, written]
      exact (readReal_trimChars_eq_none brace (by decide) (by simp [IsNumberChar, isDigit])).symm

/-- Values with one text stand for one number, or none of them for any. -/
theorem numeric?_eq_of_comparable_eq
    {value operand : Json}
    (sameText : comparable (some value) = comparable (some operand)) :
    value.numeric? = operand.numeric? := by
  rw [numeric?_eq_readReal, numeric?_eq_readReal, sameText]

/-! ## Comparison of values -/

/-- Whether an operator holds between two values. -/
def Meets
    (operator : Operator)
    (value operand : Json) :
    Prop :=
  Condition.compare operator (some value) operand = true

/-- Whether a value stands for a finite number. -/
def IsNumeric
    (value : Json) :
    Prop :=
  value.numeric?.isSome = true

instance
    (operator : Operator)
    (value operand : Json) :
    Decidable (value.Meets operator operand) :=
  inferInstanceAs (Decidable (_ = true))

instance
    (value : Json) :
    Decidable value.IsNumeric :=
  inferInstanceAs (Decidable (_ = true))

/-- What is compared of a value: its number, in steps, or its text where it has none. -/
def compared
    (value : Json) :
    Int ⊕ String :=
  match value.numeric? with
  | some real => .inl real.steps
  | none => .inr (comparable (some value))

variable {value operand : Json}

/-- Equality is equality of what is compared. -/
theorem meets_equals_iff :
    value.Meets .equals operand ↔ value.compared = operand.compared := by
  -- of two values with one text, both are numeric or none is
  have differ :
      value.numeric?.isSome ≠ operand.numeric?.isSome →
        comparable (some value) ≠ comparable (some operand) := by
    intro apart sameText
    exact apart (by rw [numeric?_eq_of_comparable_eq sameText])
  unfold Meets Condition.compare Condition.valuesEqual compared
  cases left : value.numeric? with
  | none =>
      cases right : operand.numeric? with
      | none =>
          simp [left]
      | some real =>
          simp [left, differ (by simp [left, right])]
  | some real =>
      cases right : operand.numeric? with
      | none =>
          simp [left, differ (by simp [left, right])]
      | some other =>
          simp [left, Binary64.same]

/-- A value is less than another one where both are numbers in that order. -/
theorem meets_lessThan_iff :
    value.Meets .lessThan operand ↔
      ∃ left right, value.compared = .inl left ∧ operand.compared = .inl right ∧ left < right := by
  unfold Meets Condition.compare Condition.numbersOrdered compared
  cases left : value.numeric? <;> cases right : operand.numeric? <;>
    simp [left, Binary64.below]

theorem meets_greaterThan_iff_meets_lessThan :
    value.Meets .greaterThan operand ↔ operand.Meets .lessThan value := by
  unfold Meets Condition.compare Condition.numbersOrdered
  cases left : value.numeric? <;> cases right : operand.numeric? <;> simp [left, right]

theorem isNumeric_iff :
    value.IsNumeric ↔ ∃ steps, value.compared = .inl steps := by
  unfold IsNumeric compared
  cases value.numeric? <;> simp

/-! ## Relations between values -/

/-- Between two numeric values exactly one of the three comparisons holds. -/
theorem existsUnique_meets_of_isNumeric
    (valueNumeric : value.IsNumeric)
    (operandNumeric : operand.IsNumeric) :
    ∃! operator,
      operator ∈ [Operator.greaterThan, .lessThan, .equals] ∧ value.Meets operator operand := by
  obtain ⟨left, valueSteps⟩ := isNumeric_iff.mp valueNumeric
  obtain ⟨right, operandSteps⟩ := isNumeric_iff.mp operandNumeric
  have less : value.Meets .lessThan operand ↔ left < right := by
    simp [meets_lessThan_iff, valueSteps, operandSteps]
  have greater : value.Meets .greaterThan operand ↔ right < left := by
    simp [meets_greaterThan_iff_meets_lessThan, meets_lessThan_iff, valueSteps, operandSteps]
  have equal : value.Meets .equals operand ↔ left = right := by
    simp [meets_equals_iff, valueSteps, operandSteps]
  apply existsUnique_of_exists_of_unique
  · rcases lt_trichotomy left right with below | same | above
    · exact ⟨.lessThan, by decide, less.mpr below⟩
    · exact ⟨.equals, by decide, equal.mpr same⟩
    · exact ⟨.greaterThan, by decide, greater.mpr above⟩
  · rintro operator other ⟨listed, meets⟩ ⟨otherListed, otherMeets⟩
    simp only [List.mem_cons, List.not_mem_nil, or_false] at listed otherListed
    rcases listed with rfl | rfl | rfl <;> rcases otherListed with rfl | rfl | rfl <;>
      simp only [greater, less, equal] at meets otherMeets <;>
      first | rfl | omega

theorem isNumeric_of_meets_lessThan
    (less : value.Meets .lessThan operand) :
    value.IsNumeric ∧ operand.IsNumeric := by
  obtain ⟨left, right, valueSteps, operandSteps, -⟩ := meets_lessThan_iff.mp less
  exact ⟨isNumeric_iff.mpr ⟨left, valueSteps⟩, isNumeric_iff.mpr ⟨right, operandSteps⟩⟩

theorem meets_lessThan_trans
    {between : Json}
    (less : value.Meets .lessThan between)
    (more : between.Meets .lessThan operand) :
    value.Meets .lessThan operand := by
  obtain ⟨left, middle, valueSteps, betweenSteps, below⟩ := meets_lessThan_iff.mp less
  obtain ⟨middle', right, betweenSteps', operandSteps, above⟩ := meets_lessThan_iff.mp more
  cases betweenSteps.symm.trans betweenSteps'
  exact meets_lessThan_iff.mpr ⟨left, right, valueSteps, operandSteps, below.trans above⟩

/-- Equal values compare alike with every other value. -/
theorem meets_congr
    {value' : Json}
    (equal : value.Meets .equals value')
    (operand : Json) :
    (value.Meets .greaterThan operand ↔ value'.Meets .greaterThan operand) ∧
      (value.Meets .lessThan operand ↔ value'.Meets .lessThan operand) := by
  have same : value.compared = value'.compared := meets_equals_iff.mp equal
  simp only [meets_greaterThan_iff_meets_lessThan, meets_lessThan_iff, same, and_self]

end Json

namespace Condition

/-- A field without a value counts as one that holds null, whatever the operator. -/
theorem holds_iff_meets
    (condition : Condition)
    (values : FieldValues) :
    condition.holds values = true ↔
      ((values.get? condition.field).getD .null).Meets condition.operator condition.operand := by
  unfold holds Json.Meets
  cases values.get? condition.field with
  | none =>
      cases condition.operator <;> rfl
  | some value =>
      rfl

/-- On what fields hold, equality is an equivalence over all values. -/
theorem equals_is_equivalence :
    (∀ (field : String) (operand : Json) (values : FieldValues),
      (⟨field, .equals, operand⟩ : Condition).holds values = true ↔
        ((values.get? field).getD .null).Meets .equals operand) ∧
    Equivalence (Json.Meets .equals) := by
  refine ⟨fun field operand values => holds_iff_meets _ values, fun value => ?_, ?_, ?_⟩
  · exact Json.meets_equals_iff.mpr rfl
  · intro value operand equal
    exact Json.meets_equals_iff.mpr (Json.meets_equals_iff.mp equal).symm
  · intro value between operand equal more
    exact Json.meets_equals_iff.mpr <|
      (Json.meets_equals_iff.mp equal).trans (Json.meets_equals_iff.mp more)

/-- An integer of more than 53 bits equals its neighbour, since both stand for one real. -/
example : (Json.string "9007199254740993 ").Meets .equals (.ofInt 9007199254740992) := by
  decide +kernel

/-- Beyond the finite numbers a text stands for none and equals itself alone. -/
example : ¬ (Json.string "1e400").Meets .equals (.string "1e0400") := by decide +kernel

/-- The three comparisons cohere over all values, of which a field without one holds null. -/
theorem comparisons_cohere :
    (∀ (condition : Condition) (values : FieldValues),
      condition.holds values = true ↔
        ((values.get? condition.field).getD .null).Meets condition.operator condition.operand) ∧
    (∀ value operand : Json,
      value.IsNumeric ∧ operand.IsNumeric →
        ∃! operator,
          operator ∈ [Operator.greaterThan, .lessThan, .equals] ∧ value.Meets operator operand) ∧
    (∀ value operand : Json,
      ¬ (value.IsNumeric ∧ operand.IsNumeric) →
        ¬ value.Meets .greaterThan operand ∧ ¬ value.Meets .lessThan operand) ∧
    (∀ value operand : Json, value.Meets .greaterThan operand ↔ operand.Meets .lessThan value) ∧
    (∀ value between operand : Json,
      value.Meets .greaterThan between → between.Meets .greaterThan operand →
        value.Meets .greaterThan operand) ∧
    ∀ value value' : Json, value.Meets .equals value' →
      ∀ operand : Json,
        (value.Meets .greaterThan operand ↔ value'.Meets .greaterThan operand) ∧
        (value.Meets .lessThan operand ↔ value'.Meets .lessThan operand) := by
  refine ⟨holds_iff_meets, ?_, ?_, ?_, ?_, ?_⟩
  · rintro value operand ⟨valueNumeric, operandNumeric⟩
    exact Json.existsUnique_meets_of_isNumeric valueNumeric operandNumeric
  · intro value operand notBoth
    refine ⟨fun greater => notBoth ?_, fun less => notBoth (Json.isNumeric_of_meets_lessThan less)⟩
    exact (Json.isNumeric_of_meets_lessThan
      (Json.meets_greaterThan_iff_meets_lessThan.mp greater)).symm
  · exact fun value operand => Json.meets_greaterThan_iff_meets_lessThan
  · intro value between operand greater more
    rw [Json.meets_greaterThan_iff_meets_lessThan] at greater more ⊢
    exact Json.meets_lessThan_trans more greater
  · exact fun value value' equal operand => Json.meets_congr equal operand

/-- A padded text, the integer that it writes, lesser numbers and a word for none. -/
theorem comparisons_cohere_padded :
    let padded := Json.string " 1.2e1 "
    let twelve := Json.ofInt 12
    let five := Json.string "+5"
    let zero := Json.string "-0."
    let infinite := Json.string "inf"
    (padded.Meets .equals twelve ∧
      (padded.Meets .greaterThan five ↔ twelve.Meets .greaterThan five)) ∧
    (padded.IsNumeric ∧ five.IsNumeric ∧
      ∃! operator,
        operator ∈ [Operator.greaterThan, .lessThan, .equals] ∧ padded.Meets operator five) ∧
    (¬ infinite.IsNumeric ∧ ¬ infinite.Meets .greaterThan five) ∧
    padded.Meets .greaterThan five ∧ five.Meets .greaterThan zero ∧
      padded.Meets .greaterThan zero := by
  intro padded twelve five zero infinite
  obtain ⟨-, exactlyOne, closed, -, transitive, congruent⟩ := comparisons_cohere
  have equal : padded.Meets .equals twelve := by decide +kernel
  have numeric : padded.IsNumeric ∧ five.IsNumeric := by decide +kernel
  have notNumeric : ¬ infinite.IsNumeric := by decide +kernel
  have greater : padded.Meets .greaterThan five := by decide +kernel
  have more : five.Meets .greaterThan zero := by decide +kernel
  exact ⟨⟨equal, (congruent _ _ equal five).1⟩, ⟨numeric.1, numeric.2, exactlyOne _ _ numeric⟩,
    ⟨notNumeric, (closed _ _ fun both => notNumeric both.1).1⟩,
    greater, more, transitive _ _ _ greater more⟩

end Condition

end Fieldwork
