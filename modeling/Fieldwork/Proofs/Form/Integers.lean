import Fieldwork.Proofs.Form.Comparing
import Fieldwork.Proofs.Json.Stored
import Fieldwork.Proofs.Number.Nearest

namespace Fieldwork

/-!
# Integers in comparisons

An integer of 64 bits, held as such or as its text, is compared by the number nearest
to it.  So the comparisons say of two integers what holds of their nearest numbers:
the order is never reversed, but integers of more than 53 bits that lie close together
may count as one.
-/

open Binary64 (IsNearest nearestInteger)

/-- Whether an integer fits 64 bits, with a sign or without. -/
def IsWord
    (value : Int) :
    Prop :=
  leastInt64 ≤ value ∧ value ≤ greatestNat64

instance
    (value : Int) :
    Decidable (IsWord value) :=
  inferInstanceAs (Decidable (_ ∧ _))

theorem IsWord.natAbs_lt
    {value : Int}
    (word : IsWord value) :
    value.natAbs < 2 ^ 64 := by
  unfold IsWord leastInt64 greatestNat64 at word
  omega

/--
Whether two integers may count as one: different ones of more than 53 bits, or of 2^53,
that lie within the widest gap between the numbers around integers of 64 bits.
-/
def MayCoincide
    (left right : Int) :
    Prop :=
  left ≠ right ∧ 2 ^ 53 ≤ left.natAbs ∧ 2 ^ 53 ≤ right.natAbs ∧ (left - right).natAbs ≤ 2048

instance
    (left right : Int) :
    Decidable (MayCoincide left right) :=
  inferInstanceAs (Decidable (_ ∧ _))

theorem mayCoincide_of_nearestInteger_eq
    {left right : Int}
    (leftWord : IsWord left)
    (rightWord : IsWord right)
    (apart : left ≠ right)
    (same : nearestInteger left = nearestInteger right) :
    MayCoincide left right :=
  ⟨apart, Binary64.two_pow_le_of_nearestInteger_eq apart same,
    Binary64.two_pow_le_of_nearestInteger_eq apart.symm same.symm,
    Binary64.natAbs_sub_le_of_nearestInteger_eq leftWord.natAbs_lt rightWord.natAbs_lt same⟩

namespace Json

variable {value operand : Json} {left right : Int}

/-- Whether a value is an integer, as one of a document or as its text. -/
def IsInteger
    (value : Json)
    (integer : Int) :
    Prop :=
  value = .ofInt integer ∨ value = .string (integerText integer)

/-- Either way an integer stands for the number nearest to it. -/
theorem IsInteger.numeric?_eq
    (isInteger : value.IsInteger left)
    (word : IsWord left) :
    value.numeric? = Binary64.ofInt? left := by
  rcases isInteger with rfl | rfl
  · rw [ofInt_eq_number word]
    rfl
  · have few : left.natAbs < 10 ^ 20 := word.natAbs_lt.trans (by decide)
    rw [numeric?, Decimal.trimChars_of_read (read_integerText left), readReal_integerText few]

theorem IsInteger.compared_eq
    (isInteger : value.IsInteger left)
    (word : IsWord left) :
    value.compared = .inl (nearestInteger left * Binary64.stepsPerUnit) := by
  obtain ⟨number, isNumber, steps⟩ := Binary64.exists_ofInt? word.natAbs_lt
  rw [compared, isInteger.numeric?_eq word, isNumber, ← steps]

end Json

namespace Condition

variable {field : String} {values : FieldValues} {value operand : Json} {left right : Int}

/-- Whether the comparisons of a field with an operand are those of two integers. -/
structure ComparesAs
    (field : String)
    (values : FieldValues)
    (operand : Json)
    (left right : Int) :
    Prop where
  equals :
    (⟨field, .equals, operand⟩ : Condition).holds values = true ↔ left = right
  greater :
    (⟨field, .greaterThan, operand⟩ : Condition).holds values = true ↔ right < left
  less :
    (⟨field, .lessThan, operand⟩ : Condition).holds values = true ↔ left < right

theorem comparesAs_nearestInteger
    (leftWord : IsWord left)
    (rightWord : IsWord right)
    (found : values.get? field = some value)
    (held : value.IsInteger left)
    (given : operand.IsInteger right) :
    ComparesAs field values operand (nearestInteger left) (nearestInteger right) := by
  have positive : (0 : Int) < Binary64.stepsPerUnit :=
    Int.natCast_pos.mpr Binary64.stepsPerUnit_pos
  have heldSteps := held.compared_eq leftWord
  have givenSteps := given.compared_eq rightWord
  generalize (Binary64.stepsPerUnit : Int) = unit at positive heldSteps givenSteps
  refine ⟨?_, ?_, ?_⟩
  · rw [holds_iff_meets, found, Option.getD_some, Json.meets_equals_iff, heldSteps, givenSteps,
      Sum.inl.injEq, Int.mul_eq_mul_right_iff positive.ne']
  · rw [holds_iff_meets, found, Option.getD_some, Json.meets_greaterThan_iff_meets_lessThan,
      Json.meets_lessThan_iff]
    simp [heldSteps, givenSteps, Int.mul_lt_mul_right positive]
  · rw [holds_iff_meets, found, Option.getD_some, Json.meets_lessThan_iff]
    simp [heldSteps, givenSteps, Int.mul_lt_mul_right positive]

/-- Integers that do not count as one are compared as they are, since rounding keeps their order. -/
theorem comparesAs_of_not_mayCoincide
    (leftWord : IsWord left)
    (rightWord : IsWord right)
    (separate : ¬ MayCoincide left right)
    (nearest : ComparesAs field values operand (nearestInteger left) (nearestInteger right)) :
    ComparesAs field values operand left right := by
  have sameIff : nearestInteger left = nearestInteger right ↔ left = right := by
    constructor
    · intro same
      by_contra apart
      exact separate (mayCoincide_of_nearestInteger_eq leftWord rightWord apart same)
    · rintro rfl
      rfl
  have keeps : left ≤ right → nearestInteger left ≤ nearestInteger right :=
    Binary64.nearestInteger_mono
  have reverses : right ≤ left → nearestInteger right ≤ nearestInteger left :=
    Binary64.nearestInteger_mono
  have lessIff : nearestInteger left < nearestInteger right ↔ left < right := by
    omega
  have greaterIff : nearestInteger right < nearestInteger left ↔ right < left := by
    omega
  exact ⟨nearest.equals.trans sameIff, nearest.greater.trans greaterIff,
    nearest.less.trans lessIff⟩

/--
Integers of 64 bits in a field and in an operand, each as such or as its text, are
compared as the numbers nearest to them.  Equal integers are equal and the order is
never reversed; and the comparisons are those of the integers themselves unless both
are of more than 53 bits, or 2^53, and at most 2048 apart.
-/
theorem integers_compare_as_nearest :
    (∀ value, ∃! rounded, IsNearest value rounded) ∧
    ∀ (field : String) (values : FieldValues) (value operand : Json)
      (left right leftNearest rightNearest : Int),
      IsWord left → IsWord right →
      values.get? field = some value → value.IsInteger left → operand.IsInteger right →
      IsNearest left leftNearest → IsNearest right rightNearest →
        ComparesAs field values operand leftNearest rightNearest ∧
        (left = right → leftNearest = rightNearest) ∧
        (leftNearest < rightNearest → left < right) ∧
        (rightNearest < leftNearest → right < left) ∧
        (¬ MayCoincide left right → ComparesAs field values operand left right) := by
  refine ⟨fun value => ⟨_, Binary64.isNearest_nearestInteger value, ?_⟩, ?_⟩
  · intro other nearest
    exact Binary64.isNearest_iff.mp nearest
  · intro field values value operand left right leftNearest rightNearest leftWord rightWord found
      held given leftIs rightIs
    obtain rfl := Binary64.isNearest_iff.mp leftIs
    obtain rfl := Binary64.isNearest_iff.mp rightIs
    have nearest := comparesAs_nearestInteger leftWord rightWord found held given
    refine ⟨nearest, congrArg nearestInteger, ?_, ?_, ?_⟩
    · intro less
      exact lt_of_not_ge fun reversed =>
        less.not_ge (Binary64.nearestInteger_mono reversed)
    · intro greater
      exact lt_of_not_ge fun reversed =>
        greater.not_ge (Binary64.nearestInteger_mono reversed)
    · intro separate
      exact comparesAs_of_not_mayCoincide leftWord rightWord separate nearest

/-- A serial number of 54 bits as it was typed in. -/
def typedSerial : FieldValues :=
  .ofFields [("serial", .string "9007199254740993")]

/-- It is less than the next odd one, and their nearest numbers are even further apart. -/
theorem integers_compare_as_nearest_serials :
    IsWord 9007199254740993 ∧ IsWord 9007199254740995 ∧
      typedSerial.get? "serial" = some (.string "9007199254740993") ∧
      (Json.string "9007199254740993").IsInteger 9007199254740993 ∧
      (Json.ofInt 9007199254740995).IsInteger 9007199254740995 ∧
      IsNearest 9007199254740993 9007199254740992 ∧
      IsNearest 9007199254740995 9007199254740996 ∧
      ComparesAs "serial" typedSerial (.ofInt 9007199254740995)
        9007199254740992 9007199254740996 ∧
      (⟨"serial", .lessThan, .ofInt 9007199254740995⟩ : Condition).holds typedSerial = true := by
  have leftWord : IsWord 9007199254740993 := by decide
  have rightWord : IsWord 9007199254740995 := by decide
  have found : typedSerial.get? "serial" = some (.string "9007199254740993") := rfl
  have held : (Json.string "9007199254740993").IsInteger 9007199254740993 := .inr rfl
  have given : (Json.ofInt 9007199254740995).IsInteger 9007199254740995 := .inl rfl
  have leftIs : IsNearest 9007199254740993 9007199254740992 :=
    ⟨by decide +kernel, by decide +kernel, by decide +kernel⟩
  have rightIs : IsNearest 9007199254740995 9007199254740996 :=
    ⟨by decide +kernel, by decide +kernel, by decide +kernel⟩
  obtain ⟨compares, -⟩ :=
    integers_compare_as_nearest.2 _ _ _ _ _ _ _ _ leftWord rightWord found held given leftIs rightIs
  exact ⟨leftWord, rightWord, found, held, given, leftIs, rightIs, compares,
    compares.less.mpr (by decide)⟩

/-- It counts as equal to the serial number before it, and as no greater. -/
theorem serials_taken_for_one :
    IsWord 9007199254740993 ∧ IsWord 9007199254740992 ∧
      typedSerial.get? "serial" = some (.string "9007199254740993") ∧
      (Json.string "9007199254740993").IsInteger 9007199254740993 ∧
      (Json.ofInt 9007199254740992).IsInteger 9007199254740992 ∧
      (⟨"serial", .equals, .ofInt 9007199254740992⟩ : Condition).holds typedSerial = true ∧
      (⟨"serial", .greaterThan, .ofInt 9007199254740992⟩ : Condition).holds typedSerial = false ∧
      ¬ ComparesAs "serial" typedSerial (.ofInt 9007199254740992)
        9007199254740993 9007199254740992 := by
  have equal :
      (⟨"serial", .equals, .ofInt 9007199254740992⟩ : Condition).holds typedSerial = true := by
    decide +kernel
  refine ⟨by decide, by decide, rfl, .inr rfl, .inl rfl, equal, by decide +kernel, ?_⟩
  intro compares
  exact absurd (compares.equals.mp equal) (by decide)

end Condition

end Fieldwork
