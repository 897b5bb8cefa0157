import Mathlib.Algebra.Order.Ring.Nat
import Fieldwork.Number.Shortest
import Fieldwork.Proofs.Digits

namespace Fieldwork

/-!
# Rounding and exact values

The number nearest to a quotient depends on the value of the quotient and not on
how it is written, and a quotient that is a number is not changed.  So the number
nearest to a decimal depends on its value alone, and the decimal that is chosen to
write a number is nearest to that number.
-/

namespace Binary64

/-- A common factor does not change a rounded quotient. -/
theorem roundQuotient_mul_right
    (numerator denominator : Nat)
    {factor : Nat}
    (positive : 0 < factor) :
    roundQuotient (numerator * factor) (denominator * factor) =
      roundQuotient numerator denominator := by
  have sameOrder :
      ∀ left right : Nat, left * factor < right * factor ↔ left < right :=
    fun _ _ => Nat.mul_lt_mul_right positive
  unfold roundQuotient
  simp only [Nat.mul_div_mul_right _ _ positive, Nat.mul_mod_mul_right, ← Nat.mul_assoc,
    sameOrder]

/-- A quotient that is a natural is not changed by rounding. -/
theorem roundQuotient_mul_self
    (quotient : Nat)
    {denominator : Nat}
    (positive : 0 < denominator) :
    roundQuotient (quotient * denominator) denominator = quotient := by
  simp [roundQuotient, positive]

/-- A common factor does not change the nearest number. -/
theorem ofSteps?_mul_right
    (negative : Bool)
    (numerator denominator : Nat)
    {factor : Nat}
    (positive : 0 < factor) :
    ofSteps? negative (numerator * factor) (denominator * factor) =
      ofSteps? negative numerator denominator := by
  have regrouped :
      ∀ unit : Nat, denominator * factor * unit = denominator * unit * factor :=
    fun unit => Nat.mul_right_comm denominator factor unit
  unfold ofSteps?
  simp only [Nat.mul_div_mul_right _ _ positive, regrouped,
    roundQuotient_mul_right _ _ positive]

theorem ofRatio?_mul_right
    (negative : Bool)
    (numerator denominator : Nat)
    {factor : Nat}
    (positive : 0 < factor) :
    ofRatio? negative (numerator * factor) (denominator * factor) =
      ofRatio? negative numerator denominator := by
  unfold ofRatio?
  rw [Nat.mul_right_comm]
  exact ofSteps?_mul_right negative _ denominator positive

/-- A magnitude has 53 bits at its scale. -/
theorem scaleFor_magnitude
    (number : Binary64) :
    scaleFor number.magnitude = number.scale := by
  obtain ⟨negative, significand, scale, small, _, full⟩ := number
  unfold scaleFor magnitude
  simp only [Nat.pow_eq] at small full ⊢
  rcases full with full | rfl
  · have positive : 0 < 2 ^ scale := Nat.two_pow_pos scale
    have nonzero : significand * 2 ^ scale ≠ 0 := Nat.mul_ne_zero (by omega) (by omega)
    have log : (significand * 2 ^ scale).log2 = 52 + scale := by
      rw [Nat.log2_eq_iff nonzero, Nat.pow_add, Nat.add_right_comm, Nat.pow_add]
      exact ⟨Nat.mul_le_mul_right _ full, Nat.mul_lt_mul_of_pos_right small positive⟩
    split
    · rename_i below
      by_contra scaled
      have even : 2 ^ 1 ≤ 2 ^ scale := Nat.pow_le_pow_right (by decide) (by omega)
      have notBelow : 2 ^ 52 * 2 ^ 1 ≤ significand * 2 ^ scale := Nat.mul_le_mul full even
      omega
    · omega
  · simp [small]

/-- A number is nearest to its own magnitude. -/
theorem ofSteps?_magnitude
    (number : Binary64)
    {denominator : Nat}
    (positive : 0 < denominator) :
    ofSteps? number.negative (number.magnitude * denominator) denominator = some number := by
  have steps : 0 < Nat.pow 2 number.scale := Nat.two_pow_pos number.scale
  have exact :
      roundQuotient (number.magnitude * denominator) (denominator * Nat.pow 2 number.scale) =
        number.significand := by
    rw [magnitude, Nat.mul_assoc, Nat.mul_comm (Nat.pow 2 number.scale)]
    exact roundQuotient_mul_self _ (Nat.mul_pos positive steps)
  have small : number.significand ≠ Nat.pow 2 53 := number.canonical.1.ne
  simp only [ofSteps?, Nat.mul_div_left _ positive, scaleFor_magnitude, exact, small, if_false,
    ofParts?, number.canonical, dite_true]

end Binary64

namespace Decimal

/-- The number nearest to a decimal, whatever its size. -/
def nearest?
    (decimal : Decimal) :
    Option Binary64 :=
  if 0 ≤ decimal.exponent then
    Binary64.ofRatio? decimal.negative (decimal.digits * 10 ^ decimal.exponent.toNat) 1
  else
    Binary64.ofRatio? decimal.negative decimal.digits (10 ^ (-decimal.exponent).toNat)

/-- The place of the first digit of a decimal, counted from the point. -/
def point
    (decimal : Decimal) :
    Int :=
  (digitsOf decimal.digits).length + decimal.exponent

theorem toBinary64?_zero
    (negative : Bool)
    (exponent : Int) :
    toBinary64? ⟨negative, 0, exponent⟩ = some (Binary64.zero negative) := by
  simp only [toBinary64?, if_true]

/-- A decimal goes to the nearest number unless it is out of reach on either side. -/
theorem toBinary64?_eq
    {decimal : Decimal}
    (nonzero : decimal.digits ≠ 0) :
    decimal.toBinary64? =
      if 311 ≤ decimal.point then none
      else if decimal.point ≤ -330 then some (Binary64.zero decimal.negative)
      else decimal.nearest? :=
  if_neg nonzero

theorem toBinary64?_eq_nearest?
    {decimal : Decimal}
    (nonzero : decimal.digits ≠ 0)
    (large : -330 < decimal.point)
    (small : decimal.point < 311) :
    decimal.toBinary64? = decimal.nearest? := by
  rw [toBinary64?_eq nonzero, if_neg small.not_ge, if_neg large.not_ge]

/-- Zeros at the end of the digits of a decimal count in its exponent. -/
theorem nearest?_mul_pow
    (negative : Bool)
    (digits zeros : Nat)
    (exponent : Int) :
    nearest? ⟨negative, digits * 10 ^ zeros, exponent⟩ =
      nearest? ⟨negative, digits, exponent + zeros⟩ := by
  have positive : ∀ power : Nat, 0 < 10 ^ power := fun _ => Nat.pow_pos (by decide)
  unfold nearest?
  by_cases whole : 0 ≤ exponent
  · have sum : (exponent + zeros).toNat = zeros + exponent.toNat := by omega
    simp only [whole, if_true]
    rw [if_pos (by omega), sum, Nat.pow_add, Nat.mul_assoc]
  · by_cases shifted : 0 ≤ exponent + zeros
    · have sum : zeros = (exponent + zeros).toNat + (-exponent).toNat := by omega
      simp only [whole, shifted, if_true, if_false]
      calc Binary64.ofRatio? negative (digits * 10 ^ zeros) (10 ^ (-exponent).toNat)
          = Binary64.ofRatio? negative
              (digits * 10 ^ (exponent + zeros).toNat * 10 ^ (-exponent).toNat)
              (1 * 10 ^ (-exponent).toNat) := by
            rw [Nat.mul_assoc, ← Nat.pow_add, ← sum, Nat.one_mul]
        _ = Binary64.ofRatio? negative (digits * 10 ^ (exponent + zeros).toNat) 1 :=
            Binary64.ofRatio?_mul_right negative _ 1 (positive _)
    · have sum : (-exponent).toNat = (-(exponent + zeros)).toNat + zeros := by omega
      simp only [whole, shifted, if_false]
      rw [sum, Nat.pow_add]
      exact Binary64.ofRatio?_mul_right negative digits _ (positive zeros)

theorem point_mul_pow
    (negative : Bool)
    {digits : Nat}
    (positive : 0 < digits)
    (zeros : Nat)
    (exponent : Int) :
    point ⟨negative, digits * 10 ^ zeros, exponent⟩ =
      point ⟨negative, digits, exponent + zeros⟩ := by
  simp only [point, digitsOf_mul_pow positive, List.length_append, List.length_replicate]
  omega

/-- The number nearest to a decimal is not changed by zeros at the end of its digits. -/
theorem toBinary64?_mul_pow
    (negative : Bool)
    (digits zeros : Nat)
    (exponent : Int) :
    toBinary64? ⟨negative, digits * 10 ^ zeros, exponent⟩ =
      toBinary64? ⟨negative, digits, exponent + zeros⟩ := by
  rcases Nat.eq_zero_or_pos digits with rfl | positive
  · rw [Nat.zero_mul, toBinary64?_zero, toBinary64?_zero]
  have nonzero : digits * 10 ^ zeros ≠ 0 :=
    (Nat.mul_pos positive (Nat.pow_pos (by decide))).ne'
  rw [toBinary64?_eq nonzero, toBinary64?_eq positive.ne', point_mul_pow negative positive,
    nearest?_mul_pow]

end Decimal

namespace Binary64

/-! ## The decimal that is chosen -/

/-- Counted in steps, a decimal with as many places as a step has is exact. -/
theorem nearest?_places
    (number : Binary64)
    {places : Nat}
    (unit : stepsPerUnit = 2 ^ places)
    (positive : 0 < places) :
    Decimal.nearest? ⟨number.negative, number.magnitude * 5 ^ places, -(places : Int)⟩ =
      some number := by
  have fraction : ¬ (0 : Int) ≤ -(places : Int) := by omega
  have whole : 5 ^ places * 2 ^ places = 10 ^ places := (Nat.mul_pow 5 2 places).symm
  simp only [Decimal.nearest?, fraction, if_false, Int.neg_neg, Int.toNat_natCast, ofRatio?, unit]
  rw [Nat.mul_assoc, whole]
  exact ofSteps?_magnitude number (Nat.pow_pos (by decide))

theorem magnitude_lt
    (number : Binary64)
    {greatest : Nat}
    (fits : number.scale ≤ greatest) :
    number.magnitude < 2 ^ (53 + greatest) := by
  rw [Nat.pow_add]
  exact Nat.mul_lt_mul_of_lt_of_le number.canonical.1 (Nat.pow_le_pow_right (by decide) fits)
    (Nat.two_pow_pos _)

/-- The expansion of a number to that many places reaches neither bound of the reader. -/
theorem toBinary64?_places
    {number : Binary64}
    (nonzero : number.magnitude ≠ 0)
    {places : Nat}
    (unit : stepsPerUnit = 2 ^ places)
    (many : 330 < places)
    (lower : 10 ^ (places - 330) ≤ 5 ^ places)
    (upper : 2 ^ (53 + 2045) * 5 ^ places ≤ 10 ^ (places + 310)) :
    Decimal.toBinary64? ⟨number.negative, number.magnitude * Nat.pow 5 places, -(places : Int)⟩ =
      some number := by
  have positive : 0 < 5 ^ places := Nat.pow_pos (by decide)
  have atLeast : 10 ^ (places - 330) ≤ number.magnitude * 5 ^ places :=
    lower.trans (Nat.le_mul_of_pos_left _ (Nat.pos_of_ne_zero nonzero))
  have below : number.magnitude * 5 ^ places < 10 ^ (places + 310) :=
    (Nat.mul_lt_mul_of_pos_right (number.magnitude_lt number.canonical.2.1) positive).trans_le
      upper
  have large : places - 330 < (digitsOf (number.magnitude * 5 ^ places)).length := by
    by_contra short
    exact atLeast.not_gt <|
      (Nat.length_toDigits_le_iff (by decide) (by omega)).mp (Nat.le_of_not_lt short)
  have small : (digitsOf (number.magnitude * 5 ^ places)).length ≤ places + 310 :=
    (Nat.length_toDigits_le_iff (by decide) (by omega)).mpr below
  rw [Nat.pow_eq, Decimal.toBinary64?_eq_nearest? (Nat.mul_ne_zero nonzero positive.ne')]
  · exact nearest?_places number unit (by omega)
  · simp only [Decimal.point]
    omega
  · simp only [Decimal.point]
    omega

/-- The exact expansion of a number is read as that number. -/
theorem toBinary64?_exactDecimal
    {number : Binary64}
    (nonzero : number.magnitude ≠ 0) :
    number.exactDecimal.toBinary64? = some number := by
  apply toBinary64?_places nonzero
  · decide +kernel
  · decide
  · decide +kernel
  · -- 2^1024 is below 10^310
    decide +kernel

/-- A decimal on the grid of a width has the sign of the number and is read as it. -/
theorem readsBack_of_onGrid?
    {number : Binary64}
    {leading : Int}
    {width : Nat}
    {decimal : Decimal}
    (found : number.onGrid? leading width = some decimal) :
    decimal.negative = number.negative ∧ number.readsBack decimal = true := by
  simp only [onGrid?] at found
  split at found
  all_goals
    refine ⟨?_, List.find?_some found⟩
    have candidate := List.mem_of_find?_eq_some found
    simp only [List.mem_cons, List.not_mem_nil, or_false] at candidate
    rcases candidate with rfl | rfl <;> rfl

/-- The decimal that is chosen for a number has its sign and is read as that number. -/
theorem toBinary64?_shortest
    {number : Binary64}
    (nonzero : number.magnitude ≠ 0) :
    number.shortest.negative = number.negative ∧ number.shortest.toBinary64? = some number := by
  simp only [shortest]
  cases found :
      (List.range 17).findSome? fun width =>
        number.onGrid? (decimalExponent number.magnitude stepsPerUnit) (width + 1) with
  | none =>
      exact ⟨rfl, toBinary64?_exactDecimal nonzero⟩
  | some decimal =>
      obtain ⟨width, -, onGrid⟩ := List.exists_of_findSome?_eq_some found
      obtain ⟨sameSign, back⟩ := readsBack_of_onGrid? onGrid
      exact ⟨sameSign, beq_iff_eq.mp back⟩

/-- A number other than zero is written with a digit other than zero. -/
theorem digits_shortest_pos
    {number : Binary64}
    (nonzero : number.magnitude ≠ 0) :
    0 < number.shortest.digits := by
  by_contra none
  have reads := (toBinary64?_shortest nonzero).2
  rw [Decimal.toBinary64?, if_pos (by omega), Option.some_inj] at reads
  exact nonzero ((congrArg magnitude reads).symm.trans (Nat.zero_mul _))

end Binary64

end Fieldwork
