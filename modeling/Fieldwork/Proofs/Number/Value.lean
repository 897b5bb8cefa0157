import Mathlib.Algebra.Order.Field.Basic
import Mathlib.Algebra.Order.Ring.Rat
import Mathlib.Tactic.NormNum
import Fieldwork.Proofs.Number.Closest

namespace Fieldwork

/-!
# Decimals and the numbers that they are rounded to

A decimal and a number have an exact value.  The number that is read of a decimal is the
one whose value is closest, with the sign of the decimal also where it is zero; of two
that are equally close it is the one of an even significand.  The bounds beyond which
nothing is computed do not change this.
-/

namespace Binary64

/-- The exact value of a number. -/
def value
    (number : Binary64) :
    ℚ :=
  number.steps / stepsPerUnit

/--
Whether a number is the closest one to an exact value, and the one of an even significand
where another one is as close.  From the middle between the greatest number and the next
power of two on, there is none.
-/
structure IsClosest
    (number : Binary64)
    (exact : ℚ) :
    Prop where
  inReach : |exact| < 2 ^ 1024 - 2 ^ 970
  closest : ∀ other : Binary64, |exact - number.value| ≤ |exact - other.value|
  even :
    ∀ other : Binary64, other.value ≠ number.value →
      |exact - other.value| = |exact - number.value| → number.significand % 2 = 0

/-- A natural with a sign, as an exact value. -/
def signedValue
    (negative : Bool)
    (magnitude : ℚ) :
    ℚ :=
  if negative then -magnitude else magnitude

end Binary64

namespace Decimal

/-- The exact value of a decimal. -/
def value
    (decimal : Decimal) :
    ℚ :=
  Binary64.signedValue decimal.negative (decimal.digits * 10 ^ decimal.exponent)

/-- Whether a number is the closest one to a decimal, with the sign of the decimal. -/
structure RoundsTo
    (decimal : Decimal)
    (number : Binary64) :
    Prop where
  sameSign : number.negative = decimal.negative
  isClosest : number.IsClosest decimal.value

end Decimal

/-! ## Closest magnitudes and closest values -/

namespace Binary64

section Quotient

variable {negative : Bool} {numerator denominator : Nat} {number other : Binary64}

theorem stepsPerUnit_cast_pos :
    (0 : ℚ) < stepsPerUnit :=
  Nat.cast_pos.mpr stepsPerUnit_pos

theorem scale_pos
    (positive : 0 < denominator) :
    (0 : ℚ) < denominator * stepsPerUnit :=
  mul_pos (Nat.cast_pos.mpr positive) stepsPerUnit_cast_pos

theorem quotient_nonneg
    (count denominator : Nat) :
    (0 : ℚ) ≤ count / (denominator * stepsPerUnit) :=
  div_nonneg count.cast_nonneg (mul_nonneg denominator.cast_nonneg stepsPerUnit_cast_pos.le)

theorem value_eq
    (number : Binary64) :
    number.value = signedValue number.negative (number.magnitude / stepsPerUnit) := by
  unfold value steps signedValue
  split
  · rw [Int.cast_neg, Int.cast_natCast, neg_div]
  · rw [Int.cast_natCast]

/-- Values of two signs are as far apart as their sum, and of one sign as their difference. -/
theorem abs_signedValue_sub
    {left right : ℚ}
    (leftNonneg : 0 ≤ left)
    (rightNonneg : 0 ≤ right)
    (negative negative' : Bool) :
    |signedValue negative left - signedValue negative' right| =
      if negative' = negative then |left - right| else left + right := by
  have apart : |left + right| = left + right := abs_of_nonneg (add_nonneg leftNonneg rightNonneg)
  cases negative <;> cases negative'
  · rfl
  · simpa [signedValue] using apart
  · rw [← apart, ← abs_neg]
    simp [signedValue, add_comm]
  · rw [← abs_neg]
    simp [signedValue, add_comm, sub_eq_add_neg]

/-- The value of a quotient that counts steps. -/
def quotientValue
    (negative : Bool)
    (numerator denominator : Nat) :
    ℚ :=
  signedValue negative (numerator / (denominator * stepsPerUnit))

/-- How far a number is from a quotient, of its own sign or of the other one. -/
def apart
    (negative : Bool)
    (numerator denominator : Nat)
    (other : Binary64) :
    Nat :=
  if other.negative = negative then away numerator (other.magnitude * denominator)
  else numerator + other.magnitude * denominator

theorem abs_quotientValue_sub
    (positive : 0 < denominator)
    (other : Binary64) :
    |quotientValue negative numerator denominator - other.value| =
      apart negative numerator denominator other / (denominator * stepsPerUnit) := by
  have castPositive : (0 : ℚ) < denominator := Nat.cast_pos.mpr positive
  have common :
      (other.magnitude : ℚ) / stepsPerUnit =
        (other.magnitude * denominator : Nat) / (denominator * stepsPerUnit) := by
    rw [Nat.cast_mul, mul_comm (denominator : ℚ), mul_div_mul_right _ _ castPositive.ne']
  rw [quotientValue, value_eq, common,
    abs_signedValue_sub (quotient_nonneg _ _) (quotient_nonneg _ _), apart]
  split
  · rw [← sub_div, abs_div, abs_of_pos (scale_pos positive), away, Nat.cast_natAbs]
    push_cast
    rfl
  · rw [← add_div]
    push_cast
    rfl

theorem value_of_magnitude
    (none : number.magnitude = 0) :
    number.value = 0 := by
  rw [value_eq, none, Nat.cast_zero, zero_div, signedValue, neg_zero, ite_self]

theorem value_eq_iff
    (sameSign : other.negative = number.negative) :
    other.value = number.value ↔ other.magnitude = number.magnitude := by
  rw [value_eq, value_eq, sameSign]
  have unitNonzero := stepsPerUnit_cast_pos.ne'
  unfold signedValue
  split
  · rw [neg_inj, div_left_inj' unitNonzero, Nat.cast_inj]
  · rw [div_left_inj' unitNonzero, Nat.cast_inj]

theorem closer_iff
    (positive : 0 < denominator) :
    |quotientValue negative numerator denominator - number.value| ≤
        |quotientValue negative numerator denominator - other.value| ↔
      apart negative numerator denominator number ≤
        apart negative numerator denominator other := by
  rw [abs_quotientValue_sub positive, abs_quotientValue_sub positive,
    div_le_div_iff_of_pos_right (scale_pos positive), Nat.cast_le]

theorem asClose_iff
    (positive : 0 < denominator) :
    |quotientValue negative numerator denominator - other.value| =
        |quotientValue negative numerator denominator - number.value| ↔
      apart negative numerator denominator other =
        apart negative numerator denominator number := by
  rw [abs_quotientValue_sub positive, abs_quotientValue_sub positive,
    div_left_inj' (scale_pos positive).ne', Nat.cast_inj]

theorem apart_of_sign
    (sign : number.negative = negative) :
    apart negative numerator denominator number =
      away numerator (number.magnitude * denominator) :=
  if_pos sign

/-- A quotient is in reach of the numbers below the middle behind the greatest one. -/
theorem inReach_iff
    (positive : 0 < denominator) :
    |quotientValue negative numerator denominator| < 2 ^ 1024 - 2 ^ 970 ↔
      numerator < (2 ^ 54 - 1) * (denominator * 2 ^ 2044) := by
  have nonneg := quotient_nonneg numerator denominator
  have unsigned :
      |quotientValue negative numerator denominator| =
        numerator / (denominator * stepsPerUnit) := by
    unfold quotientValue signedValue
    split
    · rw [abs_neg, abs_of_nonneg nonneg]
    · rw [abs_of_nonneg nonneg]
  have bound :
      (2 ^ 1024 - 2 ^ 970 : ℚ) * (denominator * stepsPerUnit) =
        ((2 ^ 54 - 1) * (denominator * 2 ^ 2044) : Nat) := by
    have top : (2 : ℚ) ^ 1024 = 2 ^ 54 * 2 ^ 970 := by rw [← pow_add]
    have bits : (2 : ℚ) ^ 2044 = 2 ^ 970 * 2 ^ (1022 + 52) := by rw [← pow_add]
    have ones : ((2 ^ 54 - 1 : Nat) : ℚ) = 2 ^ 54 - 1 := by norm_num
    rw [stepsPerUnit_eq, Nat.cast_mul, Nat.cast_mul, Nat.cast_pow, Nat.cast_pow, Nat.cast_ofNat,
      ones, top, bits, ← sub_one_mul, mul_assoc, mul_left_comm (2 ^ 970)]
  rw [unsigned, div_lt_iff₀ (scale_pos positive), bound, Nat.cast_lt]

/-- A closest value has a closest magnitude, compared with the numbers of its sign. -/
theorem IsClosest.isClosestTo
    (positive : 0 < denominator)
    (sign : number.negative = negative)
    (isClosest : number.IsClosest (quotientValue negative numerator denominator)) :
    number.IsClosestTo numerator denominator where
  closest := by
    intro other
    let alike : Binary64 := { other with negative := negative }
    have alikeSign : alike.negative = negative := rfl
    have closer := isClosest.closest alike
    rwa [closer_iff positive, apart_of_sign sign, apart_of_sign alikeSign] at closer
  even := by
    intro other differs tie
    let alike : Binary64 := { other with negative := negative }
    have alikeSign : alike.negative = negative := rfl
    refine isClosest.even alike ?_ ?_
    · rwa [Ne, value_eq_iff (alikeSign.trans sign.symm)]
    · rwa [asClose_iff positive, apart_of_sign sign, apart_of_sign alikeSign]

/-- No closest magnitude is farther away than zero. -/
theorem IsClosestTo.away_le
    (isClosest : number.IsClosestTo numerator denominator) :
    away numerator (number.magnitude * denominator) ≤ numerator := by
  have beforeZero := isClosest.closest (zero false)
  have noSteps : (zero false).magnitude * denominator = 0 := by
    rw [magnitude_zero, Nat.zero_mul]
  rwa [noSteps, away_zero] at beforeZero

/-- A closest magnitude is the closest value, since zero stands before the other sign. -/
theorem IsClosestTo.isClosest
    (positive : 0 < denominator)
    (sign : number.negative = negative)
    (inReach : numerator < (2 ^ 54 - 1) * (denominator * 2 ^ 2044))
    (isClosest : number.IsClosestTo numerator denominator) :
    number.IsClosest (quotientValue negative numerator denominator) where
  inReach := (inReach_iff positive).mpr inReach
  closest := by
    intro other
    rw [closer_iff positive, apart_of_sign sign, apart]
    split
    · exact isClosest.closest other
    · exact isClosest.away_le.trans (Nat.le_add_right numerator _)
  even := by
    intro other differs tie
    rw [asClose_iff positive, apart_of_sign sign, apart] at tie
    split at tie
    · rename_i sameSign
      rw [Ne, value_eq_iff (sameSign.trans sign.symm)] at differs
      exact isClosest.even other differs tie
    · -- only a zero of the other sign is as close, and then zero is as close as well
      have noSteps : other.magnitude * denominator = 0 := by
        have atMost := isClosest.away_le
        omega
      have isZero : other.magnitude = 0 := (Nat.mul_eq_zero.mp noSteps).resolve_right positive.ne'
      refine isClosest.even other (fun same => differs ?_) ?_
      · rw [value_of_magnitude isZero, value_of_magnitude (same.symm.trans isZero)]
      · rw [← tie, noSteps, away_zero, Nat.add_zero]

end Quotient

end Binary64

/-! ## Decimals as quotients -/

namespace Decimal

variable {decimal : Decimal} {number : Binary64}

def numerator
    (decimal : Decimal) :
    Nat :=
  decimal.digits * 10 ^ decimal.exponent.toNat

def denominator
    (decimal : Decimal) :
    Nat :=
  10 ^ (-decimal.exponent).toNat

theorem denominator_pos
    (decimal : Decimal) :
    0 < decimal.denominator :=
  Nat.pow_pos (by decide)

theorem nearest?_eq
    (decimal : Decimal) :
    decimal.nearest? =
      Binary64.ofRatio? decimal.negative decimal.numerator decimal.denominator := by
  unfold nearest? numerator denominator
  split
  · rename_i whole
    rw [Int.toNat_eq_zero.mpr (by omega : -decimal.exponent ≤ 0), Nat.pow_zero]
  · rename_i fraction
    rw [Int.toNat_eq_zero.mpr (by omega : decimal.exponent ≤ 0), Nat.pow_zero, Nat.mul_one]

theorem value_eq
    (decimal : Decimal) :
    decimal.value =
      Binary64.quotientValue decimal.negative
        (decimal.numerator * Binary64.stepsPerUnit) decimal.denominator := by
  have ten : (10 : ℚ) ≠ 0 := by norm_num
  have split : decimal.exponent = decimal.exponent.toNat - (-decimal.exponent).toNat := by omega
  have power :
      (10 : ℚ) ^ decimal.exponent =
        10 ^ decimal.exponent.toNat / 10 ^ (-decimal.exponent).toNat := by
    conv_lhs => rw [split, zpow_sub₀ ten, zpow_natCast, zpow_natCast]
  rw [value, Binary64.quotientValue, power, Nat.cast_mul,
    mul_div_mul_right _ _ Binary64.stepsPerUnit_cast_pos.ne', numerator, denominator,
    mul_div_assoc', Nat.cast_mul, Nat.cast_pow, Nat.cast_pow, Nat.cast_ofNat]

/-! ## The bounds of the reader -/

/-- The first digit of a decimal stands at its point. -/
theorem digits_bounds
    (nonzero : decimal.digits ≠ 0) :
    ∃ places : Nat,
      decimal.point = places + 1 + decimal.exponent ∧
        10 ^ places ≤ decimal.digits ∧ decimal.digits < 10 ^ (places + 1) := by
  obtain ⟨places, length⟩ : ∃ places, (digitsOf decimal.digits).length = places + 1 :=
    Nat.exists_eq_add_one.mpr (List.length_pos_iff.mpr (digitsOf_ne_nil decimal.digits))
  have fits {bound : Nat} (positive : 0 < bound) :
      places + 1 ≤ bound ↔ decimal.digits < 10 ^ bound :=
    length ▸ Nat.length_toDigits_le_iff (by decide) positive
  refine ⟨places, ?_, ?_, (fits places.succ_pos).mp (Nat.le_refl _)⟩
  · rw [point, length, Int.natCast_add_one]
  · rcases Nat.eq_zero_or_pos places with rfl | positive
    · exact Nat.pos_of_ne_zero nonzero
    · by_contra short
      exact Nat.not_succ_le_self places ((fits positive).mpr (Nat.lt_of_not_le short))

theorem nearest?_eq_some_iff :
    decimal.nearest? = some number ↔ decimal.RoundsTo number := by
  have positive := decimal.denominator_pos
  rw [nearest?_eq, Binary64.ofRatio?, Binary64.ofSteps?_eq_some_iff positive]
  constructor
  · rintro ⟨sign, inReach, isClosest⟩
    exact ⟨sign, value_eq decimal ▸ isClosest.isClosest positive sign inReach⟩
  · rintro ⟨sign, isClosest⟩
    rw [value_eq] at isClosest
    exact ⟨sign, (Binary64.inReach_iff positive).mp isClosest.inReach,
      isClosest.isClosestTo positive sign⟩

theorem le_numerator
    {bound : Nat}
    (nonzero : decimal.digits ≠ 0)
    (large : bound + 1 ≤ decimal.point) :
    10 ^ bound * decimal.denominator ≤ decimal.numerator := by
  obtain ⟨places, isPoint, atLeast, -⟩ := digits_bounds nonzero
  calc
    10 ^ bound * decimal.denominator = 10 ^ (bound + (-decimal.exponent).toNat) :=
      (Nat.pow_add ..).symm
    _ ≤ 10 ^ (places + decimal.exponent.toNat) := Nat.pow_le_pow_right (by decide) (by omega)
    _ = 10 ^ places * 10 ^ decimal.exponent.toNat := Nat.pow_add ..
    _ ≤ decimal.numerator := Nat.mul_le_mul_right _ atLeast

theorem numerator_lt
    {bound : Nat}
    (nonzero : decimal.digits ≠ 0)
    (small : decimal.point ≤ -bound) :
    decimal.numerator * 10 ^ bound < decimal.denominator := by
  obtain ⟨places, isPoint, -, below⟩ := digits_bounds nonzero
  calc
    decimal.numerator * 10 ^ bound = decimal.digits * 10 ^ (decimal.exponent.toNat + bound) := by
      rw [numerator, Nat.mul_assoc, ← Nat.pow_add]
    _ < 10 ^ (places + 1) * 10 ^ (decimal.exponent.toNat + bound) :=
      Nat.mul_lt_mul_of_pos_right below (Nat.pow_pos (by decide))
    _ = 10 ^ (places + 1 + (decimal.exponent.toNat + bound)) := (Nat.pow_add ..).symm
    _ ≤ decimal.denominator := Nat.pow_le_pow_right (by decide) (by omega)

/-- A decimal whose first digit stands too high is beyond the reach of the numbers. -/
theorem nearest?_eq_none
    {bound : Nat}
    (beyond : (2 ^ 54 - 1) * 2 ^ 2044 ≤ 10 ^ bound * Binary64.stepsPerUnit)
    (nonzero : decimal.digits ≠ 0)
    (large : bound + 1 ≤ decimal.point) :
    decimal.nearest? = none := by
  have atLeast := le_numerator nonzero large
  have outOfReach :
      (2 ^ 54 - 1) * (decimal.denominator * 2 ^ 2044) ≤
        decimal.numerator * Binary64.stepsPerUnit :=
    calc
      (2 ^ 54 - 1) * (decimal.denominator * 2 ^ 2044) =
          decimal.denominator * ((2 ^ 54 - 1) * 2 ^ 2044) := Nat.mul_left_comm ..
      _ ≤ decimal.denominator * (10 ^ bound * Binary64.stepsPerUnit) :=
        Nat.mul_le_mul_left _ beyond
      _ = 10 ^ bound * decimal.denominator * Binary64.stepsPerUnit := by
        rw [Nat.mul_left_comm, Nat.mul_assoc]
      _ ≤ decimal.numerator * Binary64.stepsPerUnit := Nat.mul_le_mul_right _ atLeast
  have noNumber :=
    (Binary64.exists_ofSteps?_iff decimal.negative decimal.denominator_pos).not.mpr
      outOfReach.not_gt
  rw [nearest?_eq, Binary64.ofRatio?]
  exact Option.eq_none_iff_forall_ne_some.mpr (not_exists.mp noNumber)

/-- A decimal whose first digit stands too low is closer to zero than to any other number. -/
theorem nearest?_eq_zero
    {bound : Nat}
    (below : 2 * Binary64.stepsPerUnit ≤ 10 ^ bound)
    (nonzero : decimal.digits ≠ 0)
    (small : decimal.point ≤ -bound) :
    decimal.nearest? = some (Binary64.zero decimal.negative) := by
  have atMost := numerator_lt nonzero small
  rw [nearest?_eq, Binary64.ofRatio?]
  apply Binary64.ofSteps?_eq_zero
  calc
    2 * (decimal.numerator * Binary64.stepsPerUnit) =
        decimal.numerator * (2 * Binary64.stepsPerUnit) := Nat.mul_left_comm ..
    _ ≤ decimal.numerator * 10 ^ bound := Nat.mul_le_mul_left _ below
    _ < decimal.denominator := atMost

theorem nearest?_of_digits
    (none : decimal.digits = 0) :
    decimal.nearest? = some (Binary64.zero decimal.negative) := by
  rw [nearest?_eq, Binary64.ofRatio?, numerator, none, Nat.zero_mul, Nat.zero_mul]
  exact Binary64.ofSteps?_eq_zero decimal.denominator_pos

/-- The bounds of the reader leave the nearest number as it is. -/
theorem nearest?_eq_toBinary64?
    (decimal : Decimal) :
    decimal.nearest? = decimal.toBinary64? := by
  by_cases none : decimal.digits = 0
  · rw [nearest?_of_digits none, toBinary64?, if_pos none]
  · rw [toBinary64?_eq none]
    split
    · rename_i large
      -- 10^310 is beyond 2^1024
      exact nearest?_eq_none (by decide +kernel) none large
    · split
      · rename_i small
        -- 10^-330 is below half a step
        exact nearest?_eq_zero (by decide +kernel) none small
      · rfl

/-- The number that is read of a decimal is the one to which the decimal is rounded. -/
theorem toBinary64?_eq_some_iff :
    decimal.toBinary64? = some number ↔ decimal.RoundsTo number := by
  rw [← nearest?_eq_toBinary64?, nearest?_eq_some_iff]

end Decimal

end Fieldwork
