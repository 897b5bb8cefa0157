import Mathlib.Algebra.Order.Ring.Int
import Mathlib.Algebra.Ring.Divisibility.Basic
import Fieldwork.Proofs.Number.Rounding

namespace Fieldwork.Binary64

/-!
# Integers and the numbers nearest to them

A number has 53 bits, so around a longer integer the numbers stand a power of two
apart.  The number nearest to an integer is a multiple of this gap, at most half of it
away, and an even multiple where it is half of it away.  There is one such multiple;
taking it never reverses the order of two integers, but it may take two for one.
-/

/-! ## Rounded quotients -/

section Quotient

variable {numerator more denominator quotient : Nat}

/-- A rounded quotient is off by half at most, and is even where it is off by half. -/
theorem roundQuotient_nearest
    (numerator : Nat)
    (positive : 0 < denominator) :
    let rounded := roundQuotient numerator denominator
    let away := 2 * ((numerator : Int) - (rounded * denominator : Nat)).natAbs
    away ≤ denominator ∧ (away = denominator → rounded % 2 = 0) := by
  have whole : numerator / denominator * denominator + numerator % denominator = numerator :=
    Nat.div_add_mod' numerator denominator
  have rest : numerator % denominator < denominator := Nat.mod_lt _ positive
  unfold roundQuotient
  generalize numerator / denominator = quotient at whole ⊢
  generalize numerator % denominator = remainder at whole rest ⊢
  have next : (quotient + 1) * denominator = quotient * denominator + denominator :=
    Nat.succ_mul quotient denominator
  dsimp only
  split
  · omega
  · split
    · omega
    · rcases Nat.mod_two_eq_zero_or_one quotient with even | odd
      · rw [even, Nat.add_zero]
        omega
      · rw [odd]
        omega

theorem roundQuotient_mono
    (positive : 0 < denominator)
    (ordered : numerator ≤ more) :
    roundQuotient numerator denominator ≤ roundQuotient more denominator := by
  by_contra reversed
  have apart :
      (roundQuotient more denominator + 1) * denominator ≤
        roundQuotient numerator denominator * denominator :=
    Nat.mul_le_mul_right _ (Nat.lt_of_not_le reversed)
  have near := (roundQuotient_nearest numerator positive).1
  have nearMore := (roundQuotient_nearest more positive).1
  rw [Nat.succ_mul] at apart
  -- both lie half a denominator from the middle, so they are the same
  have same : numerator = more := by
    omega
  exact reversed (same ▸ Nat.le_refl _)

theorem le_roundQuotient
    (positive : 0 < denominator)
    (atLeast : quotient * denominator ≤ numerator) :
    quotient ≤ roundQuotient numerator denominator := by
  rw [← roundQuotient_mul_self quotient positive]
  exact roundQuotient_mono positive atLeast

theorem roundQuotient_le
    (positive : 0 < denominator)
    (atMost : numerator ≤ quotient * denominator) :
    roundQuotient numerator denominator ≤ quotient := by
  rw [← roundQuotient_mul_self quotient positive]
  exact roundQuotient_mono positive atMost

end Quotient

/-! ## The number nearest to a natural -/

section Natural

variable {value more : Nat}

/-- How far apart the numbers stand around a natural; those of 53 bits are numbers themselves. -/
def gap
    (value : Nat) :
    Nat :=
  2 ^ (value.log2 - 52)

def nearestNatural
    (value : Nat) :
    Nat :=
  roundQuotient value (gap value) * gap value

theorem gap_pos
    (value : Nat) :
    0 < gap value :=
  Nat.two_pow_pos _

theorem gap_of_log2_le
    (few : value.log2 ≤ 52) :
    gap value = 1 := by
  rw [gap, Nat.sub_eq_zero_of_le few, Nat.pow_zero]

theorem nearestNatural_of_log2_le
    (few : value.log2 ≤ 52) :
    nearestNatural value = value := by
  have exact := roundQuotient_mul_self value Nat.one_pos
  rw [Nat.mul_one] at exact
  rw [nearestNatural, gap_of_log2_le few, exact, Nat.mul_one]

theorem nearestNatural_of_lt
    (small : value < 2 ^ 53) :
    nearestNatural value = value := by
  rcases Nat.eq_zero_or_pos value with rfl | positive
  · rfl
  · exact nearestNatural_of_log2_le <|
      Nat.le_of_lt_succ ((Nat.log2_lt positive.ne').mpr small)

/-- A power of two at least as long as a natural is a multiple of the gap there. -/
theorem exists_mul_gap_eq
    {bits : Nat}
    (long : value.log2 ≤ bits) :
    ∃ multiple, multiple * gap value = 2 ^ bits := by
  refine ⟨2 ^ (bits - (value.log2 - 52)), ?_⟩
  rw [gap, ← Nat.pow_add]
  congr 1
  omega

theorem nearestNatural_le_two_pow
    {bits : Nat}
    (below : value < 2 ^ bits) :
    nearestNatural value ≤ 2 ^ bits := by
  have long : value.log2 ≤ bits := by
    rcases Nat.eq_zero_or_pos value with rfl | positive
    · exact Nat.zero_le _
    · exact ((Nat.log2_lt positive.ne').mpr below).le
  obtain ⟨multiple, isPower⟩ := exists_mul_gap_eq long
  rw [← isPower] at below ⊢
  exact Nat.mul_le_mul_right _ (roundQuotient_le (gap_pos value) below.le)

theorem two_pow_log2_le_nearestNatural
    (positive : 0 < value) :
    2 ^ value.log2 ≤ nearestNatural value := by
  obtain ⟨multiple, isPower⟩ := exists_mul_gap_eq (Nat.le_refl value.log2)
  have atLeast : multiple * gap value ≤ value := isPower ▸ Nat.log2_self_le positive.ne'
  rw [← isPower]
  exact Nat.mul_le_mul_right _ (le_roundQuotient (gap_pos value) atLeast)

/-- Naturals of one length have one gap; of two lengths, a power of two stands between them. -/
theorem nearestNatural_mono
    (ordered : value ≤ more) :
    nearestNatural value ≤ nearestNatural more := by
  rcases Nat.eq_zero_or_pos value with rfl | positive
  · exact Nat.zero_le _
  have morePositive : 0 < more := positive.trans_le ordered
  have lengths : value.log2 ≤ more.log2 :=
    (Nat.le_log2 morePositive.ne').mpr ((Nat.log2_self_le positive.ne').trans ordered)
  rcases lengths.eq_or_lt with same | shorter
  · have sameGap : gap value = gap more := by rw [gap, gap, same]
    rw [nearestNatural, nearestNatural, sameGap]
    exact Nat.mul_le_mul_right _ (roundQuotient_mono (gap_pos more) ordered)
  · have below : value < 2 ^ more.log2 := (Nat.log2_lt positive.ne').mp shorter
    exact (nearestNatural_le_two_pow below).trans (two_pow_log2_le_nearestNatural morePositive)

/-- The parts that rounding gives are those of a number, also where all 53 bits carry over. -/
theorem exists_ofParts?
    (negative : Bool)
    {significand scale : Nat}
    (full : 2 ^ 52 ≤ significand)
    (small : significand ≤ 2 ^ 53)
    (inReach : scale < 2045) :
    ∃ number,
      (if significand = Nat.pow 2 53 then ofParts? negative (Nat.pow 2 52) (scale + 1)
        else ofParts? negative significand scale) = some number ∧
      number.negative = negative ∧ number.magnitude = significand * 2 ^ scale := by
  by_cases carried : significand = Nat.pow 2 53
  · have canonical : Canonical (Nat.pow 2 52) (scale + 1) :=
      ⟨by decide, inReach, .inl (Nat.le_refl _)⟩
    refine ⟨⟨negative, _, _, canonical⟩, ?_, rfl, ?_⟩
    · rw [if_pos carried, ofParts?, dif_pos canonical]
    · have carry : 2 ^ 52 * 2 ^ (scale + 1) = 2 ^ 53 * 2 ^ scale := by
        rw [← Nat.pow_add, ← Nat.pow_add, Nat.add_left_comm, Nat.add_comm scale]
      rw [carried]
      exact carry
  · have canonical : Canonical significand scale :=
      ⟨lt_of_le_of_ne small carried, inReach.le, .inl full⟩
    refine ⟨⟨negative, _, _, canonical⟩, ?_, rfl, rfl⟩
    rw [if_neg carried, ofParts?, dif_pos canonical]

section Places

variable (places : Nat)

/-- In a unit of that many places and 52, a natural has 53 bits at the scale of its length. -/
theorem scaleFor_natural
    (positive : 0 < value)
    (many : 0 < places) :
    scaleFor (value * 2 ^ (places + 52)) = value.log2 + places := by
  have log : (value * 2 ^ (places + 52)).log2 = value.log2 + (places + 52) := by
    rw [Nat.log2_eq_iff (Nat.mul_pos positive (Nat.two_pow_pos _)).ne', Nat.pow_add 2 value.log2,
      Nat.add_right_comm, Nat.pow_add 2 (value.log2 + 1)]
    exact ⟨Nat.mul_le_mul_right _ (Nat.log2_self_le positive.ne'),
      Nat.mul_lt_mul_of_pos_right Nat.lt_log2_self (Nat.two_pow_pos _)⟩
  have large : ¬ value * 2 ^ (places + 52) < Nat.pow 2 53 := by
    have more : 2 ^ 53 ≤ 2 ^ (places + 52) := Nat.pow_le_pow_right (by decide) (by omega)
    exact (more.trans (Nat.le_mul_of_pos_left _ positive)).not_gt
  rw [scaleFor, if_neg large, log]
  omega

/-- At this scale a natural is rounded to 53 bits, which come to a multiple of its gap. -/
theorem roundQuotient_natural
    (positive : 0 < value) :
    let unit := 2 ^ (value.log2 + places)
    let significand := roundQuotient (value * 2 ^ (places + 52)) unit
    2 ^ 52 ≤ significand ∧ significand ≤ 2 ^ 53 ∧
      significand * unit = nearestNatural value * 2 ^ (places + 52) := by
  intro unit significand
  have unitPositive : 0 < unit := Nat.two_pow_pos _
  have shifted : ∀ bits, 2 ^ bits * unit = 2 ^ (bits + (value.log2 + places)) :=
    fun bits => (Nat.pow_add 2 bits _).symm
  refine ⟨le_roundQuotient unitPositive ?_, roundQuotient_le unitPositive ?_, ?_⟩
  · have split : 52 + (value.log2 + places) = value.log2 + (places + 52) := by omega
    rw [shifted, split, Nat.pow_add 2 value.log2]
    exact Nat.mul_le_mul_right _ (Nat.log2_self_le positive.ne')
  · have split : 53 + (value.log2 + places) = value.log2 + 1 + (places + 52) := by omega
    rw [shifted, split, Nat.pow_add 2 (value.log2 + 1)]
    exact Nat.mul_le_mul_right _ Nat.lt_log2_self.le
  · rcases Nat.le_total value.log2 52 with few | many
    · -- a short natural is a whole number of units
      have whole : value * 2 ^ (places + 52) = value * 2 ^ (52 - value.log2) * unit := by
        have split : 52 - value.log2 + (value.log2 + places) = places + 52 := by omega
        rw [Nat.mul_assoc, shifted, split]
      have exact : significand = value * 2 ^ (52 - value.log2) := by
        simp only [significand, whole, roundQuotient_mul_self _ unitPositive]
      rw [exact, ← whole, nearestNatural_of_log2_le few]
    · have split : unit = gap value * 2 ^ (places + 52) := by
        have sum : value.log2 + places = value.log2 - 52 + (places + 52) := by omega
        rw [gap, ← Nat.pow_add, ← sum]
      have exact : significand = roundQuotient value (gap value) := by
        simp only [significand, split, roundQuotient_mul_right _ _ (Nat.two_pow_pos _)]
      rw [exact, split, ← Nat.mul_assoc, nearestNatural]

/-- So the number nearest to a natural counts its nearest multiple of the gap. -/
theorem exists_ofSteps?_natural
    (negative : Bool)
    (positive : 0 < value)
    (many : 0 < places)
    (inReach : value.log2 + places < 2045) :
    ∃ number,
      ofSteps? negative (value * 2 ^ (places + 52)) 1 = some number ∧
        number.negative = negative ∧
        number.magnitude = nearestNatural value * 2 ^ (places + 52) := by
  obtain ⟨full, few, exact⟩ := roundQuotient_natural places positive
  obtain ⟨number, isNumber, sameSign, magnitude⟩ := exists_ofParts? negative full few inReach
  refine ⟨number, ?_, sameSign, magnitude.trans exact⟩
  rw [ofSteps?, Nat.div_one, scaleFor_natural places positive many, Nat.one_mul]
  exact isNumber

end Places

theorem stepsPerUnit_eq :
    stepsPerUnit = 2 ^ (1022 + 52) := by
  decide +kernel

theorem stepsPerUnit_pos :
    0 < stepsPerUnit := by
  decide +kernel

/-- A natural of 64 bits has a nearest number. -/
theorem exists_ofRatio?_natural
    (negative : Bool)
    (small : value < 2 ^ 64) :
    ∃ number,
      ofRatio? negative value 1 = some number ∧
        number.negative = negative ∧ number.magnitude = nearestNatural value * stepsPerUnit := by
  rcases Nat.eq_zero_or_pos value with rfl | positive
  · refine ⟨zero negative, ?_, rfl, ?_⟩
    · simp only [ofRatio?, Nat.zero_mul]
      rfl
    · rw [nearestNatural_of_lt (by decide), Nat.zero_mul]
      rfl
  · have short : value.log2 < 64 := (Nat.log2_lt positive.ne').mpr small
    rw [ofRatio?, stepsPerUnit_eq]
    exact exists_ofSteps?_natural 1022 negative positive (by decide) (by omega)

end Natural

/-! ## The number nearest to an integer -/

section Integer

variable {value more rounded other : Int}

/--
Whether an integer is the number nearest to another one: a multiple of the gap there,
at most half a gap away, and an even multiple where it is half a gap away.
-/
structure IsNearest
    (value rounded : Int) :
    Prop where
  onGrid :
    (gap value.natAbs : Int) ∣ rounded
  close :
    2 * (value - rounded).natAbs ≤ gap value.natAbs
  even :
    2 * (value - rounded).natAbs = gap value.natAbs → 2 * (gap value.natAbs : Int) ∣ rounded

def nearestInteger
    (value : Int) :
    Int :=
  if value < 0 then -nearestNatural value.natAbs else nearestNatural value.natAbs

theorem isNearest_nearestInteger
    (value : Int) :
    IsNearest value (nearestInteger value) := by
  obtain ⟨close, even⟩ := roundQuotient_nearest value.natAbs (gap_pos value.natAbs)
  have away :
      (value - nearestInteger value).natAbs =
        ((value.natAbs : Int) - (nearestNatural value.natAbs : Nat)).natAbs := by
    unfold nearestInteger
    split <;> omega
  have multiple :
      ∀ {factor : Nat}, factor ∣ nearestNatural value.natAbs →
        (factor : Int) ∣ nearestInteger value := by
    intro factor divides
    unfold nearestInteger
    split
    · exact (Int.natCast_dvd_natCast.mpr divides).neg_right
    · exact Int.natCast_dvd_natCast.mpr divides
  refine ⟨multiple (Nat.dvd_mul_left _ _), away ▸ close, fun half => ?_⟩
  have isEven := Nat.dvd_of_mod_eq_zero (even (away ▸ half))
  exact multiple (Nat.mul_dvd_mul_right isEven (gap value.natAbs))

/-- There is one nearest number: two would be a gap apart, and both even multiples of it. -/
theorem IsNearest.unique
    (left : IsNearest value rounded)
    (right : IsNearest value other) :
    rounded = other := by
  have positive : 0 < gap value.natAbs := gap_pos _
  have leftClose := left.close
  have rightClose := right.close
  apply Int.eq_of_sub_eq_zero
  by_cases half :
      2 * (value - rounded).natAbs = gap value.natAbs ∧
        2 * (value - other).natAbs = gap value.natAbs
  · refine Int.eq_zero_of_dvd_of_natAbs_lt_natAbs
      (Int.dvd_sub (left.even half.1) (right.even half.2)) ?_
    omega
  · refine Int.eq_zero_of_dvd_of_natAbs_lt_natAbs (Int.dvd_sub left.onGrid right.onGrid) ?_
    omega

theorem isNearest_iff :
    IsNearest value rounded ↔ rounded = nearestInteger value := by
  constructor
  · intro nearest
    exact nearest.unique (isNearest_nearestInteger value)
  · rintro rfl
    exact isNearest_nearestInteger value

theorem nearestInteger_mono
    (ordered : value ≤ more) :
    nearestInteger value ≤ nearestInteger more := by
  unfold nearestInteger
  split
  · split
    · have larger : nearestNatural more.natAbs ≤ nearestNatural value.natAbs :=
        nearestNatural_mono (by omega)
      omega
    · omega
  · rw [if_neg (by omega)]
    exact Int.ofNat_le.mpr (nearestNatural_mono (by omega))

theorem natAbs_nearestInteger
    (value : Int) :
    (nearestInteger value).natAbs = nearestNatural value.natAbs := by
  unfold nearestInteger
  split <;> omega

theorem nearestInteger_of_lt
    (small : value.natAbs < 2 ^ 53) :
    nearestInteger value = value := by
  rw [nearestInteger, nearestNatural_of_lt small]
  split <;> omega

/-- An integer that fits a word of 64 bits is read as the number nearest to it. -/
theorem exists_ofInt?
    (small : value.natAbs < 2 ^ 64) :
    ∃ number,
      ofInt? value = some number ∧ number.steps = nearestInteger value * stepsPerUnit := by
  obtain ⟨number, isNumber, sign, magnitude⟩ :=
    exists_ofRatio?_natural (decide (value < 0)) small
  refine ⟨number, isNumber, ?_⟩
  rw [steps, sign, magnitude, nearestInteger]
  generalize stepsPerUnit = unit
  by_cases negative : value < 0
  · simp [negative]
  · simp [negative]

/-- Of an integer of 53 bits and another one, the nearest numbers are different. -/
theorem two_pow_le_of_nearestInteger_eq
    (apart : value ≠ more)
    (same : nearestInteger value = nearestInteger more) :
    2 ^ 53 ≤ value.natAbs := by
  by_contra long
  have exact := nearestInteger_of_lt (Nat.lt_of_not_le long)
  rcases Nat.lt_or_ge more.natAbs (2 ^ 53) with small | large
  · rw [exact, nearestInteger_of_lt small] at same
    exact apart same
  · have onPower : nearestNatural (2 ^ 53) = 2 ^ 53 := by decide
    have larger := nearestNatural_mono large
    rw [← natAbs_nearestInteger, ← same, exact, onPower] at larger
    exact long larger

/-- Two integers of 64 bits with one nearest number lie within two halves of the widest gap. -/
theorem natAbs_sub_le_of_nearestInteger_eq
    (small : value.natAbs < 2 ^ 64)
    (moreSmall : more.natAbs < 2 ^ 64)
    (same : nearestInteger value = nearestInteger more) :
    (value - more).natAbs ≤ 2048 := by
  have widest : ∀ {value : Nat}, value < 2 ^ 64 → gap value ≤ 2 ^ 11 := by
    intro value small
    refine Nat.pow_le_pow_right (by decide) ?_
    rcases Nat.eq_zero_or_pos value with rfl | positive
    · decide
    · have short := (Nat.log2_lt positive.ne').mpr small
      omega
  have close := (isNearest_nearestInteger value).close
  have moreClose := (isNearest_nearestInteger more).close
  have gapSmall := widest small
  have moreGapSmall := widest moreSmall
  rw [← same] at moreClose
  omega

end Integer

end Fieldwork.Binary64
