import Fieldwork.Proofs.Number.Nearest
import Fieldwork.Proofs.Sameness

namespace Fieldwork

/-!
# The number closest to a quotient

The magnitudes of numbers are the multiples of a power of two around a quotient, and some
below them.  So rounding a quotient to such a multiple gives the number that is closest to
it, and of two that are equally close the one of an even significand.  No number is given
from the middle between the greatest one and the next power of two.
-/

namespace Binary64

/-! ## Multiples of a unit -/

/-- How far a natural is away from another one. -/
def away
    (target reached : Nat) :
    Nat :=
  ((target : Int) - reached).natAbs

theorem away_zero
    (target : Nat) :
    away target 0 = target :=
  rfl

/-- Any other multiple is farther than the rounded one, or as far and then odd. -/
theorem away_roundQuotient
    {numerator unit multiple : Nat}
    (positive : 0 < unit)
    (other : multiple ≠ roundQuotient numerator unit) :
    away numerator (roundQuotient numerator unit * unit) < away numerator (multiple * unit) ∨
      (away numerator (multiple * unit) =
          away numerator (roundQuotient numerator unit * unit) ∧
        roundQuotient numerator unit % 2 = 0 ∧ multiple % 2 = 1) := by
  obtain ⟨near, tie⟩ := roundQuotient_nearest numerator positive
  generalize roundQuotient numerator unit = rounded at near tie other ⊢
  -- two multiples are neighbours, or more than one unit apart
  have apart :
      ∀ lower upper : Nat, lower < upper →
        (upper = lower + 1 ∧ upper * unit = lower * unit + unit) ∨
          lower * unit + 2 * unit ≤ upper * unit := by
    intro lower upper below
    rcases Nat.eq_or_lt_of_le (Nat.succ_le_of_lt below) with next | beyond
    · exact .inl ⟨next.symm, by rw [← next, Nat.succ_mul]⟩
    · have far := Nat.mul_le_mul_right unit (Nat.succ_le_of_lt beyond)
      rw [Nat.succ_mul, Nat.succ_mul] at far
      exact .inr (by omega)
  unfold away at *
  rcases Nat.lt_or_gt_of_ne other with below | above
  · rcases apart _ _ below with ⟨next, oneUnit⟩ | far <;> omega
  · rcases apart _ _ above with ⟨next, oneUnit⟩ | far <;> omega

/-! ## The unit around a quotient -/

theorem magnitude_zero
    (negative : Bool) :
    (zero negative).magnitude = 0 :=
  Nat.zero_mul _

/-- At its scale a natural has 53 bits at most, and all of them unless the scale is least. -/
theorem scaleFor_bounds
    (floor : Nat) :
    floor < 2 ^ 53 * 2 ^ scaleFor floor ∧
      (scaleFor floor = 0 ∨ 2 ^ 52 * 2 ^ scaleFor floor ≤ floor) := by
  unfold scaleFor
  rw [Nat.pow_eq]
  split
  · rename_i small
    exact ⟨by simpa using small, .inl rfl⟩
  · rename_i large
    have nonzero : floor ≠ 0 := by omega
    have long : 53 ≤ floor.log2 := (Nat.le_log2 nonzero).mpr (Nat.le_of_not_lt large)
    have above : 53 + (floor.log2 - 52) = floor.log2 + 1 := by omega
    have below : 52 + (floor.log2 - 52) = floor.log2 := by omega
    rw [← Nat.pow_add, ← Nat.pow_add, above, below]
    exact ⟨Nat.lt_log2_self, .inr (Nat.log2_self_le nonzero)⟩

/-- A magnitude is a multiple of a power of two, or has less than 53 bits there. -/
theorem magnitude_grid
    (number : Binary64)
    (scale : Nat) :
    number.magnitude = number.significand * 2 ^ (number.scale - scale) * 2 ^ scale ∨
      (0 < scale ∧ number.magnitude < 2 ^ 52 * 2 ^ scale) := by
  rcases Nat.lt_or_ge number.scale scale with finer | coarser
  · refine .inr ⟨by omega, ?_⟩
    calc
      number.magnitude < 2 ^ (53 + number.scale) := number.magnitude_lt (Nat.le_refl _)
      _ ≤ 2 ^ (52 + scale) := Nat.pow_le_pow_right (by decide) (by omega)
      _ = 2 ^ 52 * 2 ^ scale := Nat.pow_add ..
  · refine .inl ?_
    rw [Nat.mul_assoc, ← Nat.pow_add, Nat.sub_add_cancel coarser]
    rfl

section Quotient

variable {numerator denominator : Nat} {negative : Bool} {number other : Binary64}

/-- What counts as one in the significand of a number around a quotient. -/
def unitOf
    (numerator denominator : Nat) :
    Nat :=
  denominator * 2 ^ scaleFor (numerator / denominator)

/-- The significand of a quotient, which may take one bit more than a number has. -/
def rounded
    (numerator denominator : Nat) :
    Nat :=
  roundQuotient numerator (unitOf numerator denominator)

theorem unitOf_pos
    (positive : 0 < denominator) :
    0 < unitOf numerator denominator :=
  Nat.mul_pos positive (Nat.two_pow_pos _)

theorem mul_unitOf
    (numerator denominator multiple : Nat) :
    multiple * unitOf numerator denominator =
      multiple * 2 ^ scaleFor (numerator / denominator) * denominator := by
  rw [unitOf, Nat.mul_comm denominator, Nat.mul_assoc]

theorem lt_unitOf
    (numerator : Nat)
    (positive : 0 < denominator) :
    numerator < 2 ^ 53 * unitOf numerator denominator := by
  rw [mul_unitOf, ← Nat.div_lt_iff_lt_mul positive]
  exact (scaleFor_bounds _).1

theorem unitOf_le
    (numerator : Nat)
    (positive : 0 < denominator) :
    scaleFor (numerator / denominator) = 0 ∨
      2 ^ 52 * unitOf numerator denominator ≤ numerator := by
  rw [mul_unitOf, ← Nat.le_div_iff_mul_le positive]
  exact (scaleFor_bounds _).2

theorem rounded_le
    (numerator : Nat)
    (positive : 0 < denominator) :
    rounded numerator denominator ≤ 2 ^ 53 :=
  roundQuotient_le (unitOf_pos positive) (lt_unitOf numerator positive).le

theorem le_rounded
    (numerator : Nat)
    (positive : 0 < denominator) :
    scaleFor (numerator / denominator) = 0 ∨ 2 ^ 52 ≤ rounded numerator denominator :=
  (unitOf_le numerator positive).imp_right (le_roundQuotient (unitOf_pos positive))

/-- Any other magnitude is farther than the rounded one, or as far and then odd. -/
theorem away_rounded
    (positive : 0 < denominator)
    (differs :
      other.magnitude ≠
        rounded numerator denominator * 2 ^ scaleFor (numerator / denominator)) :
    away numerator (rounded numerator denominator * unitOf numerator denominator) <
        away numerator (other.magnitude * denominator) ∨
      (away numerator (other.magnitude * denominator) =
          away numerator (rounded numerator denominator * unitOf numerator denominator) ∧
        rounded numerator denominator % 2 = 0 ∧ other.significand % 2 = 1) := by
  have unitPositive : 0 < unitOf numerator denominator := unitOf_pos positive
  rcases other.magnitude_grid (scaleFor (numerator / denominator)) with onGrid | ⟨scaled, below⟩
  · rw [onGrid] at differs
    rw [onGrid, ← mul_unitOf]
    refine (away_roundQuotient unitPositive (fun same => differs (by rw [same]; rfl))).imp_right ?_
    rintro ⟨tie, even, odd⟩
    refine ⟨tie, even, ?_⟩
    by_contra evenSignificand
    rw [Nat.mul_mod, Nat.mod_two_ne_one.mp evenSignificand, Nat.zero_mul, Nat.zero_mod] at odd
    cases odd
  · -- off the grid a magnitude is below the multiple of 52 bits, which is no closer
    have large := (unitOf_le numerator positive).resolve_left scaled.ne'
    have lower : other.magnitude * denominator < 2 ^ 52 * unitOf numerator denominator := by
      rw [mul_unitOf]
      exact Nat.mul_lt_mul_of_pos_right below positive
    have closer :
        away numerator (rounded numerator denominator * unitOf numerator denominator) ≤
          away numerator (2 ^ 52 * unitOf numerator denominator) := by
      by_cases same : 2 ^ 52 = rounded numerator denominator
      · rw [← same]
      · rcases away_roundQuotient unitPositive same with farther | ⟨tie, -⟩
        · exact farther.le
        · exact tie.symm.le
    refine .inl (closer.trans_lt ?_)
    unfold away
    omega

/-! ## The parts of the number -/

theorem ofSteps?_eq
    (negative : Bool)
    (numerator denominator : Nat) :
    ofSteps? negative numerator denominator =
      if rounded numerator denominator = 2 ^ 53 then
        ofParts? negative (2 ^ 52) (scaleFor (numerator / denominator) + 1)
      else
        ofParts? negative (rounded numerator denominator)
          (scaleFor (numerator / denominator)) :=
  rfl

theorem ofParts?_eq_some_iff
    {significand scale : Nat} :
    ofParts? negative significand scale = some number ↔
      number.negative = negative ∧ number.significand = significand ∧ number.scale = scale := by
  unfold ofParts?
  constructor
  · intro found
    split at found
    · cases found
      exact ⟨rfl, rfl, rfl⟩
    · cases found
  · rintro ⟨rfl, rfl, rfl⟩
    exact dif_pos number.canonical

/-- The number of a quotient has its sign, the rounded magnitude and an even significand with it. -/
theorem of_ofSteps?
    (found : ofSteps? negative numerator denominator = some number) :
    number.negative = negative ∧
      number.magnitude =
        rounded numerator denominator * 2 ^ scaleFor (numerator / denominator) ∧
      (rounded numerator denominator % 2 = 0 → number.significand % 2 = 0) := by
  rw [ofSteps?_eq] at found
  split at found
  · rename_i carried
    obtain ⟨sign, significand, scale⟩ := ofParts?_eq_some_iff.mp found
    refine ⟨sign, ?_, fun _ => by rw [significand]; decide⟩
    have bits (scale : Nat) : 52 + (scale + 1) = 53 + scale := by omega
    rw [magnitude, significand, scale, carried, Nat.pow_eq, ← Nat.pow_add, ← Nat.pow_add, bits]
  · obtain ⟨sign, significand, scale⟩ := ofParts?_eq_some_iff.mp found
    exact ⟨sign, by rw [magnitude, significand, scale]; rfl, fun even => significand ▸ even⟩

/-- A quotient below one half is rounded to zero. -/
theorem ofSteps?_eq_zero
    (small : 2 * numerator < denominator) :
    ofSteps? negative numerator denominator = some (zero negative) := by
  have noFloor : numerator / denominator = 0 := Nat.div_eq_of_lt (by omega)
  have remainder : numerator % denominator = numerator := Nat.mod_eq_of_lt (by omega)
  have nothing : rounded numerator denominator = 0 := by
    rw [rounded, unitOf, noFloor]
    simp [scaleFor, roundQuotient, noFloor, remainder, small]
  rw [ofSteps?_eq, nothing, noFloor]
  rfl

/-! ## Reach -/

/-- Parts that rounding gives are those of a number where their scale is in reach. -/
theorem exists_ofParts?_iff
    (negative : Bool)
    {significand scale : Nat}
    (small : significand < 2 ^ 53)
    (full : scale = 0 ∨ 2 ^ 52 ≤ significand) :
    (∃ number, ofParts? negative significand scale = some number) ↔ scale ≤ 2045 := by
  constructor
  · rintro ⟨number, found⟩
    obtain ⟨-, -, rfl⟩ := ofParts?_eq_some_iff.mp found
    exact number.canonical.2.1
  · intro inReach
    exact ⟨⟨negative, significand, scale, small, inReach, full.symm⟩,
      ofParts?_eq_some_iff.mpr ⟨rfl, rfl, rfl⟩⟩

/-- At the greatest scale, a quotient has one bit too much from the last half of the unit on. -/
theorem rounded_eq_two_pow_iff
    (numerator : Nat)
    (positive : 0 < denominator) :
    rounded numerator denominator = 2 ^ 53 ↔
      (2 ^ 54 - 1) * unitOf numerator denominator ≤ 2 * numerator := by
  have unitPositive : 0 < unitOf numerator denominator := unitOf_pos positive
  have few := rounded_le numerator positive
  obtain ⟨near, tie⟩ := roundQuotient_nearest numerator unitPositive
  rw [← rounded] at near tie
  generalize rounded numerator denominator = significand at near tie few ⊢
  generalize unitOf numerator denominator = unit at unitPositive near tie ⊢
  constructor
  · rintro rfl
    omega
  · intro large
    by_contra less
    rcases Nat.lt_or_ge significand (2 ^ 53 - 1) with farBelow | next
    · have below := Nat.mul_le_mul_right unit (Nat.succ_le_of_lt farBelow)
      rw [Nat.succ_mul] at below
      omega
    · obtain rfl : significand = 2 ^ 53 - 1 := by omega
      omega

/-- A quotient has a number below the middle between the greatest and the next power of two. -/
theorem exists_ofSteps?_iff
    (negative : Bool)
    (positive : 0 < denominator) :
    (∃ number, ofSteps? negative numerator denominator = some number) ↔
      numerator < (2 ^ 54 - 1) * (denominator * 2 ^ 2044) := by
  have above := lt_unitOf numerator positive
  have below := unitOf_le numerator positive
  have carries := rounded_eq_two_pow_iff numerator positive
  have few := rounded_le numerator positive
  have full := le_rounded numerator positive
  rw [ofSteps?_eq]
  unfold unitOf at above below carries
  generalize scaleFor (numerator / denominator) = scale at above below carries full ⊢
  generalize rounded numerator denominator = significand at carries few full ⊢
  have inReach :
      (∃ number,
          (if significand = 2 ^ 53 then ofParts? negative (2 ^ 52) (scale + 1)
            else ofParts? negative significand scale) = some number) ↔
        scale ≤ 2045 ∧ ¬ (scale = 2045 ∧ significand = 2 ^ 53) := by
    split
    · rw [exists_ofParts?_iff negative (by decide) (.inr (Nat.le_refl _))]
      omega
    · rw [exists_ofParts?_iff negative (by omega) full]
      omega
  have shifted (bits more : Nat) :
      denominator * 2 ^ (bits + more) = denominator * 2 ^ bits * 2 ^ more := by
    rw [Nat.pow_add, Nat.mul_assoc]
  have grows {fewer more : Nat} (ordered : fewer ≤ more) :
      denominator * 2 ^ fewer ≤ denominator * 2 ^ more :=
    Nat.mul_le_mul_left _ (Nat.pow_le_pow_right (by decide) ordered)
  rw [inReach]
  rcases Nat.lt_trichotomy scale (2044 + 1) with less | same | more
  · have small := grows (Nat.le_of_lt_succ less)
    omega
  · rw [same, shifted] at carries
    omega
  · have large := grows (Nat.succ_le_of_lt more)
    rw [Nat.succ_eq_add_one, Nat.add_assoc, shifted] at large
    omega

/-! ## The closest number -/

/--
Whether no magnitude is closer to a quotient than that of a number, whose significand is
even where another one is as close.
-/
structure IsClosestTo
    (number : Binary64)
    (numerator denominator : Nat) :
    Prop where
  closest :
    ∀ other : Binary64,
      away numerator (number.magnitude * denominator) ≤
        away numerator (other.magnitude * denominator)
  even :
    ∀ other : Binary64, other.magnitude ≠ number.magnitude →
      away numerator (other.magnitude * denominator) =
          away numerator (number.magnitude * denominator) →
        number.significand % 2 = 0

theorem isClosestTo_of_ofSteps?
    (positive : 0 < denominator)
    (found : ofSteps? negative numerator denominator = some number) :
    number.IsClosestTo numerator denominator := by
  obtain ⟨-, magnitude, even⟩ := of_ofSteps? found
  constructor
  · intro other
    by_cases same : other.magnitude = number.magnitude
    · rw [same]
    · rw [magnitude] at same
      rw [magnitude, ← mul_unitOf]
      rcases away_rounded positive same with closer | ⟨tie, -⟩
      · exact closer.le
      · exact tie.symm.le
  · intro other differs tie
    rw [magnitude] at differs
    rw [magnitude, ← mul_unitOf] at tie
    rcases away_rounded positive differs with closer | ⟨-, evenRounded, -⟩
    · exact absurd tie closer.ne'
    · exact even evenRounded

/-- Of two closest numbers, one would have an odd significand, so their magnitudes are equal. -/
theorem IsClosestTo.magnitude_eq
    (positive : 0 < denominator)
    (isClosest : other.IsClosestTo numerator denominator)
    (found : ofSteps? negative numerator denominator = some number) :
    other.magnitude = number.magnitude := by
  obtain ⟨-, magnitude, -⟩ := of_ofSteps? found
  by_contra differs
  have noCloser := isClosest.closest number
  have even := isClosest.even number (Ne.symm differs)
  rw [magnitude] at differs
  rw [magnitude, ← mul_unitOf] at noCloser even
  rcases away_rounded positive differs with closer | ⟨tie, -, odd⟩
  · exact closer.not_ge noCloser
  · rw [even tie.symm] at odd
    cases odd

theorem eq_of_magnitude_eq
    (sameSign : number.negative = other.negative)
    (sameMagnitude : number.magnitude = other.magnitude) :
    number = other := by
  obtain ⟨significand, scale⟩ := number.canonical.unique other.canonical sameMagnitude
  cases number
  cases other
  simp_all

/-- The number that is found for a quotient is the closest one, where one is in reach. -/
theorem ofSteps?_eq_some_iff
    (positive : 0 < denominator) :
    ofSteps? negative numerator denominator = some number ↔
      number.negative = negative ∧
        numerator < (2 ^ 54 - 1) * (denominator * 2 ^ 2044) ∧
        number.IsClosestTo numerator denominator := by
  constructor
  · intro found
    exact ⟨(of_ofSteps? found).1, (exists_ofSteps?_iff negative positive).mp ⟨number, found⟩,
      isClosestTo_of_ofSteps? positive found⟩
  · rintro ⟨sign, inReach, isClosest⟩
    obtain ⟨found, isFound⟩ := (exists_ofSteps?_iff negative positive).mpr inReach
    have sameSign : number.negative = found.negative := sign.trans (of_ofSteps? isFound).1.symm
    rwa [eq_of_magnitude_eq sameSign (isClosest.magnitude_eq positive isFound)]

end Quotient

end Binary64

end Fieldwork
