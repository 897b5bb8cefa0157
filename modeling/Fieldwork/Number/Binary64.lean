namespace Fieldwork

/-!
# Finite binary64 numbers

A finite binary64 number is held as exact data: a sign and a magnitude that
counts *steps*, the distance 2^-1074 between zero and the least positive
number.  Comparison is then comparison of integers, and every arithmetic
operation is one exact quotient of naturals rounded to the nearest number,
a tie going to the even neighbour.  Infinities and NaN are not values here: an
operation whose result is not finite has no result.
-/

/--
The shape of a canonical magnitude `significand · 2^scale`: 53 bits at most,
and all 53 in use unless the scale is the least one.
-/
def Binary64.Canonical
    (significand scale : Nat) :
    Prop :=
  significand < Nat.pow 2 53 ∧ scale ≤ 2045 ∧
    (Nat.pow 2 52 ≤ significand ∨ scale = 0)

instance
    (significand scale : Nat) :
    Decidable (Binary64.Canonical significand scale) :=
  inferInstanceAs (Decidable (_ ∧ _ ∧ _))

/-- A finite binary64 number of magnitude `significand · 2^scale` steps. -/
structure Binary64 where
  negative : Bool
  significand : Nat
  scale : Nat
  canonical : Binary64.Canonical significand scale
  deriving DecidableEq, Repr

namespace Binary64

/-- The number zero, with either sign. -/
def zero
    (negative : Bool) :
    Binary64 :=
  ⟨negative, 0, 0, by decide⟩

instance : Inhabited Binary64 :=
  ⟨zero false⟩

/-- The magnitude of a number in steps of 2^-1074. -/
def magnitude
    (number : Binary64) :
    Nat :=
  number.significand * Nat.pow 2 number.scale

/-- The exact value of a number in steps of 2^-1074. -/
def steps
    (number : Binary64) :
    Int :=
  if number.negative then -(number.magnitude : Int) else number.magnitude

/-- How many steps make one. -/
def stepsPerUnit : Nat :=
  Nat.pow 2 1074

/-- The number with the opposite sign, also for zero. -/
def negate
    (number : Binary64) :
    Binary64 :=
  { number with negative := !number.negative }

/-- The number with the given parts, if they are canonical. -/
def ofParts?
    (negative : Bool)
    (significand scale : Nat) :
    Option Binary64 :=
  if canonical : Canonical significand scale then
    some ⟨negative, significand, scale, canonical⟩
  else
    none

/--
The quotient of two naturals rounded to the nearest natural, a tie going to
the even one.
-/
def roundQuotient
    (numerator denominator : Nat) :
    Nat :=
  let quotient := numerator / denominator
  let remainder := numerator % denominator
  if 2 * remainder < denominator then quotient
  else if denominator < 2 * remainder then quotient + 1
  else quotient + quotient % 2

/-- The scale at which a magnitude of about `floor` steps has 53 bits. -/
def scaleFor
    (floor : Nat) :
    Nat :=
  if floor < Nat.pow 2 53 then 0 else Nat.log2 floor - 52

/--
The number nearest to a quotient that counts steps, a tie going to the even
significand; `none` when the quotient is beyond the greatest finite number.
-/
def ofSteps?
    (negative : Bool)
    (numerator denominator : Nat) :
    Option Binary64 :=
  let scale := scaleFor (numerator / denominator)
  let significand := roundQuotient numerator (denominator * Nat.pow 2 scale)
  if significand = Nat.pow 2 53 then
    ofParts? negative (Nat.pow 2 52) (scale + 1)
  else
    ofParts? negative significand scale

/-- The number nearest to a quotient of naturals. -/
def ofRatio?
    (negative : Bool)
    (numerator denominator : Nat) :
    Option Binary64 :=
  ofSteps? negative (numerator * stepsPerUnit) denominator

/-- The number nearest to an integer. -/
def ofInt?
    (value : Int) :
    Option Binary64 :=
  ofRatio? (decide (value < 0)) value.natAbs 1

/-- The number nearest to the product of two numbers. -/
def mul?
    (left right : Binary64) :
    Option Binary64 :=
  ofSteps? (left.negative != right.negative)
    (left.magnitude * right.magnitude) stepsPerUnit

/-- The number nearest to the quotient of two numbers. -/
def div?
    (left right : Binary64) :
    Option Binary64 :=
  if right.magnitude = 0 then
    none
  else
    ofRatio? (left.negative != right.negative) left.magnitude right.magnitude

/-- Numerical equality: the two zeros are equal. -/
def same
    (left right : Binary64) :
    Bool :=
  left.steps == right.steps

/-- Numerical order. -/
def below
    (left right : Binary64) :
    Bool :=
  decide (left.steps < right.steps)

/-- A number above zero is one step or more, and a natural one is many. -/
example : (ofInt? 1).map steps = some (2 ^ 1074) := by decide +kernel

/-- Integers of more than 53 bits go to the nearest even significand. -/
example : ofInt? (2 ^ 53 + 1) = ofInt? (2 ^ 53) := by decide +kernel

/-- The tie above the greatest finite number has no result. -/
example : ofInt? (2 ^ 1024 - 2 ^ 970) = none := by decide +kernel

end Binary64

end Fieldwork
