import Fieldwork.Number.Shortest
import Fieldwork.Number.Width

namespace Fieldwork.Json

/-!
# Numbers of a JSON document

A number written without fraction and exponent is an integer when it fits a
word of 64 bits, signed or unsigned; every other number is a real.

The reader of reals collects the significand in an unsigned word of 64 bits.
Integer digits from the first one that no longer fits only count powers of
ten; fraction digits from the first one that no longer fits are dropped.  The
significand is then rounded once to a real and once more when it is multiplied
or divided by the power of ten.  Reals of up to 15 digits and small exponents
are therefore read exactly rounded, longer ones to within the last place.
-/

/-- A number: an integer of 64 bits, signed or unsigned, or a finite real. -/
inductive Number where
  | integer (value : Int) (inRange : leastInt64 ≤ value ∧ value ≤ greatestNat64)
  | real (value : Binary64)
  deriving DecidableEq, Repr

/-- The parts of a number as written. -/
structure Literal where
  negative : Bool
  whole : List Char
  fraction : Option (List Char)
  exponent : Option (Bool × List Char)
  deriving DecidableEq, Repr

namespace Number

/-- An integer as a number, if it fits. -/
def ofInt?
    (value : Int) :
    Option Number :=
  if inRange : leastInt64 ≤ value ∧ value ≤ greatestNat64 then
    some (.integer value inRange)
  else
    none

/-- The numbers beyond 64 bits are no integers of a document. -/
example : ofInt? (greatestNat64 + 1) = none := by decide

/-- The real number nearest to a number. -/
def real? :
    Number →
    Option Binary64
  | .integer value _ => Binary64.ofInt? value
  | .real value => some value

/--
Sameness of numbers: two integers with the same value, or two reals with the
same value, so that the zeros of both signs are the same.  An integer and a
real never are.
-/
def same :
    Number →
    Number →
    Bool
  | .integer left _, .integer right _ => left == right
  | .real left, .real right => left.same right
  | _, _ => false

/--
Reals inside a document: positional from 10^-5 up to 10^16, with an exponent
elsewhere, and never without a point or an exponent.
-/
def layout : RealLayout :=
  ⟨fun exponent => decide (-5 ≤ exponent ∧ exponent < 16), ['.', '0']⟩

def text :
    Number →
    List Char
  | .integer value _ => (integerText value).toList
  | .real value => value.text layout

end Number

namespace Literal

/-- The greatest significand that is collected. -/
def greatestSignificand : Nat :=
  greatestNat64

/--
Append digits to a significand while it fits; the digits that are left over
are returned beside it.
-/
def collect :
    (significand : Nat) →
    List Char →
    Nat × List Char
  | significand, [] =>
      (significand, [])
  | significand, c :: rest =>
      let next := significand * 10 + (digitValue? c).getD 0
      if next ≤ greatestSignificand then
        collect next rest
      else
        (significand, c :: rest)

/-- The powers of ten that a single rounding step can apply. -/
def greatestPower : Nat :=
  308

/-- Ten to a power of at most 308, rounded to a real. -/
def powerOfTen?
    (power : Nat) :
    Option Binary64 :=
  Binary64.ofRatio? false (Nat.pow 10 power) 1

/--
A real divided by a power of ten.  Powers beyond 308 are applied 308 at a time
until nothing is left of the number.
-/
def divideByPower
    (number : Binary64)
    (power : Nat) :
    Option Binary64 :=
  if power ≤ greatestPower then
    (powerOfTen? power).bind number.div?
  else if number.magnitude = 0 then
    some number
  else
    ((powerOfTen? greatestPower).bind number.div?).bind fun quotient =>
      divideByPower quotient (power - greatestPower)
termination_by power
decreasing_by
  have atLeast : 308 < power := by simpa [greatestPower] using ‹¬power ≤ greatestPower›
  simp only [greatestPower]
  omega

/-- A collected significand times a power of ten, with the sign left out. -/
def scaled
    (significand : Nat)
    (exponent : Int) :
    Option Binary64 :=
  (Binary64.ofRatio? false significand 1).bind fun number =>
    if exponent < 0 then
      divideByPower number exponent.natAbs
    else if exponent.natAbs ≤ greatestPower then
      (powerOfTen? exponent.natAbs).bind number.mul?
    else if number.magnitude = 0 then
      some number
    else
      none

/--
The exponent part as an integer that moves a starting exponent, or what an
exponent beyond 31 bits does: nothing but zero survives it when it is positive,
and nothing at all when it is negative.
-/
inductive Shift where
  | by (exponent : Int)
  | vanish
  | overflow
  deriving DecidableEq, Repr

/-- The greatest exponent that is taken as a number. -/
def greatestExponent : Nat :=
  greatestInt32.toNat

/-- What an exponent part does to a significand. -/
def shift
    (significand : Nat) :
    Option (Bool × List Char) →
    Shift
  | none =>
      .by 0
  | some (negative, digits) =>
      if naturalOf digits ≤ greatestExponent then
        .by (if negative then 0 - (naturalOf digits : Int) else naturalOf digits)
      else if significand ≠ 0 ∧ ¬ negative then
        .overflow
      else
        .vanish

/-- The real that a literal writes, rounded as described above. -/
def real?
    (literal : Literal) :
    Option Binary64 :=
  let (wholeSignificand, droppedWhole) := collect 0 literal.whole
  let fraction := literal.fraction.getD []
  let (significand, droppedFraction) := collect wholeSignificand fraction
  let exponent : Int :=
    (droppedWhole.length : Int) - (fraction.length - droppedFraction.length : Nat)
  let unsigned :=
    match shift significand literal.exponent with
    | .by shifted => scaled significand (exponent + shifted)
    | .vanish => some (Binary64.zero false)
    | .overflow => none
  unsigned.map fun number =>
    if literal.negative then number.negate else number

/--
The number that a literal writes: an integer where it is written as one and
fits, a real elsewhere.  Minus zero is a real, since no integer keeps its sign.
A literal beyond the finite reals writes none.
-/
def value?
    (literal : Literal) :
    Option Number :=
  match literal.fraction, literal.exponent with
  | none, none =>
      let magnitude := naturalOf literal.whole
      let value : Int :=
        if literal.negative then 0 - (magnitude : Int) else magnitude
      if literal.negative ∧ magnitude = 0 then
        some (.real (Binary64.zero true))
      else
        (Number.ofInt? value).or (literal.real?.map .real)
  | _, _ =>
      literal.real?.map .real

end Literal

end Fieldwork.Json
