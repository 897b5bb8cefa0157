import Fieldwork.Number.Decimal

namespace Fieldwork

/-!
# The fewest digits that read back

A number is written with the fewest decimal digits from which the reader gets
the same number, and among those with the digits nearest to its exact value.
For one digit, two digits and so on the two neighbours of the exact value on
the decimal grid of that width are tried; the first grid on which one of them
reads back decides.  The exact decimal expansion closes the search, so a text
always exists.

How digits are laid out is the business of a format, which a `RealLayout`
describes.
-/

/-- How the digits of a real number are laid out. -/
structure RealLayout where
  /-- Whether a number with this scientific exponent is written without one. -/
  positional : Int → Bool
  /-- What follows the digits of a number written as an integer. -/
  wholeMark : List Char

namespace Binary64

/--
The greatest power of ten that a quotient reaches, for a quotient above zero.
Below one, the reciprocal is counted instead.
-/
def decimalExponent
    (numerator denominator : Nat) :
    Int :=
  if denominator ≤ numerator then
    ((digitsOf (numerator / denominator)).length : Int) - 1
  else
    let atLeast := (denominator + numerator - 1) / numerator
    0 - ((digitsOf (atLeast - 1)).length : Int)

/-- The floor of a quotient divided by a power of ten. -/
def gridFloor
    (numerator denominator : Nat)
    (exponent : Int) :
    Nat :=
  if 0 ≤ exponent then
    numerator / (denominator * Nat.pow 10 exponent.toNat)
  else
    numerator * Nat.pow 10 (-exponent).toNat / denominator

/--
Whether the upper of two neighbours on a decimal grid is the one to write: the
nearer to the exact value, and of two equally near the even one.
-/
def upperNearer
    (numerator denominator lower : Nat)
    (exponent : Int) :
    Bool :=
  let (exact, unit) :=
    if 0 ≤ exponent then
      (numerator, denominator * Nat.pow 10 exponent.toNat)
    else
      (numerator * Nat.pow 10 (-exponent).toNat, denominator)
  let below := exact - lower * unit
  if 2 * below = unit then lower % 2 == 1 else decide (unit < 2 * below)

/-- The decimal with this number's sign and the given parts. -/
def decimalOf
    (number : Binary64)
    (digits : Nat)
    (exponent : Int) :
    Decimal :=
  ⟨number.negative, digits, exponent⟩

/-- Whether a decimal is read as this number. -/
def readsBack
    (number : Binary64)
    (decimal : Decimal) :
    Bool :=
  decimal.toBinary64? == some number

/--
The decimal to write among the neighbours of the exact value on the grid of a
given width, if one of them reads back.
-/
def onGrid?
    (number : Binary64)
    (leading : Int)
    (width : Nat) :
    Option Decimal :=
  let exponent := leading - (width - 1 : Nat)
  let lower := gridFloor number.magnitude stepsPerUnit exponent
  let lesser := number.decimalOf lower exponent
  let greater := number.decimalOf (lower + 1) exponent
  if upperNearer number.magnitude stepsPerUnit lower exponent then
    [greater, lesser].find? number.readsBack
  else
    [lesser, greater].find? number.readsBack

/-- The exact decimal expansion of a number. -/
def exactDecimal
    (number : Binary64) :
    Decimal :=
  number.decimalOf (number.magnitude * Nat.pow 5 1074) (-1074)

/-- The decimal with the fewest digits that reads back. -/
def shortest
    (number : Binary64) :
    Decimal :=
  let leading := decimalExponent number.magnitude stepsPerUnit
  ((List.range 17).findSome? fun width =>
    number.onGrid? leading (width + 1)).getD number.exactDecimal

/-- A run of digits without the zeros at its end. -/
def withoutFinalZeros
    (digits : List Char) :
    List Char :=
  (digits.reverse.dropWhile (· = '0')).reverse

/--
Digits without an exponent.  The point stands after `point` digits, and zeros
fill up the places that the digits leave open.
-/
def layPositional
    (layout : RealLayout)
    (digits : List Char)
    (point : Int) :
    List Char :=
  if point ≤ 0 then
    '0' :: '.' :: (List.replicate (-point).toNat '0' ++ digits)
  else
    let whole := point.toNat
    if digits.length ≤ whole then
      digits ++ List.replicate (whole - digits.length) '0' ++ layout.wholeMark
    else
      digits.take whole ++ '.' :: digits.drop whole

/--
Digits with an exponent: one digit, a point before further ones, the letter
`e` and the exponent with its sign.
-/
def layScientific
    (digits : List Char)
    (exponent : Int) :
    List Char :=
  let fraction := digits.drop 1
  let sign := if exponent < 0 then '-' else '+'
  digits.take 1 ++ (if fraction = [] then [] else '.' :: fraction) ++
    'e' :: sign :: digitsOf exponent.natAbs

/-- The text of a number in a layout. -/
def text
    (layout : RealLayout)
    (number : Binary64) :
    List Char :=
  let unsigned :=
    if number.magnitude = 0 then
      '0' :: layout.wholeMark
    else
      let decimal := number.shortest
      let allDigits := digitsOf decimal.digits
      let digits := withoutFinalZeros allDigits
      let point := (allDigits.length : Int) + decimal.exponent
      if layout.positional (point - 1) then
        layPositional layout digits point
      else
        layScientific digits (point - 1)
  if number.negative then '-' :: unsigned else unsigned

/--
A number without a fraction, rounded to the nearest integer, a tie going to
the even one.  The sign of a negative number stays, also where zero is left.
-/
def wholeText
    (number : Binary64) :
    String :=
  let digits := digitsOf (roundQuotient number.magnitude stepsPerUnit)
  String.ofList (if number.negative then '-' :: digits else digits)

/-- Numbers inside messages: never an exponent, and integers without a point. -/
def messageLayout : RealLayout :=
  ⟨fun _ => true, []⟩

/-- The text of a number inside a message. -/
def messageText
    (number : Binary64) :
    String :=
  String.ofList (number.text messageLayout)

end Binary64

end Fieldwork
