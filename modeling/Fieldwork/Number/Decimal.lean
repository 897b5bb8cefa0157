import Fieldwork.Number.Binary64

namespace Fieldwork

/-!
# Decimal texts of numbers

A decimal is `digits · 10^exponent` with a sign.  The readers here accept the
plain notations that people type into a field: an optional sign, digits with
an optional point on either side of them, and an optional exponent for reals;
an optional sign and digits for integers.  A real is rounded once, from its
exact value, to the nearest binary64 number.
-/

/-- A signed decimal: `digits · 10^exponent`. -/
structure Decimal where
  negative : Bool
  digits : Nat
  exponent : Int
  deriving DecidableEq, Repr

def digitValue?
    (c : Char) :
    Option Nat :=
  if '0' ≤ c ∧ c ≤ '9' then some (c.toNat - '0'.toNat) else none

/-- Whether a character is one of the ten digits. -/
def isDigit
    (c : Char) :
    Bool :=
  '0' ≤ c && c ≤ '9'

/-- The natural that a run of digits writes; other characters count as zero. -/
def naturalOf
    (digits : List Char) :
    Nat :=
  digits.foldl (fun value c => value * 10 + (digitValue? c).getD 0) 0

/-- The digits of a natural, at least one. -/
def digitsOf
    (value : Nat) :
    List Char :=
  Nat.toDigits 10 value

/-- The text of an integer: digits after a minus sign where it is negative. -/
def integerText
    (value : Int) :
    String :=
  String.ofList
    (if value < 0 then '-' :: digitsOf value.natAbs else digitsOf value.natAbs)

/-- A text with its sign taken off, and whether that sign was a minus. -/
def splitSign :
    List Char →
    Bool × List Char
  | '-' :: rest => (true, rest)
  | '+' :: rest => (false, rest)
  | text => (false, text)

namespace Decimal

/--
The number nearest to a decimal, and `none` beyond the finite ones.  A decimal
whose first digit stands at or above 10^310 is too large and one that lies
below 10^-330 is nearer to zero than to any other number, so neither power is
ever computed.
-/
def toBinary64?
    (decimal : Decimal) :
    Option Binary64 :=
  if decimal.digits = 0 then
    some (Binary64.zero decimal.negative)
  else
    let size : Int := (digitsOf decimal.digits).length
    if 311 ≤ size + decimal.exponent then
      none
    else if size + decimal.exponent ≤ -330 then
      some (Binary64.zero decimal.negative)
    else if 0 ≤ decimal.exponent then
      Binary64.ofRatio? decimal.negative
        (decimal.digits * Nat.pow 10 decimal.exponent.toNat) 1
    else
      Binary64.ofRatio? decimal.negative
        decimal.digits (Nat.pow 10 (-decimal.exponent).toNat)

/--
An exponent part: nothing, or the letter `e` in either case, a sign or none,
and digits up to the end of the text.
-/
def readExponent :
    List Char →
    Option Int
  | [] =>
      some 0
  | letter :: rest =>
      if letter = 'e' ∨ letter = 'E' then
        let (negative, digits) := splitSign rest
        if digits ≠ [] ∧ digits.all isDigit then
          some (if negative then -(naturalOf digits : Int) else naturalOf digits)
        else
          none
      else
        none

/--
A decimal text: a sign or none, digits with at most one point before, between
or after them, and an exponent part.
-/
def read
    (text : List Char) :
    Option Decimal :=
  let (negative, unsigned) := splitSign text
  let whole := unsigned.takeWhile isDigit
  let afterWhole := unsigned.dropWhile isDigit
  let (fraction, afterFraction) :=
    match afterWhole with
    | '.' :: rest => (rest.takeWhile isDigit, rest.dropWhile isDigit)
    | rest => ([], rest)
  if whole ++ fraction = [] then
    none
  else
    (readExponent afterFraction).map fun exponent =>
      ⟨negative, naturalOf (whole ++ fraction), exponent - fraction.length⟩

end Decimal

/--
The finite binary64 number that a text writes.  The words for infinity and for
not-a-number write none, and neither does a decimal beyond the finite range.
-/
def readReal
    (text : List Char) :
    Option Binary64 :=
  (Decimal.read text).bind Decimal.toBinary64?

/-- Why a text is not an integer of a given range. -/
inductive IntegerFault where
  | empty
  | invalidDigit
  | tooLarge
  | tooSmall
  deriving DecidableEq, Repr

namespace IntegerFault

def message :
    IntegerFault →
    String
  | empty => "cannot parse integer from empty string"
  | invalidDigit => "invalid digit found in string"
  | tooLarge => "number too large to fit in target type"
  | tooSmall => "number too small to fit in target type"

end IntegerFault

/--
The digits of an unsigned text as an integer, negated on request, which has to
lie between the bounds.  The first offending place decides: a character that is
no digit before the value leaves the range, or the range before such a
character.
-/
def readDigits
    (negative : Bool)
    (least greatest : Int) :
    (value : Int) →
    List Char →
    Except IntegerFault Int
  | value, [] =>
      .ok value
  | value, c :: rest =>
      match digitValue? c with
      | none =>
          .error .invalidDigit
      | some digit =>
          let next := if negative then value * 10 - digit else value * 10 + digit
          if next < least then .error .tooSmall
          else if greatest < next then .error .tooLarge
          else readDigits negative least greatest next rest

/--
An integer between two bounds: a plus sign or, where negative values exist, a
minus sign, then one digit or more.  A sign alone is an invalid digit.
-/
def readInteger
    (least greatest : Int)
    (text : List Char) :
    Except IntegerFault Int :=
  match text with
  | [] => .error .empty
  | '+' :: [] => .error .invalidDigit
  | '-' :: [] => .error .invalidDigit
  | '+' :: rest => readDigits false least greatest 0 rest
  | '-' :: rest =>
      if least < 0 then readDigits true least greatest 0 rest
      else .error .invalidDigit
  | digits => readDigits false least greatest 0 digits

end Fieldwork
