import Fieldwork.Number.Decimal
import Fieldwork.Text.Blank

namespace Fieldwork

/-!
# Points in time

A timestamp is a date and a time of day in universal time, down to the
nanosecond.  A leap second is the second after the 59th of its minute, held as
a number of nanoseconds from 10^9 up.

The reader accepts RFC 3339 and is lenient about its form: numbers may have
fewer digits, blank characters may stand between the parts, and the offset may
be written without its colon.  The writer gives RFC 3339 in universal time.
-/

/-- Whether a year has a 29th of February. -/
def isLeapYear
    (year : Int) :
    Bool :=
  year % 4 == 0 && (year % 100 != 0 || year % 400 == 0)

/-- The number of days of a month. -/
def daysInMonth
    (year : Int)
    (month : Nat) :
    Nat :=
  if month = 2 then (if isLeapYear year then 29 else 28)
  else if month = 4 ∨ month = 6 ∨ month = 9 ∨ month = 11 then 30
  else 31

structure Date where
  year : Int
  month : Nat
  day : Nat
  deriving DecidableEq, Repr

namespace Date

/-- The years that dates are kept for. -/
def yearInRange
    (year : Int) :
    Bool :=
  decide (-262143 ≤ year ∧ year ≤ 262142)

/-- Whether a date exists and is kept. -/
def valid
    (date : Date) :
    Bool :=
  yearInRange date.year && decide (1 ≤ date.month ∧ date.month ≤ 12) &&
    decide (1 ≤ date.day ∧ date.day ≤ daysInMonth date.year date.month)

def next
    (date : Date) :
    Date :=
  if date.day < daysInMonth date.year date.month then
    { date with day := date.day + 1 }
  else if date.month < 12 then
    ⟨date.year, date.month + 1, 1⟩
  else
    ⟨date.year + 1, 1, 1⟩

def previous
    (date : Date) :
    Date :=
  if 1 < date.day then
    { date with day := date.day - 1 }
  else if 1 < date.month then
    ⟨date.year, date.month - 1, daysInMonth date.year (date.month - 1)⟩
  else
    ⟨date.year - 1, 12, 31⟩

/-- The date a number of days after another. -/
def after
    (days : Nat)
    (date : Date) :
    Date :=
  Nat.repeat next days date

end Date

/-- A point in time: a date, the second of its day, and nanoseconds. -/
structure Timestamp where
  date : Date
  second : Nat
  nanosecond : Nat
  deriving DecidableEq, Repr

namespace Timestamp

def secondsPerDay : Nat :=
  86400

/-- The point in time a number of seconds after the beginning of 1970. -/
def ofEpoch
    (seconds nanosecond : Nat) :
    Timestamp :=
  ⟨Date.after (seconds / secondsPerDay) ⟨1970, 1, 1⟩, seconds % secondsPerDay, nanosecond⟩

/-- A natural in decimal digits, with zeros in front up to a width. -/
def padded
    (width value : Nat) :
    List Char :=
  let digits := digitsOf value
  List.replicate (width - digits.length) '0' ++ digits

/-- The text of a year: four digits, or a sign and at least four digits. -/
def yearText
    (year : Int) :
    List Char :=
  if 0 ≤ year ∧ year ≤ 9999 then padded 4 year.natAbs
  else (if year < 0 then '-' else '+') :: padded 4 year.natAbs

/-- How the fraction of a second is written. -/
inductive Precision where
  /-- Three digits, the rest cut off. -/
  | millis
  /-- The fewest of zero, three, six and nine digits that lose nothing. -/
  | exact
  deriving DecidableEq, Repr

/-- The fraction of a second. -/
def fractionText :
    Precision →
    Nat →
    List Char
  | .millis, nanos => '.' :: padded 3 (nanos / 1000000)
  | .exact, nanos =>
      if nanos = 0 then []
      else if nanos % 1000000 = 0 then '.' :: padded 3 (nanos / 1000000)
      else if nanos % 1000 = 0 then '.' :: padded 6 (nanos / 1000)
      else '.' :: padded 9 nanos

/-- The characters of a timestamp in universal time. -/
def written
    (precision : Precision)
    (time : Timestamp) :
    List Char :=
  let leap := 1000000000 ≤ time.nanosecond
  let second := time.second % 60 + (if leap then 1 else 0)
  let nanos := time.nanosecond % 1000000000
  yearText time.date.year ++ '-' :: padded 2 time.date.month ++
    '-' :: padded 2 time.date.day ++ 'T' :: padded 2 (time.second / 3600) ++
    ':' :: padded 2 (time.second / 60 % 60) ++ ':' :: padded 2 second ++
    fractionText precision nanos ++ ['Z']

/-- The text of a timestamp in universal time. -/
def render
    (precision : Precision)
    (time : Timestamp) :
    String :=
  String.ofList (time.written precision)

/-- One to `width` digits at the front as a natural, and what follows. -/
def readNumber
    (width : Nat)
    (text : List Char) :
    Option (Nat × List Char) :=
  let digits := (text.take width).takeWhile isDigit
  if digits = [] then none
  else some (naturalOf digits, text.drop digits.length)

/-- A number after optional blanks. -/
def readSpacedNumber
    (width : Nat)
    (text : List Char) :
    Option (Nat × List Char) :=
  readNumber width (Text.trimFront text)

/-- A given mark after optional blanks, and what follows. -/
def readMark
    (mark : Char)
    (text : List Char) :
    Option (List Char) :=
  match Text.trimFront text with
  | c :: rest => if c = mark then some rest else none
  | [] => none

/--
A year: up to four digits, or a sign and any number of digits.
-/
def readYear
    (text : List Char) :
    Option (Int × List Char) :=
  match Text.trimFront text with
  | '-' :: rest =>
      (readNumber rest.length rest).map fun (year, rest) => (0 - (year : Int), rest)
  | '+' :: rest =>
      (readNumber rest.length rest).map fun (year, rest) => ((year : Int), rest)
  | text =>
      (readNumber 4 text).map fun (year, rest) => ((year : Int), rest)

/-- The value of fraction digits in nanoseconds; nine digits count. -/
def fractionValue
    (digits : List Char) :
    Nat :=
  let counted := digits.take 9
  naturalOf counted * Nat.pow 10 (9 - counted.length)

/-- An optional fraction, and what follows. -/
def readFraction
    (text : List Char) :
    Option (Nat × List Char) :=
  match text with
  | '.' :: rest =>
      let digits := rest.takeWhile isDigit
      if digits = [] then none
      else some (fractionValue digits, rest.dropWhile isDigit)
  | _ => some (0, text)

/-- Whether a character separates the hours and minutes of an offset. -/
def isOffsetSeparator
    (c : Char) :
    Bool :=
  c == ':' || Text.isBlankChar c

/-- Two digits at the front as a natural, and what follows. -/
def readPair :
    List Char →
    Option (Nat × List Char)
  | a :: b :: rest =>
      match digitValue? a, digitValue? b with
      | some a, some b => some (a * 10 + b, rest)
      | _, _ => none
  | _ => none

/-- Hours and minutes of an offset, in seconds. -/
def readOffsetSize
    (text : List Char) :
    Option (Nat × List Char) :=
  (readPair text).bind fun (hours, afterHours) =>
    (readPair (afterHours.dropWhile isOffsetSeparator)).bind
      fun (minutes, rest) =>
        if minutes < 60 then some (hours * 3600 + minutes * 60, rest) else none

/--
An offset from universal time in seconds, and what follows: a zulu letter, the
letters `UTC`, or a sign with hours and minutes.
-/
def readOffset
    (text : List Char) :
    Option (Int × List Char) :=
  if (text.take 3).map Char.toLower = ['u', 't', 'c'] then
    some (0, text.drop 3)
  else
    match text with
    | c :: rest =>
        if c = 'Z' ∨ c = 'z' then
          some (0, rest)
        else if c = '+' then
          (readOffsetSize rest).map fun (size, rest) => ((size : Int), rest)
        else if c = '-' ∨ c = Char.ofNat 0x2212 then
          (readOffsetSize rest).map fun (size, rest) => (0 - (size : Int), rest)
        else
          none
    | [] => none

/--
A local time moved to universal time.  An offset is less than a day, so the
date moves by one day at most.
-/
def toUniversal
    (date : Date)
    (second : Nat)
    (offset : Int) :
    Date × Nat :=
  let moved := (second : Int) - offset
  if moved < 0 then
    (date.previous, (moved + secondsPerDay).toNat)
  else if moved < secondsPerDay then
    (date, moved.toNat)
  else
    (date.next, (moved - secondsPerDay).toNat)

/-- The timestamp of a local date and time with an offset, if it exists. -/
def ofLocal?
    (date : Date)
    (hour minute second nanosecond : Nat)
    (offset : Int) :
    Option Timestamp :=
  if date.valid ∧ hour < 24 ∧ minute < 60 ∧ second ≤ 60 ∧
      -(secondsPerDay : Int) < offset ∧ offset < secondsPerDay then
    let leap := second = 60
    let ofDay := hour * 3600 + minute * 60 + (if leap then 59 else second)
    let (date, ofDay) := toUniversal date ofDay offset
    if date.valid then
      some ⟨date, ofDay, if leap then nanosecond + 1000000000 else nanosecond⟩
    else
      none
  else
    none

/-- Whether a character separates a date from a time. -/
def isTimeSeparator
    (c : Char) :
    Bool :=
  c == 'T' || c == 't' || c == ' '

/-- A date at the front of a text, and what follows. -/
def readDate
    (text : List Char) :
    Option (Date × List Char) :=
  (readYear text).bind fun (year, text) =>
    (readMark '-' text).bind fun text =>
      (readSpacedNumber 2 text).bind fun (month, text) =>
        (readMark '-' text).bind fun text =>
          (readSpacedNumber 2 text).map fun (day, text) =>
            (⟨year, month, day⟩, text)

/-- Hour, minute, second and nanosecond at the front, and what follows. -/
def readTime
    (text : List Char) :
    Option ((Nat × Nat × Nat × Nat) × List Char) :=
  (readSpacedNumber 2 text).bind fun (hour, text) =>
    (readMark ':' text).bind fun text =>
      (readSpacedNumber 2 text).bind fun (minute, text) =>
        (readMark ':' text).bind fun text =>
          (readSpacedNumber 2 text).bind fun (second, text) =>
            (readFraction text).map fun (nanosecond, text) =>
              ((hour, minute, second, nanosecond), text)

def readChars
    (text : List Char) :
    Option Timestamp :=
  (readDate text).bind fun (date, text) =>
    match text with
    | c :: text =>
        if isTimeSeparator c then
          (readTime text).bind fun ((hour, minute, second, nanosecond), text) =>
            (readOffset (Text.trimFront text)).bind fun (offset, text) =>
              if Text.trimFront text = [] then
                ofLocal? date hour minute second nanosecond offset
              else
                none
        else
          none
    | [] => none

def read
    (text : String) :
    Option Timestamp :=
  readChars text.toList

end Timestamp

end Fieldwork
