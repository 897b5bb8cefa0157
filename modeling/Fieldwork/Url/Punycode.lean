import Fieldwork.Text.Blank

namespace Fieldwork.Url

/-!
# Labels beyond ASCII

A label of a host that holds characters beyond ASCII is written with ASCII
characters alone: the ASCII characters first, then, for the others in ascending
order, how far each of them is from the one before, counted over all places
where a character could be inserted.
-/

/-- The digit of a value below thirty-six: the letters first, then the digits. -/
def labelDigit
    (value : Nat) :
    Char :=
  Char.ofNat (if value < 26 then 97 + value else 22 + value)

/-- The threshold of a digit at a place. -/
def threshold
    (place bias : Nat) :
    Nat :=
  if place ≤ bias then 1 else if bias + 26 ≤ place then 26 else place - bias

/-- A distance as digits of growing weight, each below or above its threshold. -/
def distanceDigits
    (bias : Nat) :
    (fuel : Nat) →
    (place distance : Nat) →
    List Char
  | 0, _, _ => []
  | fuel + 1, place, distance =>
      let limit := threshold place bias
      if distance < limit then
        [labelDigit distance]
      else
        labelDigit (limit + (distance - limit) % (36 - limit)) ::
          distanceDigits bias fuel (place + 36) ((distance - limit) / (36 - limit))

/-- A distance divided down to the size that the bias counts in. -/
def dampened :
    (fuel : Nat) →
    (distance steps : Nat) →
    Nat
  | 0, _, steps => steps
  | fuel + 1, distance, steps =>
      if 455 < distance then dampened fuel (distance / 35) (steps + 36)
      else steps + 36 * distance / (distance + 38)

/-- The bias behind a distance that was written. -/
def adapted
    (distance points : Nat)
    (first : Bool) :
    Nat :=
  let start := if first then distance / 700 else distance / 2
  dampened (start + 1) (start + start / points) 0

/-- Digits written so far, and how the next distance is written. -/
structure LabelState where
  written : List Char := []
  distance : Nat := 0
  bias : Nat := 72
  handled : Nat

/-- Pass over one character of a label while a code point is being inserted. -/
def passChar
    (ascii point : Nat)
    (state : LabelState)
    (c : Char) :
    LabelState :=
  if c.toNat < point then
    { state with distance := state.distance + 1 }
  else if c.toNat = point then
    { written :=
        state.written ++ distanceDigits state.bias (state.distance + 1) 36 state.distance
      distance := 0
      bias := adapted state.distance (state.handled + 1) (state.handled = ascii)
      handled := state.handled + 1 }
  else
    state

/-- Insert the code points of a label in ascending order. -/
def insertPoints
    (label : List Char)
    (ascii : Nat) :
    (next : Nat) →
    LabelState →
    List Nat →
    LabelState
  | _, state, [] => state
  | next, state, point :: points =>
      let ahead :=
        { state with distance := state.distance + (point - next) * (state.handled + 1) }
      let passed := label.foldl (passChar ascii point) ahead
      insertPoints label ascii (point + 1)
        { passed with distance := passed.distance + 1 } points

/-- Code points in ascending order, each once. -/
def insertPoint
    (point : Nat) :
    List Nat →
    List Nat
  | [] => [point]
  | other :: rest =>
      if point < other then point :: other :: rest
      else if point = other then other :: rest
      else other :: insertPoint point rest

/-- A label in ASCII characters; one that has no others stays as it is. -/
def asciiLabel
    (label : List Char) :
    List Char :=
  let ascii := label.filter fun c => c.toNat < 128
  let beyond := (label.filter fun c => 128 ≤ c.toNat).map Char.toNat
  if beyond.isEmpty then
    label
  else
    let state :=
      insertPoints label ascii.length 128 { handled := ascii.length }
        (beyond.foldr insertPoint [])
    "xn--".toList ++ (if ascii.isEmpty then [] else ascii ++ ['-']) ++ state.written

/-- A label with one character beyond ASCII. -/
example : asciiLabel "bücher".toList = "xn--bcher-kva".toList := by decide

def labelDigitValue?
    (c : Char) :
    Option Nat :=
  if 'a' ≤ c ∧ c ≤ 'z' then some (c.toNat - 97)
  else if '0' ≤ c ∧ c ≤ '9' then some (c.toNat - 22)
  else none

/-- What distances and the weights of their digits stay below. -/
def distanceLimit : Nat :=
  4294967296

/--
The distance that digits add to one that is known, and the digits behind it.
The digit that stays below its threshold is the last one.
-/
def readDistance
    (bias : Nat)
    (place weight distance : Nat) :
    List Char →
    Option (Nat × List Char)
  | [] => none
  | c :: rest =>
      match labelDigitValue? c with
      | none => none
      | some digit =>
          let reached := distance + digit * weight
          let limit := threshold place bias
          let heavier := weight * (36 - limit)
          if distanceLimit ≤ reached then none
          else if digit < limit then some (reached, rest)
          else if distanceLimit ≤ heavier then none
          else readDistance bias (place + 36) heavier reached rest

/-- A distance has at least one digit. -/
theorem length_lt_of_readDistance
    {bias place weight distance reached : Nat}
    {digits rest : List Char}
    (found : readDistance bias place weight distance digits = some (reached, rest)) :
    rest.length < digits.length := by
  induction digits generalizing place weight distance with
  | nil => simp [readDistance] at found
  | cons c digits inductionHypothesis =>
      simp only [readDistance] at found
      rw [List.length_cons]
      split at found
      · contradiction
      · split at found
        · contradiction
        · split at found
          · obtain ⟨-, rfl⟩ := Prod.mk.inj (Option.some.inj found)
            exact Nat.lt_succ_self _
          · split at found
            · contradiction
            · exact Nat.lt_succ_of_lt (inductionHypothesis found)

/-- A label whose code points are inserted one after the other. -/
structure LabelReader where
  codes : List Nat
  /-- The place of the next code point, if that is no greater than the last one. -/
  position : Nat := 0
  point : Nat := 128
  bias : Nat := 72

/-- Insert the code point that a distance leads to. -/
def LabelReader.insert?
    (reader : LabelReader)
    (distance : Nat) :
    Option LabelReader :=
  let places := reader.codes.length + 1
  let point := reader.point + distance / places
  if point.isValidChar then
    some
      { codes := reader.codes.insertIdx (distance % places) point
        position := distance % places + 1
        point
        bias := adapted (distance - reader.position) places (reader.position = 0) }
  else
    none

/-- The code points of a label once all digits are read. -/
def LabelReader.readAll?
    (reader : LabelReader)
    (digits : List Char) :
    Option (List Nat) :=
  if digits.isEmpty then some reader.codes
  else
    match _found : readDistance reader.bias 36 1 reader.position digits with
    | none => none
    | some (distance, rest) =>
        (reader.insert? distance).bind fun next => next.readAll? rest
termination_by digits.length
decreasing_by exact length_lt_of_readDistance _found

/-- What stands before and behind the last hyphen, if there is one behind the front. -/
def splitDigits
    (text : List Char) :
    List Char × List Char :=
  match Text.splitFirst (· = '-') text.reverse with
  | some (digits, first :: before) => ((first :: before).reverse, digits.reverse)
  | _ => ([], text)

/-- The code points of a label from what follows `xn--` in its ASCII form. -/
def labelCodes?
    (text : List Char) :
    Option (List Nat) :=
  let (ascii, digits) := splitDigits text
  { codes := ascii.map Char.toNat : LabelReader }.readAll? digits

/-- The label above read back. -/
example : labelCodes? "bcher-kva".toList = some ("bücher".toList.map Char.toNat) := by cbv

end Fieldwork.Url
