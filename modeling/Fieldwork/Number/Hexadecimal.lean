namespace Fieldwork

/-!
# Hexadecimal digits

The sixteen digits, written with small letters and read in either case.
-/

/-- The digit of a value below sixteen. -/
def hexDigit
    (value : Nat) :
    Char :=
  if value < 10 then Char.ofNat (48 + value) else Char.ofNat (87 + value)

/-- The value of a digit in either case. -/
def hexValue?
    (c : Char) :
    Option Nat :=
  if '0' ≤ c ∧ c ≤ '9' then some (c.toNat - 48)
  else if 'a' ≤ c ∧ c ≤ 'f' then some (c.toNat - 87)
  else if 'A' ≤ c ∧ c ≤ 'F' then some (c.toNat - 55)
  else none

/-- A digit has the value that it was written for. -/
theorem hexValue?_hexDigit
    {value : Nat}
    (small : value < 16) :
    hexValue? (hexDigit value) = some value := by
  have each : ∀ value ∈ List.range 16, hexValue? (hexDigit value) = some value := by
    decide
  exact each value (List.mem_range.mpr small)

/--
The natural that digits write in a base of at most sixteen, if all of them are
digits of that base.
-/
def naturalInBase?
    (base : Nat)
    (digits : List Char) :
    Option Nat :=
  digits.foldl
    (fun value c =>
      match value, (hexValue? c).filter (· < base) with
      | some value, some digit => some (value * base + digit)
      | _, _ => none)
    (some 0)

end Fieldwork
