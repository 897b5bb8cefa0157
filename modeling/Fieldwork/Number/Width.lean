namespace Fieldwork

/-!
# Integers of fixed width

The bounds of the integers that fit into a number of bits, with a sign or without,
and arithmetic that stops at them.
-/

/-- The least integer of 64 bits with a sign. -/
def leastInt64 : Int :=
  -9223372036854775808

/-- The greatest integer of 64 bits with a sign. -/
def greatestInt64 : Int :=
  9223372036854775807

def greatestNat64 : Nat :=
  18446744073709551615

/-- The least integer of 32 bits with a sign. -/
def leastInt32 : Int :=
  -2147483648

/-- The greatest integer of 32 bits with a sign. -/
def greatestInt32 : Int :=
  2147483647

def greatestNat32 : Nat :=
  4294967295

def greatestNat8 : Nat :=
  255

/-- A natural in eight bits; one beyond them counts as the greatest. -/
def saturated8 (number : Nat) : UInt8 :=
  UInt8.ofNat (min number greatestNat8)

/-- A natural in 64 bits; one beyond them counts as the greatest. -/
def saturated64 (number : Nat) : UInt64 :=
  UInt64.ofNat (min number greatestNat64)

theorem toNat_saturated8
    {number : Nat}
    (fits : number ≤ greatestNat8) :
    (saturated8 number).toNat = number := by
  have small : number < 2 ^ 8 := Nat.lt_succ_of_le fits
  rw [saturated8, Nat.min_eq_left fits, UInt8.toNat_ofNat', Nat.mod_eq_of_lt small]

theorem saturated8_toNat
    (number : UInt8) :
    saturated8 number.toNat = number :=
  UInt8.toNat_inj.mp (toNat_saturated8 (Nat.le_of_lt_succ number.toNat_lt))

/-- A number below another one of eight bits can be counted up. -/
theorem toNat_saturated8_succ
    {number bound : UInt8}
    (below : number < bound) :
    (saturated8 (number.toNat + 1)).toNat = number.toNat + 1 :=
  toNat_saturated8 <| Nat.le_of_lt_succ <|
    Nat.lt_of_le_of_lt (UInt8.lt_iff_toNat_lt.mp below) bound.toNat_lt

end Fieldwork
