import Mathlib.Algebra.Group.Nat.Defs
import Mathlib.Data.List.TakeWhile
import Fieldwork.Number.Decimal
import Fieldwork.Text.Blank

namespace Fieldwork

/-!
# Digits and what they write

The digits of a natural write that natural, also with zeros in front of them,
zeros behind a run of digits multiply what it writes, and a run of digits is told
apart from what follows it.
-/

/-- A digit has the value by which it stands behind the digit zero. -/
theorem digitValue?_of_isDigit
    {c : Char}
    (digit : isDigit c = true) :
    digitValue? c = some (c.toNat - '0'.toNat) := by
  have between : '0' ≤ c ∧ c ≤ '9' := by
    simpa [isDigit] using digit
  simp [digitValue?, between]

theorem isDigit_of_digitValue?
    {c : Char}
    {value : Nat}
    (read : digitValue? c = some value) :
    isDigit c = true := by
  by_contra noDigit
  have outside : ¬ ('0' ≤ c ∧ c ≤ '9') := by
    simpa [isDigit] using noDigit
  rw [digitValue?, if_neg outside] at read
  cases read

/-- A run of digits writes its value in base ten. -/
theorem naturalOf_eq_ofDigitChars
    {digits : List Char}
    (allDigits : ∀ c ∈ digits, isDigit c = true) :
    naturalOf digits = Nat.ofDigitChars 10 digits 0 := by
  unfold naturalOf
  rw [Nat.ofDigitChars_eq_foldl]
  suffices general :
      ∀ value : Nat,
        digits.foldl (fun value c => value * 10 + (digitValue? c).getD 0) value =
          digits.foldl (fun value c => 10 * value + (c.toNat - '0'.toNat)) value from
    general 0
  induction digits with
  | nil =>
      intro value
      rfl
  | cons c rest inductionHypothesis =>
      intro value
      have digit := digitValue?_of_isDigit (allDigits c (by simp))
      rw [List.foldl_cons, List.foldl_cons, digit, Option.getD_some, Nat.mul_comm]
      exact inductionHypothesis (fun later member => allDigits later (by simp [member])) _

/-- Digits write their value at the place at which they stand. -/
theorem naturalOf_append
    (digits more : List Char) :
    naturalOf (digits ++ more) = naturalOf digits * 10 ^ more.length + naturalOf more := by
  have general :
      ∀ value : Nat,
        more.foldl (fun value c => value * 10 + (digitValue? c).getD 0) value =
          value * 10 ^ more.length + naturalOf more := by
    unfold naturalOf
    induction more with
    | nil =>
        simp
    | cons c rest inductionHypothesis =>
        intro value
        rw [List.foldl_cons, List.foldl_cons, inductionHypothesis, inductionHypothesis (0 * 10 + _),
          List.length_cons, Nat.pow_succ, Nat.zero_mul, Nat.zero_add, Nat.add_mul, Nat.mul_assoc,
          Nat.mul_comm 10, Nat.add_assoc]
  rw [naturalOf, List.foldl_append]
  exact general _

theorem naturalOf_zeros
    (zeros : Nat) :
    naturalOf (List.replicate zeros '0') = 0 := by
  induction zeros with
  | zero =>
      rfl
  | succ zeros inductionHypothesis =>
      rw [List.replicate_succ', naturalOf_append, inductionHypothesis]
      rfl

theorem naturalOf_zeros_append
    (zeros : Nat)
    (digits : List Char) :
    naturalOf (List.replicate zeros '0' ++ digits) = naturalOf digits := by
  rw [naturalOf_append, naturalOf_zeros, Nat.zero_mul, Nat.zero_add]

theorem naturalOf_append_zeros
    (digits : List Char)
    (zeros : Nat) :
    naturalOf (digits ++ List.replicate zeros '0') = naturalOf digits * 10 ^ zeros := by
  rw [naturalOf_append, naturalOf_zeros, List.length_replicate, Nat.add_zero]

theorem isDigit_of_mem_zeros
    {c : Char}
    {zeros : Nat}
    (member : c ∈ List.replicate zeros '0') :
    isDigit c = true := by
  rw [List.eq_of_mem_replicate member]
  rfl

/-- No digit is blank. -/
theorem isBlankChar_of_isDigit
    {c : Char}
    (digit : isDigit c = true) :
    Text.isBlankChar c = false := by
  have between : '0' ≤ c ∧ c ≤ '9' := by
    simpa [isDigit] using digit
  have lower : 48 ≤ c.toNat := between.1
  have upper : c.toNat ≤ 57 := between.2
  simp only [Text.isBlankChar, Bool.or_eq_false_iff, Bool.and_eq_false_iff,
    decide_eq_false_iff_not, beq_eq_false_iff_ne]
  omega

section DigitsOf

variable {value : Nat}

theorem isDigit_of_mem_digitsOf
    {c : Char}
    (member : c ∈ digitsOf value) :
    isDigit c = true :=
  Nat.isDigit_of_mem_toDigits (by decide) (by decide) member

theorem digitsOf_ne_nil
    (value : Nat) :
    digitsOf value ≠ [] :=
  Nat.toDigits_ne_nil

/-- The digits of a natural write it. -/
theorem naturalOf_digitsOf
    (value : Nat) :
    naturalOf (digitsOf value) = value := by
  rw [naturalOf_eq_ofDigitChars fun _ member => isDigit_of_mem_digitsOf member]
  exact Nat.ofDigitChars_ten_toDigits

/-- Zeros in front of the digits of a natural do not change what they write. -/
theorem naturalOf_zeros_digitsOf
    (zeros value : Nat) :
    naturalOf (List.replicate zeros '0' ++ digitsOf value) = value := by
  rw [naturalOf_zeros_append, naturalOf_digitsOf]

/-- A natural times a power of ten has its digits and zeros behind them. -/
theorem digitsOf_mul_pow
    (positive : 0 < value)
    (zeros : Nat) :
    digitsOf (value * 10 ^ zeros) = digitsOf value ++ List.replicate zeros '0' := by
  induction zeros with
  | zero =>
      simp
  | succ zeros inductionHypothesis =>
      have shifted : 0 < value * 10 ^ zeros := Nat.mul_pos positive (Nat.pow_pos (by decide))
      have last :
          digitsOf (value * 10 ^ zeros * 10) =
            digitsOf (value * 10 ^ zeros * 10 / 10) ++
              [(value * 10 ^ zeros * 10 % 10).digitChar] :=
        Nat.toDigits_of_base_le (by decide) (by omega)
      rw [Nat.pow_succ, ← Nat.mul_assoc, last, Nat.mul_div_cancel _ (by decide),
        Nat.mul_mod_left, inductionHypothesis, List.replicate_succ', List.append_assoc]
      rfl

/-- Only zero is written with a zero in front. -/
theorem head?_digitsOf_ne_zero
    (positive : 0 < value) :
    (digitsOf value).head? ≠ some '0' := by
  induction value using Nat.strongRecOn with
  | ind value inductionHypothesis =>
      by_cases small : value < 10
      · have each : ∀ value < 10, 0 < value → (digitsOf value).head? ≠ some '0' := by
          decide
        exact each value small positive
      · have split : digitsOf value = digitsOf (value / 10) ++ [(value % 10).digitChar] :=
          Nat.toDigits_of_base_le (by decide) (by omega)
        have front := inductionHypothesis (value / 10) (by omega) (by omega)
        cases digits : digitsOf (value / 10) with
        | nil =>
            exact absurd digits (digitsOf_ne_nil _)
        | cons c rest =>
            rw [split, digits]
            rw [digits] at front
            exact front

/-- The digits of a natural have no superfluous zero. -/
theorem not_superfluousZero_digitsOf
    (value : Nat) :
    ¬ ((digitsOf value).head? = some '0' ∧ 1 < (digitsOf value).length) := by
  rintro ⟨zeroInFront, long⟩
  rcases Nat.eq_zero_or_pos value with rfl | positive
  · exact absurd long (by decide)
  · exact head?_digitsOf_ne_zero positive zeroInFront

end DigitsOf

/-- Whether a text does not go on with a digit. -/
def NoDigitAhead
    (text : List Char) :
    Prop :=
  ∀ c ∈ text.head?, isDigit c = false

@[simp] theorem noDigitAhead_nil :
    NoDigitAhead [] := by
  simp [NoDigitAhead]

@[simp] theorem noDigitAhead_cons_iff
    {c : Char}
    {rest : List Char} :
    NoDigitAhead (c :: rest) ↔ isDigit c = false := by
  simp [NoDigitAhead]

section Runs

variable {text rest : List Char}

/-- The run of digits at the front ends with the text where no digit follows it. -/
theorem takeWhile_isDigit_append
    (ends : NoDigitAhead rest) :
    (text ++ rest).takeWhile isDigit = text.takeWhile isDigit := by
  induction text with
  | nil =>
      cases rest with
      | nil =>
          rfl
      | cons c rest =>
          simpa using ends
  | cons c text inductionHypothesis =>
      by_cases digit : isDigit c = true
      · simp [digit, inductionHypothesis]
      · simp [digit]

theorem dropWhile_isDigit_append
    (ends : NoDigitAhead rest) :
    (text ++ rest).dropWhile isDigit = text.dropWhile isDigit ++ rest := by
  induction text with
  | nil =>
      cases rest with
      | nil =>
          rfl
      | cons c rest =>
          simpa using ends
  | cons c text inductionHypothesis =>
      by_cases digit : isDigit c = true
      · simp [digit, inductionHypothesis]
      · simp [digit]

theorem takeWhile_isDigit_digits
    (allDigits : ∀ c ∈ text, isDigit c = true)
    (ends : NoDigitAhead rest) :
    (text ++ rest).takeWhile isDigit = text := by
  rw [takeWhile_isDigit_append ends, List.takeWhile_eq_self_iff]
  exact allDigits

theorem dropWhile_isDigit_digits
    (allDigits : ∀ c ∈ text, isDigit c = true)
    (ends : NoDigitAhead rest) :
    (text ++ rest).dropWhile isDigit = rest := by
  rw [dropWhile_isDigit_append ends, List.dropWhile_eq_nil_iff.mpr allDigits, List.nil_append]

end Runs

end Fieldwork
