import Fieldwork.Proofs.Number.Nearest
import Fieldwork.Proofs.Number.ReadBack

namespace Fieldwork

/-!
# Texts that write an integer

A text writes an integer where it is a run of digits, behind a sign or alone.  The
reader of integers takes of these texts exactly those whose integer lies between its
bounds, since the digits that it has read never exceed what all of them write.  The
reader of reals takes each of them, as the number nearest to its integer.
-/

/-- A natural as an integer, negated on request. -/
def signedNatural
    (negative : Bool)
    (magnitude : Nat) :
    Int :=
  if negative then -magnitude else magnitude

/-- Whether a text is an integer as people write it. -/
inductive WritesInteger :
    List Char →
    Int →
    Prop
  | unsigned {digits : List Char}
      (allDigits : ∀ c ∈ digits, isDigit c = true)
      (nonempty : digits ≠ []) :
      WritesInteger digits (naturalOf digits)
  | plus {digits : List Char}
      (allDigits : ∀ c ∈ digits, isDigit c = true)
      (nonempty : digits ≠ []) :
      WritesInteger ('+' :: digits) (naturalOf digits)
  | minus {digits : List Char}
      (allDigits : ∀ c ∈ digits, isDigit c = true)
      (nonempty : digits ≠ []) :
      WritesInteger ('-' :: digits) (-naturalOf digits)

section Texts

variable {text digits : List Char} {value least greatest : Int} {negative : Bool}

/-- What a text writes is told by its sign and by the digits behind the sign. -/
theorem writesInteger_iff_splitSign :
    WritesInteger text value ↔
      (splitSign text).2 ≠ [] ∧ (∀ c ∈ (splitSign text).2, isDigit c = true) ∧
        value = signedNatural (splitSign text).1 (naturalOf (splitSign text).2) := by
  constructor
  · intro writes
    cases writes with
    | unsigned allDigits nonempty =>
        have split : splitSign text = (false, text) := by
          simpa [signed] using splitSign_signed false allDigits nonempty []
        rw [split]
        exact ⟨nonempty, allDigits, rfl⟩
    | plus allDigits nonempty =>
        exact ⟨nonempty, allDigits, rfl⟩
    | minus allDigits nonempty =>
        exact ⟨nonempty, allDigits, rfl⟩
  · unfold splitSign
    split
    · rintro ⟨nonempty, allDigits, rfl⟩
      exact .minus allDigits nonempty
    · rintro ⟨nonempty, allDigits, rfl⟩
      exact .plus allDigits nonempty
    · rintro ⟨nonempty, allDigits, rfl⟩
      exact .unsigned allDigits nonempty

/-! ## Reading integers -/

/-- A natural between two others lies with its sign between the bounds where they do. -/
theorem signedNatural_between
    {first next last : Nat}
    (grows : first ≤ next)
    (growsOn : next ≤ last)
    (firstInside : least ≤ signedNatural negative first ∧ signedNatural negative first ≤ greatest)
    (lastInside : least ≤ signedNatural negative last ∧ signedNatural negative last ≤ greatest) :
    least ≤ signedNatural negative next ∧ signedNatural negative next ≤ greatest := by
  unfold signedNatural at *
  cases negative with
  | true =>
      simp only [if_true] at *
      omega
  | false =>
      simp only [Bool.false_eq_true, if_false] at *
      omega

/-- A digit is read on where it keeps what has been read between the bounds. -/
theorem readDigits_cons_eq_ok_iff
    {magnitude : Nat}
    {c : Char}
    {rest : List Char} :
    readDigits negative least greatest (signedNatural negative magnitude) (c :: rest) =
        .ok value ↔
      ∃ digit, digitValue? c = some digit ∧
        (least ≤ signedNatural negative (magnitude * 10 + digit) ∧
          signedNatural negative (magnitude * 10 + digit) ≤ greatest) ∧
        readDigits negative least greatest (signedNatural negative (magnitude * 10 + digit)) rest =
          .ok value := by
  cases read : digitValue? c with
  | none =>
      simp [readDigits, read]
  | some digit =>
      have next :
          (if negative then signedNatural negative magnitude * 10 - (digit : Int)
            else signedNatural negative magnitude * 10 + digit) =
            signedNatural negative (magnitude * 10 + digit) := by
        unfold signedNatural
        split <;> omega
      simp only [readDigits, read, next, Option.some.injEq, exists_eq_left']
      generalize signedNatural negative (magnitude * 10 + digit) = reached
      by_cases tooSmall : reached < least
      · simp [tooSmall, not_le.mpr tooSmall]
      · by_cases tooLarge : greatest < reached
        · simp [tooSmall, tooLarge, not_le.mpr tooLarge]
        · simp [tooSmall, tooLarge, not_lt.mp tooSmall, not_lt.mp tooLarge]

/--
Digits that go on from a natural between the bounds are read exactly where the whole
integer lies between them: it is the farthest of those that are passed on the way.
-/
theorem readDigits_eq_ok_iff
    {magnitude : Nat}
    (inside :
      least ≤ signedNatural negative magnitude ∧ signedNatural negative magnitude ≤ greatest) :
    readDigits negative least greatest (signedNatural negative magnitude) digits = .ok value ↔
      (∀ c ∈ digits, isDigit c = true) ∧
        value = signedNatural negative (magnitude * 10 ^ digits.length + naturalOf digits) ∧
        least ≤ value ∧ value ≤ greatest := by
  induction digits generalizing magnitude with
  | nil =>
      have nothing : naturalOf [] = 0 := rfl
      simp only [readDigits, nothing, List.not_mem_nil, List.length_nil, Nat.pow_zero, Nat.mul_one,
        Nat.add_zero, Except.ok.injEq, false_implies, implies_true, true_and]
      constructor
      · rintro rfl
        exact ⟨rfl, inside⟩
      · rintro ⟨rfl, -⟩
        rfl
  | cons c rest inductionHypothesis =>
      have place {digit : Nat} (read : digitValue? c = some digit) :
          magnitude * 10 ^ (c :: rest).length + naturalOf (c :: rest) =
            (magnitude * 10 + digit) * 10 ^ rest.length + naturalOf rest := by
        have front : naturalOf [c] = digit := by
          simp [naturalOf, read]
        rw [← List.singleton_append (l := rest), naturalOf_append, front,
          List.singleton_append, List.length_cons, Nat.pow_succ', Nat.add_mul, Nat.mul_assoc,
          Nat.add_assoc]
      rw [readDigits_cons_eq_ok_iff]
      constructor
      · rintro ⟨digit, read, reached, reads⟩
        obtain ⟨restDigits, isValue, bounds⟩ := (inductionHypothesis reached).mp reads
        have isOne : isDigit c = true := isDigit_of_digitValue? read
        exact ⟨List.forall_mem_cons.mpr ⟨isOne, restDigits⟩, place read ▸ isValue, bounds⟩
      · rintro ⟨allDigits, isValue, bounds⟩
        obtain ⟨isOne, restDigits⟩ := List.forall_mem_cons.mp allDigits
        have read := digitValue?_of_isDigit isOne
        rw [place read] at isValue
        have grows : magnitude ≤ magnitude * 10 + (c.toNat - '0'.toNat) := by omega
        have growsOn :
            magnitude * 10 + (c.toNat - '0'.toNat) ≤
              (magnitude * 10 + (c.toNat - '0'.toNat)) * 10 ^ rest.length + naturalOf rest :=
          Nat.le_add_right_of_le (Nat.le_mul_of_pos_right _ (Nat.pow_pos (by decide)))
        -- what is reached next lies between what was read before and the whole integer
        have reached := signedNatural_between grows growsOn inside (isValue ▸ bounds)
        exact ⟨_, read, reached, (inductionHypothesis reached).mpr ⟨restDigits, isValue, bounds⟩⟩

/-- Where negative integers exist, both signs are taken off before the digits are read. -/
theorem readInteger_eq_ok_iff_splitSign
    (negatives : least < 0) :
    readInteger least greatest text = .ok value ↔
      (splitSign text).2 ≠ [] ∧
        readDigits (splitSign text).1 least greatest 0 (splitSign text).2 = .ok value := by
  unfold readInteger splitSign
  split <;> simp_all

/-- The integers that are read are those that the texts write, between the bounds. -/
theorem readInteger_eq_ok_iff
    (negatives : least < 0)
    (positives : 0 ≤ greatest) :
    readInteger least greatest text = .ok value ↔
      WritesInteger text value ∧ least ≤ value ∧ value ≤ greatest := by
  have atZero : ∀ negative, signedNatural negative 0 = 0 := by decide
  rw [readInteger_eq_ok_iff_splitSign negatives, writesInteger_iff_splitSign,
    ← atZero (splitSign text).1,
    readDigits_eq_ok_iff ((atZero _).symm ▸ ⟨negatives.le, positives⟩)]
  simp only [Nat.zero_mul, Nat.zero_add, and_assoc]

/-! ## Reading integers as reals -/

theorem Decimal.read_of_writesInteger
    (writes : WritesInteger text value) :
    ∃ negative magnitude,
      value = signedNatural negative magnitude ∧
        Decimal.read text = some ⟨negative, magnitude, 0⟩ := by
  obtain ⟨nonempty, allDigits, isValue⟩ := writesInteger_iff_splitSign.mp writes
  refine ⟨_, _, isValue, ?_⟩
  have onlyDigits : (splitSign text).2.takeWhile isDigit = (splitSign text).2 :=
    List.takeWhile_eq_self_iff.mpr allDigits
  have noRest : (splitSign text).2.dropWhile isDigit = [] :=
    List.dropWhile_eq_nil_iff.mpr allDigits
  simp [read, onlyDigits, noRest, nonempty, readExponent]

/-- A text of an integer of 64 bits is read as the number nearest to that integer. -/
theorem readReal_of_writesInteger
    (writes : WritesInteger text value)
    (small : value.natAbs < 2 ^ 64) :
    ∃ number,
      readReal text = some number ∧
        number.steps = Binary64.nearestInteger value * Binary64.stepsPerUnit := by
  obtain ⟨negative, magnitude, rfl, reads⟩ := Decimal.read_of_writesInteger writes
  have fits : magnitude < 2 ^ 64 := by
    unfold signedNatural at small
    split at small <;> omega
  have few : magnitude < 10 ^ 20 := fits.trans (by decide)
  obtain ⟨number, isNumber, sign, size⟩ := Binary64.exists_ofRatio?_natural negative fits
  refine ⟨number, ?_, ?_⟩
  · rw [readReal, reads, Option.bind_some, Decimal.toBinary64?_natural negative few, isNumber]
  · rw [Binary64.steps, sign, size, Binary64.nearestInteger]
    generalize Binary64.stepsPerUnit = unit
    cases negative with
    | false =>
        simp [signedNatural]
    | true =>
        -- minus zero is an integer without a sign and a real with one, of no steps either way
        rcases Nat.eq_zero_or_pos magnitude with rfl | positive
        · simp [signedNatural, Binary64.nearestNatural_of_lt]
        · simp [signedNatural, positive]

end Texts

end Fieldwork
