import Mathlib.Data.List.DropRight
import Fieldwork.Proofs.Number.Rounding
import Fieldwork.Proofs.Sameness
import Fieldwork.Proofs.Trimming

namespace Fieldwork

/-!
# Numbers are read back from their texts

A layout moves the point and fills up with zeros, which leaves the value of a
decimal alone.  So the text of a number, in every layout that marks an integer with
nothing or with the fraction zero, is read as that number, and the text of an integer
as the number nearest to it.  A text that writes a number has no blanks, nor any
character that stands in no number.
-/

/-- A text with a minus sign in front of it, or without one. -/
def signed
    (negative : Bool)
    (text : List Char) :
    List Char :=
  if negative then '-' :: text else text

/-- The sign is taken off in front of a digit. -/
theorem splitSign_signed
    (negative : Bool)
    {whole : List Char}
    (allDigits : ∀ c ∈ whole, isDigit c = true)
    (nonempty : whole ≠ [])
    (rest : List Char) :
    splitSign (signed negative (whole ++ rest)) = (negative, whole ++ rest) := by
  cases negative with
  | true =>
      rfl
  | false =>
      obtain ⟨c, more, rfl⟩ := List.exists_cons_of_ne_nil nonempty
      have digit := allDigits c List.mem_cons_self
      have noMinus : c ≠ '-' := by rintro rfl; exact absurd digit (by decide)
      have noPlus : c ≠ '+' := by rintro rfl; exact absurd digit (by decide)
      simp [signed, splitSign, noMinus, noPlus]

namespace Decimal

section Parts

variable {whole fraction tail : List Char} {exponent : Int}

theorem head?_of_readExponent
    (readsTail : readExponent tail = some exponent) :
    ∀ c ∈ tail.head?, c = 'e' ∨ c = 'E' := by
  cases tail with
  | nil =>
      simp
  | cons letter rest =>
      intro c first
      cases first
      by_contra other
      simp [readExponent, other] at readsTail

theorem noDigitAhead_of_readExponent
    (readsTail : readExponent tail = some exponent) :
    NoDigitAhead tail := by
  intro c ahead
  rcases head?_of_readExponent readsTail c ahead with rfl | rfl <;> rfl

/-- Behind a sign, digits and an exponent part are read as what they write. -/
theorem read_of_splitSign_whole
    {text : List Char}
    {negative : Bool}
    (split : splitSign text = (negative, whole ++ tail))
    (allDigits : ∀ c ∈ whole, isDigit c = true)
    (nonempty : whole ≠ [])
    (readsTail : readExponent tail = some exponent) :
    read text = some ⟨negative, naturalOf whole, exponent⟩ := by
  have ends := noDigitAhead_of_readExponent readsTail
  unfold read
  rw [split]
  simp only [takeWhile_isDigit_digits allDigits ends, dropWhile_isDigit_digits allDigits ends]
  have noPoint : ∀ rest, tail ≠ '.' :: rest := by
    rintro rest rfl
    exact absurd (head?_of_readExponent readsTail '.' rfl) (by decide)
  split
  · exact absurd rfl (noPoint _)
  · simp [nonempty, readsTail]

/-- Behind a sign, digits around a point and an exponent part are read as what they write. -/
theorem read_of_splitSign_fraction
    {text : List Char}
    {negative : Bool}
    (split : splitSign text = (negative, whole ++ '.' :: (fraction ++ tail)))
    (wholeDigits : ∀ c ∈ whole, isDigit c = true)
    (fractionDigits : ∀ c ∈ fraction, isDigit c = true)
    (nonempty : whole ++ fraction ≠ [])
    (readsTail : readExponent tail = some exponent) :
    read text = some ⟨negative, naturalOf (whole ++ fraction), exponent - fraction.length⟩ := by
  have ends := noDigitAhead_of_readExponent readsTail
  have pointEnds : NoDigitAhead ('.' :: (fraction ++ tail)) := by
    simp [isDigit]
  unfold read
  rw [split]
  simp only [takeWhile_isDigit_digits wholeDigits pointEnds,
    dropWhile_isDigit_digits wholeDigits pointEnds, takeWhile_isDigit_digits fractionDigits ends,
    dropWhile_isDigit_digits fractionDigits ends, nonempty, if_false, readsTail]
  rfl

theorem read_whole
    (negative : Bool)
    (allDigits : ∀ c ∈ whole, isDigit c = true)
    (nonempty : whole ≠ [])
    (readsTail : readExponent tail = some exponent) :
    read (signed negative (whole ++ tail)) = some ⟨negative, naturalOf whole, exponent⟩ :=
  read_of_splitSign_whole (splitSign_signed negative allDigits nonempty tail) allDigits nonempty
    readsTail

theorem read_fraction
    (negative : Bool)
    (wholeDigits : ∀ c ∈ whole, isDigit c = true)
    (nonempty : whole ≠ [])
    (fractionDigits : ∀ c ∈ fraction, isDigit c = true)
    (readsTail : readExponent tail = some exponent) :
    read (signed negative (whole ++ '.' :: (fraction ++ tail))) =
      some ⟨negative, naturalOf (whole ++ fraction), exponent - fraction.length⟩ :=
  read_of_splitSign_fraction (splitSign_signed negative wholeDigits nonempty _) wholeDigits
    fractionDigits (List.append_ne_nil_of_left_ne_nil nonempty _) readsTail

/-- The exponent part that is written is read as the exponent. -/
theorem readExponent_written
    (exponent : Int) :
    readExponent ('e' :: (if exponent < 0 then '-' else '+') :: digitsOf exponent.natAbs) =
      some exponent := by
  have someDigits : digitsOf exponent.natAbs ≠ [] := digitsOf_ne_nil _
  have allDigits : (digitsOf exponent.natAbs).all isDigit = true :=
    List.all_eq_true.mpr fun _ => isDigit_of_mem_digitsOf
  by_cases negative : exponent < 0
  · have value : -(exponent.natAbs : Int) = exponent := by omega
    simp only [readExponent, negative, splitSign, someDigits, allDigits, naturalOf_digitsOf, value,
      ne_eq, not_false_eq_true, true_or, and_self, if_true]
  · have value : (exponent.natAbs : Int) = exponent := by omega
    simp only [readExponent, negative, splitSign, someDigits, allDigits, naturalOf_digitsOf, value,
      ne_eq, not_false_eq_true, true_or, and_self, if_true, if_false, Bool.false_eq_true]

end Parts

end Decimal

/-! ## The value that a text writes -/

/-- Whether a text, with either sign, is read as the number nearest to some decimal. -/
def Writes
    (text : List Char)
    (digits : Nat)
    (exponent : Int) :
    Prop :=
  ∀ negative, readReal (signed negative text) = Decimal.toBinary64? ⟨negative, digits, exponent⟩

/-- Whether a layout marks an integer with nothing or with the fraction zero. -/
def RealLayout.MarksZero
    (layout : RealLayout) :
    Prop :=
  layout.wholeMark = [] ∨ layout.wholeMark = ['.', '0']

section Layouts

variable {digits : List Char} {exponent : Int}

/-- Zeros at the end of what is written count in the exponent. -/
theorem Writes.of_mul_pow
    {text : List Char}
    {value zeros : Nat}
    (writes : Writes text (value * 10 ^ zeros) exponent) :
    Writes text value (exponent + zeros) := by
  intro negative
  rw [writes negative, Decimal.toBinary64?_mul_pow]

theorem writes_whole
    {tail : List Char}
    (allDigits : ∀ c ∈ digits, isDigit c = true)
    (nonempty : digits ≠ [])
    (readsTail : Decimal.readExponent tail = some exponent) :
    Writes (digits ++ tail) (naturalOf digits) exponent := by
  intro negative
  rw [readReal, Decimal.read_whole negative allDigits nonempty readsTail, Option.bind_some]

theorem writes_fraction
    {fraction tail : List Char}
    (allDigits : ∀ c ∈ digits ++ fraction, isDigit c = true)
    (nonempty : digits ≠ [])
    (readsTail : Decimal.readExponent tail = some exponent) :
    Writes (digits ++ '.' :: (fraction ++ tail)) (naturalOf (digits ++ fraction))
      (exponent - fraction.length) := by
  obtain ⟨wholeDigits, fractionDigits⟩ := List.forall_mem_append.mp allDigits
  intro negative
  rw [readReal, Decimal.read_fraction negative wholeDigits nonempty fractionDigits readsTail,
    Option.bind_some]

theorem writes_digits
    (allDigits : ∀ c ∈ digits, isDigit c = true)
    (nonempty : digits ≠ []) :
    Writes digits (naturalOf digits) 0 := by
  have noTail : Decimal.readExponent [] = some 0 := rfl
  simpa only [List.append_nil] using writes_whole allDigits nonempty noTail

theorem writes_pointed
    {fraction : List Char}
    (allDigits : ∀ c ∈ digits ++ fraction, isDigit c = true)
    (nonempty : digits ≠ []) :
    Writes (digits ++ '.' :: fraction) (naturalOf (digits ++ fraction)) (-fraction.length) := by
  have noTail : Decimal.readExponent [] = some 0 := rfl
  simpa only [List.append_nil, Int.zero_sub] using writes_fraction allDigits nonempty noTail

/-- Zeros behind digits, and the fraction zero, write a multiple of the digits. -/
theorem writes_filled
    {layout : RealLayout}
    (mark : layout.MarksZero)
    (allDigits : ∀ c ∈ digits, isDigit c = true)
    (nonempty : digits ≠ [])
    (zeros : Nat) :
    Writes (digits ++ List.replicate zeros '0' ++ layout.wholeMark) (naturalOf digits) zeros := by
  have filledDigits : ∀ zeros, ∀ c ∈ digits ++ List.replicate zeros '0', isDigit c = true :=
    fun _ => List.forall_mem_append.mpr ⟨allDigits, fun _ => isDigit_of_mem_zeros⟩
  have filled : digits ++ List.replicate zeros '0' ≠ [] := by
    simp [nonempty]
  rcases mark with none | zero
  · have writes := writes_digits (filledDigits zeros) filled
    rw [naturalOf_append_zeros] at writes
    rw [none, List.append_nil, ← Int.zero_add (zeros : Int)]
    exact writes.of_mul_pow
  · -- the digit of the fraction is one more zero, which the exponent takes back
    have oneMore :
        digits ++ List.replicate zeros '0' ++ ['0'] = digits ++ List.replicate (zeros + 1) '0' := by
      rw [List.replicate_succ', List.append_assoc]
    have fractionDigits :
        ∀ c ∈ digits ++ List.replicate zeros '0' ++ ['0'], isDigit c = true :=
      oneMore ▸ filledDigits (zeros + 1)
    have place : -((['0'].length : Nat) : Int) + ((zeros + 1 : Nat) : Int) = zeros := by
      simp only [List.length_singleton]
      omega
    have writes := writes_pointed fractionDigits filled
    rw [oneMore, naturalOf_append_zeros] at writes
    rw [zero, ← place]
    exact writes.of_mul_pow

/-- Below one, zeros stand between the point and the digits. -/
theorem writes_below_one
    (allDigits : ∀ c ∈ digits, isDigit c = true)
    (zeros : Nat) :
    Writes ('0' :: '.' :: (List.replicate zeros '0' ++ digits)) (naturalOf digits)
      (-zeros - digits.length) := by
  have fractionDigits :
      ∀ c ∈ ['0'] ++ (List.replicate zeros '0' ++ digits), isDigit c = true := by
    simp only [List.forall_mem_append, List.forall_mem_singleton]
    exact ⟨rfl, fun _ => isDigit_of_mem_zeros, allDigits⟩
  have value : naturalOf (['0'] ++ (List.replicate zeros '0' ++ digits)) = naturalOf digits :=
    (naturalOf_zeros_append 1 _).trans (naturalOf_zeros_append _ _)
  have place :
      -((List.replicate zeros '0' ++ digits).length : Int) = -zeros - digits.length := by
    rw [List.length_append, List.length_replicate]
    omega
  have writes := writes_pointed fractionDigits (by simp)
  rw [value, place] at writes
  exact writes

/-- The digits behind a point between digits are a fraction. -/
theorem writes_split
    {whole : Nat}
    (allDigits : ∀ c ∈ digits, isDigit c = true)
    (someWhole : 0 < whole)
    (someFraction : whole < digits.length) :
    Writes (digits.take whole ++ '.' :: digits.drop whole) (naturalOf digits)
      (whole - digits.length) := by
  have nonempty : digits.take whole ≠ [] :=
    List.ne_nil_of_length_pos (by rw [List.length_take]; omega)
  have place : -((digits.drop whole).length : Int) = whole - digits.length := by
    rw [List.length_drop]
    omega
  have split : digits.take whole ++ digits.drop whole = digits :=
    List.take_append_drop _ _
  have writes := writes_pointed (split.symm ▸ allDigits) nonempty
  rw [split, place] at writes
  exact writes

namespace Binary64

/-- Without an exponent, the digits stand at the places that the point gives them. -/
theorem writes_layPositional
    {layout : RealLayout}
    (mark : layout.MarksZero)
    (allDigits : ∀ c ∈ digits, isDigit c = true)
    (nonempty : digits ≠ [])
    (point : Int) :
    Writes (layPositional layout digits point) (naturalOf digits) (point - digits.length) := by
  unfold layPositional
  by_cases below : point ≤ 0
  · have place : point - digits.length = -((-point).toNat : Int) - digits.length := by
      omega
    rw [if_pos below, place]
    exact writes_below_one allDigits _
  · by_cases filled : digits.length ≤ point.toNat
    · have place : point - digits.length = ((point.toNat - digits.length : Nat) : Int) := by
        omega
      simp only [below, filled, if_true, if_false]
      rw [place]
      exact writes_filled mark allDigits nonempty _
    · have place : point - digits.length = (point.toNat : Int) - digits.length := by
        omega
      simp only [below, filled, if_false]
      rw [place]
      exact writes_split allDigits (by omega) (by omega)

/-- With an exponent, one digit stands in front of the point. -/
theorem writes_layScientific
    (allDigits : ∀ c ∈ digits, isDigit c = true)
    (nonempty : digits ≠ [])
    (exponent : Int) :
    Writes (layScientific digits exponent) (naturalOf digits) (exponent + 1 - digits.length) := by
  have readsTail := Decimal.readExponent_written exponent
  obtain ⟨c, fraction, rfl⟩ := List.exists_cons_of_ne_nil nonempty
  have place : exponent + 1 - ((c :: fraction).length : Int) = exponent - fraction.length := by
    rw [List.length_cons]
    omega
  rw [place]
  unfold layScientific
  by_cases none : fraction = []
  · subst none
    simpa using writes_whole allDigits nonempty readsTail
  · have fractionDigits : ∀ d ∈ [c] ++ fraction, isDigit d = true := allDigits
    simpa [none] using writes_fraction fractionDigits (by simp) readsTail

end Binary64

end Layouts

/-! ## Whole texts -/

namespace Binary64

theorem eq_zero_of_magnitude
    {number : Binary64}
    (none : number.magnitude = 0) :
    number = zero number.negative := by
  obtain ⟨negative, significand, scale, canonical⟩ := number
  have equal : significand * Nat.pow 2 scale = 0 * Nat.pow 2 0 := none
  obtain ⟨rfl, rfl⟩ := canonical.unique (zero negative).canonical equal
  rfl

/-- What is dropped from the end of a run of digits are zeros. -/
theorem exists_zeros_eq
    (digits : List Char) :
    ∃ zeros, withoutFinalZeros digits ++ List.replicate zeros '0' = digits := by
  have split :
      withoutFinalZeros digits ++ digits.rtakeWhile (· = '0') = digits :=
    List.rdropWhile_append_rtakeWhile
  have onlyZeros : ∀ c ∈ digits.rtakeWhile (· = '0'), c = '0' :=
    fun _ member => by simpa using List.mem_rtakeWhile_imp member
  rw [List.eq_replicate_of_mem onlyZeros] at split
  exact ⟨_, split⟩

/-- The text of a decimal in a layout, without its sign. -/
def laid
    (layout : RealLayout)
    (decimal : Decimal) :
    List Char :=
  let digits := withoutFinalZeros (digitsOf decimal.digits)
  if layout.positional (decimal.point - 1) then
    layPositional layout digits decimal.point
  else
    layScientific digits (decimal.point - 1)

theorem text_eq
    (layout : RealLayout)
    (number : Binary64) :
    number.text layout =
      signed number.negative
        (if number.magnitude = 0 then '0' :: layout.wholeMark
          else laid layout number.shortest) :=
  rfl

/-- A decimal is written whole, without the zeros at the end of its digits. -/
theorem writes_laid
    {layout : RealLayout}
    (mark : layout.MarksZero)
    {decimal : Decimal}
    (positive : 0 < decimal.digits) :
    Writes (laid layout decimal) decimal.digits decimal.exponent := by
  obtain ⟨zeros, split⟩ := exists_zeros_eq (digitsOf decimal.digits)
  unfold laid
  generalize withoutFinalZeros (digitsOf decimal.digits) = digits at split ⊢
  have value : naturalOf digits * 10 ^ zeros = decimal.digits := by
    rw [← naturalOf_append_zeros, split, naturalOf_digitsOf]
  have allDigits : ∀ c ∈ digits, isDigit c = true :=
    fun c member => isDigit_of_mem_digitsOf (split ▸ List.mem_append_left _ member)
  have nonempty : digits ≠ [] := by
    rintro rfl
    exact positive.ne' (value.symm.trans (Nat.zero_mul _))
  have place : decimal.point - digits.length = decimal.exponent + zeros := by
    rw [Decimal.point, ← split, List.length_append, List.length_replicate]
    omega
  have writes :
      Writes
        (if layout.positional (decimal.point - 1) then layPositional layout digits decimal.point
          else layScientific digits (decimal.point - 1))
        (naturalOf digits) (decimal.exponent + zeros) := by
    rw [← place]
    split
    · exact writes_layPositional mark allDigits nonempty _
    · have writes := writes_layScientific allDigits nonempty (decimal.point - 1)
      rwa [Int.sub_add_cancel] at writes
  intro negative
  rw [writes negative, ← Decimal.toBinary64?_mul_pow, value]

/-- The text of a number in such a layout is read as that number. -/
theorem readReal_text
    {layout : RealLayout}
    (mark : layout.MarksZero)
    (number : Binary64) :
    readReal (number.text layout) = some number := by
  rw [text_eq]
  by_cases none : number.magnitude = 0
  · have zeroDigit : ∀ c ∈ ['0'], isDigit c = true := List.forall_mem_singleton.mpr rfl
    have value : naturalOf ['0'] = 0 := rfl
    have writes := writes_filled mark zeroDigit (by simp) 0
    rw [value] at writes
    rw [if_pos none]
    calc readReal (signed number.negative ('0' :: layout.wholeMark))
        = Decimal.toBinary64? ⟨number.negative, 0, (0 : Nat)⟩ := writes number.negative
      _ = some (zero number.negative) := Decimal.toBinary64?_zero _ _
      _ = some number := by rw [← eq_zero_of_magnitude none]
  · obtain ⟨sameSign, reads⟩ := toBinary64?_shortest none
    have whole :
        ⟨number.negative, number.shortest.digits, number.shortest.exponent⟩ = number.shortest := by
      rw [← sameSign]
    rw [if_neg none, writes_laid mark (digits_shortest_pos none), whole, reads]

end Binary64

theorem read_integerText
    (value : Int) :
    Decimal.read (integerText value).toList = some ⟨decide (value < 0), value.natAbs, 0⟩ := by
  have written :
      (integerText value).toList = signed (decide (value < 0)) (digitsOf value.natAbs ++ []) := by
    simp [integerText, signed]
  rw [written, Decimal.read_whole _ (fun _ => isDigit_of_mem_digitsOf) (digitsOf_ne_nil _) rfl,
    naturalOf_digitsOf]

/-- A natural of few digits goes to the nearest number, also where it is zero. -/
theorem Decimal.toBinary64?_natural
    (negative : Bool)
    {value : Nat}
    (small : value < 10 ^ 20) :
    Decimal.toBinary64? ⟨negative, value, 0⟩ = Binary64.ofRatio? negative value 1 := by
  by_cases none : value = 0
  · subst none
    cases negative <;> decide +kernel
  · have few : (digitsOf value).length ≤ 20 :=
      (Nat.length_toDigits_le_iff (by decide) (by decide)).mpr small
    rw [Decimal.toBinary64?_eq_nearest? none]
    · simp [Decimal.nearest?]
    · simp only [Decimal.point]
      omega
    · simp only [Decimal.point]
      omega

/-- The text of an integer is read as the number nearest to that integer. -/
theorem readReal_integerText
    {value : Int}
    (small : value.natAbs < 10 ^ 20) :
    readReal (integerText value).toList = Binary64.ofInt? value := by
  rw [readReal, read_integerText, Option.bind_some, Decimal.toBinary64?_natural _ small,
    Binary64.ofInt?]

/-! ## The characters of a number -/

/-- Whether a character can stand in a text that writes a number. -/
def IsNumberChar
    (c : Char) :
    Prop :=
  isDigit c = true ∨ c ∈ ['+', '-', '.', 'e', 'E']

theorem isBlankChar_of_isNumberChar
    {c : Char}
    (inNumber : IsNumberChar c) :
    Text.isBlankChar c = false := by
  rcases inNumber with digit | mark
  · exact isBlankChar_of_isDigit digit
  · simp only [List.mem_cons, List.not_mem_nil, or_false] at mark
    rcases mark with rfl | rfl | rfl | rfl | rfl <;> rfl

theorem isNumberChar_of_splitSign
    {text : List Char}
    (unsigned : ∀ c ∈ (splitSign text).2, IsNumberChar c) :
    ∀ c ∈ text, IsNumberChar c := by
  have sign : IsNumberChar '-' ∧ IsNumberChar '+' := by simp [IsNumberChar]
  unfold splitSign at unsigned
  split at unsigned
  · exact List.forall_mem_cons.mpr ⟨sign.1, unsigned⟩
  · exact List.forall_mem_cons.mpr ⟨sign.2, unsigned⟩
  · exact unsigned

namespace Decimal

theorem isNumberChar_of_readExponent
    {tail : List Char}
    {exponent : Int}
    (reads : readExponent tail = some exponent) :
    ∀ c ∈ tail, IsNumberChar c := by
  cases tail with
  | nil =>
      simp
  | cons letter rest =>
      have mark : IsNumberChar letter := by
        rcases head?_of_readExponent reads letter rfl with rfl | rfl <;> simp [IsNumberChar]
      simp only [readExponent] at reads
      split at reads
      · split at reads
        · rename_i digits
          refine List.forall_mem_cons.mpr ⟨mark, isNumberChar_of_splitSign fun c member => ?_⟩
          exact .inl (List.all_eq_true.mp digits.2 c member)
        · cases reads
      · cases reads

/-- A text that writes a decimal is made of digits, signs, a point and the mark of an exponent. -/
theorem isNumberChar_of_read
    {text : List Char}
    {decimal : Decimal}
    (reads : read text = some decimal) :
    ∀ c ∈ text, IsNumberChar c := by
  have withDigits :
      ∀ text : List Char, (∀ c ∈ text.dropWhile isDigit, IsNumberChar c) →
        ∀ c ∈ text, IsNumberChar c := by
    intro text rest
    rw [← List.takeWhile_append_dropWhile (p := isDigit) (l := text), List.forall_mem_append]
    exact ⟨fun _ member => .inl (List.mem_takeWhile_imp member), rest⟩
  have ofTail :
      ∀ {digits tail : List Char} {value : Int → Decimal},
        (if digits = [] then none else (readExponent tail).map value) = some decimal →
          ∀ c ∈ tail, IsNumberChar c := by
    intro digits tail value reads
    split at reads
    · cases reads
    · obtain ⟨exponent, readsTail, -⟩ := Option.map_eq_some_iff.mp reads
      exact isNumberChar_of_readExponent readsTail
  refine isNumberChar_of_splitSign (withDigits _ ?_)
  simp only [read] at reads
  split at reads
  · rename_i rest afterWhole
    rw [afterWhole]
    exact List.forall_mem_cons.mpr ⟨by simp [IsNumberChar], withDigits _ (ofTail reads)⟩
  · exact ofTail reads

/-- Trimming leaves a text that writes a decimal as it is. -/
theorem trimChars_of_read
    {text : List Char}
    {decimal : Decimal}
    (reads : read text = some decimal) :
    Text.trimChars text = text := by
  have tight : Text.IsTight text :=
    .of_noBlanks fun c member => isBlankChar_of_isNumberChar (isNumberChar_of_read reads c member)
  exact tight.trimChars_eq

end Decimal

/-- No number is read where, between blanks, a character stands that is in no number. -/
theorem readReal_trimChars_eq_none
    {text : List Char}
    {c : Char}
    (member : c ∈ text)
    (notBlank : Text.isBlankChar c = false)
    (inNoNumber : ¬ IsNumberChar c) :
    readReal (Text.trimChars text) = none := by
  by_contra reads
  obtain ⟨number, reads⟩ := Option.ne_none_iff_exists'.mp reads
  obtain ⟨decimal, reads, -⟩ := Option.bind_eq_some_iff.mp reads
  exact inNoNumber (Decimal.isNumberChar_of_read reads c (Text.mem_trimChars notBlank member))

end Fieldwork
