import Fieldwork.Proofs.Number.Integers

namespace Fieldwork

/-!
# Texts that write a decimal

A text writes a decimal as people write one: digits behind a sign or alone, with a point
in front of them, between them, behind them or nowhere, and perhaps the mark of an
exponent with an integer behind it.  The reader of decimals takes exactly these texts.
-/

/-- Whether a text is the sign in front of a number, which may be left out. -/
inductive WritesSign :
    List Char →
    Bool →
    Prop
  | none : WritesSign [] false
  | plus : WritesSign ['+'] false
  | minus : WritesSign ['-'] true

/-- Whether a text is the exponent behind a number, which may be left out. -/
inductive WritesExponent :
    List Char →
    Int →
    Prop
  | none : WritesExponent [] 0
  | marked {mark : Char} {text : List Char} {exponent : Int}
      (isMark : mark = 'e' ∨ mark = 'E')
      (writes : WritesInteger text exponent) :
      WritesExponent (mark :: text) exponent

/-- Whether a text is a decimal as people write it. -/
inductive WritesDecimal :
    List Char →
    Decimal →
    Prop
  | whole {sign digits tail : List Char} {negative : Bool} {exponent : Int}
      (writesSign : WritesSign sign negative)
      (allDigits : ∀ c ∈ digits, isDigit c = true)
      (nonempty : digits ≠ [])
      (writesTail : WritesExponent tail exponent) :
      WritesDecimal (sign ++ (digits ++ tail)) ⟨negative, naturalOf digits, exponent⟩
  | pointed {sign whole fraction tail : List Char} {negative : Bool} {exponent : Int}
      (writesSign : WritesSign sign negative)
      (wholeDigits : ∀ c ∈ whole, isDigit c = true)
      (fractionDigits : ∀ c ∈ fraction, isDigit c = true)
      (nonempty : whole ++ fraction ≠ [])
      (writesTail : WritesExponent tail exponent) :
      WritesDecimal (sign ++ (whole ++ '.' :: (fraction ++ tail)))
        ⟨negative, naturalOf (whole ++ fraction), exponent - fraction.length⟩

variable {text sign rest : List Char} {negative : Bool} {exponent : Int} {decimal : Decimal}

/-- A sign is taken off in front of what does not begin with another one. -/
theorem WritesSign.splitSign_append
    (writesSign : WritesSign sign negative)
    (noSign : ∀ c ∈ rest.head?, c ≠ '-' ∧ c ≠ '+') :
    splitSign (sign ++ rest) = (negative, rest) := by
  cases writesSign with
  | plus | minus =>
      rfl
  | none =>
      cases rest with
      | nil =>
          rfl
      | cons c behind =>
          obtain ⟨noMinus, noPlus⟩ := noSign c rfl
          simp [splitSign, noMinus, noPlus]

theorem exists_writesSign
    (text : List Char) :
    ∃ sign, WritesSign sign (splitSign text).1 ∧ sign ++ (splitSign text).2 = text := by
  unfold splitSign
  split
  · exact ⟨_, .minus, rfl⟩
  · exact ⟨_, .plus, rfl⟩
  · exact ⟨_, .none, rfl⟩

/-- What begins with digits begins with no sign. -/
theorem noSign_of_digits
    {digits behind : List Char}
    (allDigits : ∀ c ∈ digits, isDigit c = true)
    (noSignBehind : ∀ c ∈ behind.head?, c ≠ '-' ∧ c ≠ '+') :
    ∀ c ∈ (digits ++ behind).head?, c ≠ '-' ∧ c ≠ '+' := by
  cases digits with
  | nil =>
      exact noSignBehind
  | cons digit more =>
      rintro c ⟨⟩
      have isOne := allDigits digit List.mem_cons_self
      constructor <;> rintro rfl <;> exact absurd isOne (by decide)

theorem noSign_point
    (behind : List Char) :
    ∀ c ∈ ('.' :: behind).head?, c ≠ '-' ∧ c ≠ '+' := by
  rintro c ⟨⟩
  decide

/-- What is read as an exponent is what is written as one. -/
theorem readExponent_eq_some_iff :
    Decimal.readExponent text = some exponent ↔ WritesExponent text exponent := by
  have reads {mark : Char} (isMark : mark = 'e' ∨ mark = 'E') (rest : List Char) :
      Decimal.readExponent (mark :: rest) = some exponent ↔ WritesInteger rest exponent := by
    rw [writesInteger_iff_splitSign, Decimal.readExponent, if_pos isMark, ← List.all_eq_true,
      ← and_assoc, eq_comm (a := exponent)]
    exact Option.ite_none_right_eq_some.trans (and_congr_right fun _ => Option.some_inj)
  constructor
  · intro readsTail
    cases text with
    | nil =>
        cases readsTail
        exact .none
    | cons mark rest =>
        have isMark := Decimal.head?_of_readExponent readsTail mark rfl
        exact .marked isMark ((reads isMark rest).mp readsTail)
  · intro writes
    cases writes with
    | none => rfl
    | marked isMark writes => exact (reads isMark _).mpr writes

theorem WritesExponent.noSign
    (writes : WritesExponent text exponent) :
    ∀ c ∈ text.head?, c ≠ '-' ∧ c ≠ '+' := by
  intro c first
  have isMark := Decimal.head?_of_readExponent (readExponent_eq_some_iff.mpr writes) c first
  constructor <;> rintro rfl <;> exact absurd isMark (by decide)

theorem WritesDecimal.read_eq
    (writes : WritesDecimal text decimal) :
    Decimal.read text = some decimal := by
  cases writes with
  | whole writesSign allDigits nonempty writesTail =>
      have noSign := noSign_of_digits allDigits writesTail.noSign
      exact Decimal.read_of_splitSign_whole (writesSign.splitSign_append noSign) allDigits nonempty
        (readExponent_eq_some_iff.mpr writesTail)
  | @pointed _ _ fraction tail _ _ writesSign wholeDigits fractionDigits nonempty writesTail =>
      have noSign := noSign_of_digits wholeDigits (noSign_point (fraction ++ tail))
      exact Decimal.read_of_splitSign_fraction (writesSign.splitSign_append noSign) wholeDigits
        fractionDigits nonempty (readExponent_eq_some_iff.mpr writesTail)

/-- What is read as a decimal is written as one, by the parts that the reader finds. -/
theorem writesDecimal_of_read
    (reads : Decimal.read text = some decimal) :
    WritesDecimal text decimal := by
  obtain ⟨sign, writesSign, hereSign⟩ := exists_writesSign text
  have inRun {run : List Char} : ∀ c ∈ run.takeWhile isDigit, isDigit c = true :=
    fun _ => List.mem_takeWhile_imp
  have split (run : List Char) : run.takeWhile isDigit ++ run.dropWhile isDigit = run :=
    List.takeWhile_append_dropWhile
  rw [← hereSign]
  simp only [Decimal.read] at reads
  generalize (splitSign text).1 = negative at reads writesSign
  generalize (splitSign text).2 = unsigned at reads
  rw [← split unsigned]
  split at reads
  · rename_i behind afterWhole
    obtain ⟨nonempty, readsTail⟩ := Option.ite_none_left_eq_some.mp reads
    obtain ⟨exponent, isExponent, rfl⟩ := Option.map_eq_some_iff.mp readsTail
    have writes :=
      WritesDecimal.pointed writesSign inRun inRun nonempty
        (readExponent_eq_some_iff.mp isExponent)
    rwa [split, ← afterWhole] at writes
  · obtain ⟨nonempty, readsTail⟩ := Option.ite_none_left_eq_some.mp reads
    obtain ⟨exponent, isExponent, rfl⟩ := Option.map_eq_some_iff.mp readsTail
    rw [List.append_nil] at nonempty ⊢
    have writes :=
      WritesDecimal.whole writesSign inRun nonempty (readExponent_eq_some_iff.mp isExponent)
    rwa [List.length_nil, Int.natCast_zero, Int.sub_zero]

theorem read_eq_some_iff :
    Decimal.read text = some decimal ↔ WritesDecimal text decimal :=
  ⟨writesDecimal_of_read, WritesDecimal.read_eq⟩

end Fieldwork
