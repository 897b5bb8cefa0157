import Mathlib.Algebra.Group.Nat.Defs
import Fieldwork.Proofs.Digits
import Fieldwork.Timestamp

namespace Fieldwork

/-!
# Times that are kept and written

The times that the reader gives exist: their date is kept, their second is one
of the day, and only the last second of a minute is ever a leap second.  The
exact text of such a time is read as that time again.
-/

namespace Timestamp

/-- Whether a time exists. -/
structure Kept (time : Timestamp) : Prop where
  date : time.date.valid = true
  second : time.second < secondsPerDay
  nanosecond : time.nanosecond < 2000000000
  leap : 1000000000 ≤ time.nanosecond → time.second % 60 = 59

/-! ## What the reader gives -/

/-- Digits write less than the power of ten that their number names. -/
theorem naturalOf_lt_pow
    (digits : List Char) :
    naturalOf digits < 10 ^ digits.length := by
  have digitSmall : ∀ c, (digitValue? c).getD 0 ≤ 9 := by
    intro c
    unfold digitValue?
    split
    · rename_i between
      have upper : c.toNat ≤ '9'.toNat := between.2
      have nine : '9'.toNat = 57 ∧ '0'.toNat = 48 := by decide
      simp only [Option.getD_some]
      omega
    · simp
  have general :
      ∀ value,
        digits.foldl (fun value c => value * 10 + (digitValue? c).getD 0) value <
          (value + 1) * 10 ^ digits.length := by
    induction digits with
    | nil =>
        intro value
        simp
    | cons c rest inductionHypothesis =>
        intro value
        have small := digitSmall c
        calc (c :: rest).foldl (fun value c => value * 10 + (digitValue? c).getD 0) value
            < (value * 10 + (digitValue? c).getD 0 + 1) * 10 ^ rest.length :=
              inductionHypothesis _
          _ ≤ ((value + 1) * 10) * 10 ^ rest.length :=
              Nat.mul_le_mul_right _ (by omega)
          _ = (value + 1) * 10 ^ (c :: rest).length := by
              rw [List.length_cons, Nat.pow_succ, Nat.mul_assoc, Nat.mul_comm 10]
  simpa [naturalOf] using general 0

theorem fractionValue_lt
    (digits : List Char) :
    fractionValue digits < 1000000000 := by
  have small := naturalOf_lt_pow (digits.take 9)
  have short : (digits.take 9).length ≤ 9 := by
    rw [List.length_take]
    omega
  calc fractionValue digits
      = naturalOf (digits.take 9) * 10 ^ (9 - (digits.take 9).length) := rfl
    _ < 10 ^ (digits.take 9).length * 10 ^ (9 - (digits.take 9).length) :=
        Nat.mul_lt_mul_of_pos_right small (Nat.pow_pos (by decide))
    _ = 10 ^ 9 := by
        rw [← Nat.pow_add, Nat.add_sub_cancel' short]

/-- A fraction is less than a second. -/
theorem lt_of_readFraction
    {text rest : List Char}
    {nanosecond : Nat}
    (reads : readFraction text = some (nanosecond, rest)) :
    nanosecond < 1000000000 := by
  unfold readFraction at reads
  split at reads
  · simp only at reads
    split at reads
    · cases reads
    · cases reads
      exact fractionValue_lt _
  · cases reads
    decide

/-- An offset is a number of minutes. -/
theorem mod_of_readOffset
    {text rest : List Char}
    {offset : Int}
    (reads : readOffset text = some (offset, rest)) :
    offset % 60 = 0 := by
  have size :
      ∀ {text rest : List Char} {size : Nat},
        readOffsetSize text = some (size, rest) → size % 60 = 0 := by
    intro text rest size reads
    simp only [readOffsetSize, Option.bind_eq_some_iff] at reads
    obtain ⟨⟨hours, afterHours⟩, -, ⟨minutes, afterMinutes⟩, -, reads⟩ := reads
    split at reads
    · cases reads
      omega
    · cases reads
  unfold readOffset at reads
  split at reads
  · cases reads
    rfl
  · split at reads
    · split at reads
      · cases reads
        rfl
      · split at reads
        · obtain ⟨⟨seconds, final⟩, readsSize, same⟩ := Option.map_eq_some_iff.mp reads
          cases same
          have := size readsSize
          omega
        · split at reads
          · obtain ⟨⟨seconds, final⟩, readsSize, same⟩ := Option.map_eq_some_iff.mp reads
            cases same
            have := size readsSize
            omega
          · cases reads
    · cases reads

/-- Moving a time of day by whole minutes keeps it on some day and in its second. -/
theorem second_toUniversal
    (date : Date)
    {second : Nat}
    {offset : Int}
    (ofDay : second < secondsPerDay)
    (wholeMinutes : offset % 60 = 0)
    (lessThanDay : -(secondsPerDay : Int) < offset ∧ offset < secondsPerDay) :
    (toUniversal date second offset).2 < secondsPerDay ∧
      (toUniversal date second offset).2 % 60 = second % 60 := by
  unfold secondsPerDay at ofDay lessThanDay
  unfold toUniversal secondsPerDay
  by_cases before : (second : Int) - offset < 0
  · simp only [before, if_true]
    omega
  · by_cases within : (second : Int) - offset < (86400 : Nat)
    · simp only [before, within, if_true, if_false]
      omega
    · simp only [before, within, if_false]
      omega

/-- A local time with an offset of whole minutes is a time that exists. -/
theorem kept_of_ofLocal?
    {date : Date}
    {hour minute second nanosecond : Nat}
    {offset : Int}
    {time : Timestamp}
    (wholeMinutes : offset % 60 = 0)
    (fraction : nanosecond < 1000000000)
    (given : ofLocal? date hour minute second nanosecond offset = some time) :
    time.Kept := by
  unfold ofLocal? at given
  split at given
  · rename_i allowed
    obtain ⟨-, hourSmall, minuteSmall, secondSmall, lessThanDay⟩ := allowed
    by_cases leap : second = 60
    · have ofDay : hour * 3600 + minute * 60 + 59 < secondsPerDay := by
        simp only [secondsPerDay]
        omega
      obtain ⟨inDay, sameSecond⟩ := second_toUniversal date ofDay wholeMinutes lessThanDay
      simp only [leap, if_true] at given
      split at given
      · rename_i valid
        cases given
        exact ⟨valid, inDay, by simp only; omega, fun _ => by simp only; omega⟩
      · cases given
    · have ofDay : hour * 3600 + minute * 60 + second < secondsPerDay := by
        simp only [secondsPerDay]
        omega
      obtain ⟨inDay, -⟩ := second_toUniversal date ofDay wholeMinutes lessThanDay
      simp only [leap, if_false] at given
      split at given
      · rename_i valid
        cases given
        exact ⟨valid, inDay, by simp only; omega, fun tooLong => by simp only at tooLong; omega⟩
      · cases given
  · cases given

/-- The nanoseconds of a time of day that is read are less than a second. -/
theorem lt_of_readTime
    {text rest : List Char}
    {hour minute second nanosecond : Nat}
    (reads : readTime text = some ((hour, minute, second, nanosecond), rest)) :
    nanosecond < 1000000000 := by
  simp only [readTime, Option.bind_eq_some_iff, Option.map_eq_some_iff] at reads
  obtain ⟨_, _, _, _, _, _, _, _, _, _, ⟨fraction, final⟩, readsFraction, same⟩ := reads
  cases same
  exact lt_of_readFraction readsFraction

/-- Every time that is read exists. -/
theorem kept_of_read
    {text : String}
    {time : Timestamp}
    (reads : read text = some time) :
    time.Kept := by
  simp only [read, readChars, Option.bind_eq_some_iff] at reads
  obtain ⟨⟨date, afterDate⟩, -, reads⟩ := reads
  simp only at reads
  split at reads
  · rename_i c afterSeparator
    split at reads
    · simp only [Option.bind_eq_some_iff] at reads
      obtain ⟨⟨⟨hour, minute, second, nanosecond⟩, afterTime⟩, readsTime, reads⟩ := reads
      obtain ⟨⟨offset, final⟩, readsOffset, given⟩ := reads
      simp only at given
      split at given
      · exact kept_of_ofLocal? (mod_of_readOffset readsOffset) (lt_of_readTime readsTime) given
      · cases given
    · cases reads
  · cases reads

/-! ## What is written is read -/

section Padded

variable {width value : Nat} {rest : List Char}

theorem isDigit_of_mem_padded
    {c : Char}
    (member : c ∈ padded width value) :
    isDigit c = true := by
  rcases List.mem_append.mp member with zero | digit
  · rw [(List.mem_replicate.mp zero).2]
    rfl
  · exact isDigit_of_mem_digitsOf digit

theorem padded_ne_nil
    (width value : Nat) :
    padded width value ≠ [] := by
  simp [padded, digitsOf_ne_nil]

theorem exists_padded_eq_cons
    (width value : Nat) :
    ∃ c more, padded width value = c :: more ∧ isDigit c = true := by
  obtain ⟨c, more, digits⟩ := List.exists_cons_of_ne_nil (padded_ne_nil width value)
  exact ⟨c, more, digits, isDigit_of_mem_padded (digits ▸ List.mem_cons_self)⟩

theorem naturalOf_padded
    (width value : Nat) :
    naturalOf (padded width value) = value :=
  naturalOf_zeros_digitsOf _ value

/-- A natural that fits its width is filled up to it. -/
theorem length_padded
    (positive : 0 < width)
    (small : value < 10 ^ width) :
    (padded width value).length = width := by
  have short : (digitsOf value).length ≤ width :=
    (Nat.length_toDigits_le_iff (by decide) positive).mpr small
  rw [padded, List.length_append, List.length_replicate]
  omega

theorem trimFront_cons
    {c : Char}
    (noBlank : Text.isBlankChar c = false) :
    Text.trimFront (c :: rest) = c :: rest := by
  simp [Text.trimFront, noBlank]

theorem trimFront_padded :
    Text.trimFront (padded width value ++ rest) = padded width value ++ rest := by
  obtain ⟨c, more, digits, digit⟩ := exists_padded_eq_cons width value
  rw [digits]
  exact trimFront_cons (isBlankChar_of_isDigit digit)

/-- A number is read back where it fills the width or no further digit follows. -/
theorem readNumber_padded
    {most : Nat}
    (fits : (padded width value).length ≤ most)
    (ends : (padded width value).length = most ∨ NoDigitAhead rest) :
    readNumber most (padded width value ++ rest) = some (value, rest) := by
  have front :
      ((padded width value ++ rest).take most).takeWhile isDigit = padded width value := by
    rw [List.take_append, List.take_of_length_le fits]
    refine takeWhile_isDigit_digits (fun c member => isDigit_of_mem_padded member) ?_
    intro c ahead
    rw [List.head?_take] at ahead
    split at ahead
    · cases ahead
    · rename_i room
      exact ends.resolve_left (by omega) c ahead
  simp [readNumber, front, padded_ne_nil, naturalOf_padded]

theorem readSpacedNumber_padded
    (positive : 0 < width)
    (small : value < 10 ^ width) :
    readSpacedNumber width (padded width value ++ rest) = some (value, rest) := by
  have full := length_padded positive small
  unfold readSpacedNumber
  rw [trimFront_padded]
  exact readNumber_padded full.le (.inl full)

theorem readMark_cons
    {mark : Char}
    (noBlank : Text.isBlankChar mark = false) :
    readMark mark (mark :: rest) = some rest := by
  simp [readMark, trimFront_cons noBlank]

end Padded

/-- A year is read back from in front of the mark behind it. -/
theorem readYear_yearText
    (year : Int)
    (rest : List Char) :
    readYear (yearText year ++ '-' :: rest) = some (year, '-' :: rest) := by
  have marked :
      readNumber (padded 4 year.natAbs ++ '-' :: rest).length
          (padded 4 year.natAbs ++ '-' :: rest) =
        some (year.natAbs, '-' :: rest) :=
    readNumber_padded (by simp) (.inr (by simp [isDigit]))
  unfold yearText
  by_cases fourDigits : 0 ≤ year ∧ year ≤ 9999
  · have full : (padded 4 year.natAbs).length = 4 := length_padded (by decide) (by omega)
    have number :
        readNumber 4 (padded 4 year.natAbs ++ '-' :: rest) = some (year.natAbs, '-' :: rest) :=
      readNumber_padded full.le (.inl full)
    have sign : (year.natAbs : Int) = year := by
      omega
    obtain ⟨c, more, digits, digit⟩ := exists_padded_eq_cons 4 year.natAbs
    have noSign : c ≠ '-' ∧ c ≠ '+' := by
      constructor <;> (rintro rfl; exact absurd digit (by decide))
    rw [if_pos fourDigits]
    rw [digits, List.cons_append] at number ⊢
    simp [readYear, trimFront_cons (isBlankChar_of_isDigit digit), noSign, number, sign]
  · by_cases negative : year < 0
    · have sign : (0 : Int) - year.natAbs = year := by
        omega
      have noBlank : Text.isBlankChar '-' = false := by decide
      simp only [fourDigits, negative, if_true, if_false, List.cons_append, readYear,
        trimFront_cons noBlank, marked, Option.map_some, sign]
    · have sign : (year.natAbs : Int) = year := by
        omega
      have noBlank : Text.isBlankChar '+' = false := by decide
      simp only [fourDigits, negative, if_false, List.cons_append, readYear,
        trimFront_cons noBlank, marked, Option.map_some, sign]

/-- A date is read back from in front of the time. -/
theorem readDate_written
    {date : Date}
    (valid : date.valid = true)
    (rest : List Char) :
    readDate
        (yearText date.year ++ '-' :: (padded 2 date.month ++ '-' :: (padded 2 date.day ++ rest))) =
      some (date, rest) := by
  have short : daysInMonth date.year date.month < 100 := by
    unfold daysInMonth
    split
    · split <;> decide
    · split <;> decide
  simp only [Date.valid, Bool.and_eq_true, decide_eq_true_eq] at valid
  obtain ⟨⟨-, month⟩, day⟩ := valid
  have noBlank : Text.isBlankChar '-' = false := by decide
  have readsMonth :
      readSpacedNumber 2 (padded 2 date.month ++ '-' :: (padded 2 date.day ++ rest)) =
        some (date.month, '-' :: (padded 2 date.day ++ rest)) :=
    readSpacedNumber_padded (by decide) (by omega)
  have readsDay : readSpacedNumber 2 (padded 2 date.day ++ rest) = some (date.day, rest) :=
    readSpacedNumber_padded (by decide) (by omega)
  simp only [readDate, readYear_yearText, Option.bind_some, readMark_cons noBlank, readsMonth,
    readsDay, Option.map_some]

/-- The fraction of a second is read back from in front of the offset. -/
theorem readFraction_fractionText
    {nanosecond : Nat}
    (small : nanosecond < 1000000000) :
    readFraction (fractionText .exact nanosecond ++ ['Z']) = some (nanosecond, ['Z']) := by
  have digits :
      ∀ {width value : Nat}, 0 < width → width ≤ 9 → value < 10 ^ width →
        readFraction ('.' :: (padded width value ++ ['Z'])) =
          some (value * 10 ^ (9 - width), ['Z']) := by
    intro width value positive narrow fits
    have full := length_padded positive fits
    have ends : NoDigitAhead ['Z'] := by
      simp [isDigit]
    have allDigits : ∀ c ∈ padded width value, isDigit c = true :=
      fun c member => isDigit_of_mem_padded member
    simp only [readFraction, takeWhile_isDigit_digits allDigits ends,
      dropWhile_isDigit_digits allDigits ends, padded_ne_nil, if_false, fractionValue,
      List.take_of_length_le (full.le.trans narrow), naturalOf_padded, full]
    rfl
  unfold fractionText
  by_cases none : nanosecond = 0
  · simp [none, readFraction]
  by_cases millis : nanosecond % 1000000 = 0
  · have value : nanosecond / 1000000 * 10 ^ (9 - 3) = nanosecond := by
      omega
    simp only [none, millis, if_true, if_false, List.cons_append]
    rw [digits (by decide) (by decide) (by omega), value]
  by_cases micros : nanosecond % 1000 = 0
  · have value : nanosecond / 1000 * 10 ^ (9 - 6) = nanosecond := by
      omega
    simp only [none, millis, micros, if_true, if_false, List.cons_append]
    rw [digits (by decide) (by decide) (by omega), value]
  · have value : nanosecond * 10 ^ (9 - 9) = nanosecond := by
      omega
    simp only [none, millis, micros, if_false, List.cons_append]
    rw [digits (by decide) (by decide) (by omega), value]

/-- A time of day is read back from in front of the offset. -/
theorem readTime_written
    {hour minute second nanosecond : Nat}
    (hourSmall : hour < 100)
    (minuteSmall : minute < 100)
    (secondSmall : second < 100)
    (fraction : nanosecond < 1000000000) :
    readTime
        (padded 2 hour ++ ':' :: (padded 2 minute ++ ':' :: (padded 2 second ++
          (fractionText .exact nanosecond ++ ['Z'])))) =
      some ((hour, minute, second, nanosecond), ['Z']) := by
  have noBlank : Text.isBlankChar ':' = false := by decide
  have reads :
      ∀ {value : Nat} (rest : List Char), value < 100 →
        readSpacedNumber 2 (padded 2 value ++ rest) = some (value, rest) :=
    fun rest small => readSpacedNumber_padded (by decide) small
  simp only [readTime, reads _ hourSmall, reads _ minuteSmall, reads _ secondSmall,
    readMark_cons noBlank, Option.bind_some, readFraction_fractionText fraction,
    Option.map_some]

/-- A time of day in universal time is moved to no other day. -/
theorem toUniversal_zero
    (date : Date)
    {second : Nat}
    (inDay : second < secondsPerDay) :
    toUniversal date second 0 = (date, second) := by
  have notBefore : ¬ ((second : Int) - 0 < 0) := by
    omega
  have within : (second : Int) - 0 < secondsPerDay := by
    omega
  have same : ((second : Int) - 0).toNat = second := by
    omega
  simp only [toUniversal, notBefore, within, if_true, if_false, same]

/-- A local time that exists is the time that it is moved to. -/
theorem ofLocal?_eq_some
    {date date' : Date}
    {hour minute second nanosecond ofDay : Nat}
    {offset : Int}
    (allowed :
      date.valid = true ∧ hour < 24 ∧ minute < 60 ∧ second ≤ 60 ∧
        -(secondsPerDay : Int) < offset ∧ offset < secondsPerDay)
    (moved :
      toUniversal date (hour * 3600 + minute * 60 + if second = 60 then 59 else second) offset =
        (date', ofDay))
    (valid : date'.valid = true) :
    ofLocal? date hour minute second nanosecond offset =
      some ⟨date', ofDay, if second = 60 then nanosecond + 1000000000 else nanosecond⟩ := by
  unfold ofLocal?
  rw [if_pos allowed]
  simp only [moved, valid, if_true]

/-- The parts that are written for a time that exists make that time. -/
theorem ofLocal?_of_kept
    {time : Timestamp}
    (kept : time.Kept) :
    ofLocal? time.date (time.second / 3600) (time.second / 60 % 60)
        (time.second % 60 + if 1000000000 ≤ time.nanosecond then 1 else 0)
        (time.nanosecond % 1000000000) 0 =
      some time := by
  obtain ⟨date, second, nanosecond⟩ := time
  obtain ⟨valid, inDay, inSecond, leap⟩ := kept
  have day : secondsPerDay = 86400 := rfl
  simp only at valid inDay inSecond leap ⊢
  have lessThanDay : -(secondsPerDay : Int) < 0 ∧ (0 : Int) < secondsPerDay := by
    omega
  have isLeap :
      second % 60 + (if 1000000000 ≤ nanosecond then 1 else 0) = 60 ↔
        1000000000 ≤ nanosecond := by
    split
    · rename_i long
      have last := leap long
      omega
    · omega
  have ofDay :
      second / 3600 * 3600 + second / 60 % 60 * 60 +
          (if 1000000000 ≤ nanosecond then 59
            else second % 60 + (if 1000000000 ≤ nanosecond then 1 else 0)) =
        second := by
    split
    · rename_i long
      have last := leap long
      omega
    · omega
  have nanos :
      (if 1000000000 ≤ nanosecond then nanosecond % 1000000000 + 1000000000
        else nanosecond % 1000000000) = nanosecond := by
    split <;> omega
  have moved :
      toUniversal date
          (second / 3600 * 3600 + second / 60 % 60 * 60 +
            if second % 60 + (if 1000000000 ≤ nanosecond then 1 else 0) = 60 then 59
            else second % 60 + (if 1000000000 ≤ nanosecond then 1 else 0)) 0 =
        (date, second) := by
    simp only [isLeap, ofDay]
    exact toUniversal_zero date inDay
  rw [ofLocal?_eq_some ⟨valid, by omega, by omega, by split <;> omega, lessThanDay⟩ moved valid]
  simp only [isLeap, nanos]

/-- A time that exists is read back from its exact text. -/
theorem read_render
    {time : Timestamp}
    (kept : time.Kept) :
    read (time.render .exact) = some time := by
  have inDay := kept.second
  have day : secondsPerDay = 86400 := rfl
  have readsTime :
      ∀ second,
        second = time.second % 60 + (if 1000000000 ≤ time.nanosecond then 1 else 0) →
          readTime
              (padded 2 (time.second / 3600) ++ ':' :: (padded 2 (time.second / 60 % 60) ++
                ':' :: (padded 2 second ++
                  (fractionText .exact (time.nanosecond % 1000000000) ++ ['Z'])))) =
            some ((time.second / 3600, time.second / 60 % 60, second,
              time.nanosecond % 1000000000), ['Z']) := by
    rintro second rfl
    exact readTime_written (by omega) (by omega) (by split <;> omega) (by omega)
  have zulu : readOffset (Text.trimFront ['Z']) = some (0, []) := by
    decide
  have separator : isTimeSeparator 'T' = true := by
    decide
  unfold read render written
  rw [String.toList_ofList]
  simp only [List.append_assoc, List.cons_append]
  unfold readChars
  have finished : Text.trimFront [] = [] := rfl
  simp only [readDate_written kept.date, Option.bind_some, separator, if_true, readsTime _ rfl,
    zulu, finished]
  exact ofLocal?_of_kept kept

end Timestamp

end Fieldwork
