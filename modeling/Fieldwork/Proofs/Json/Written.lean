import Fieldwork.Json.Printer
import Fieldwork.Json.Reader
import Fieldwork.Proofs.Digits

namespace Fieldwork.Json

/-!
# Reading what was written

The text of a value is read as the document of that value.  It needs two
things: containers may not be nested deeper than the reader follows, and the
text of a real has to be read as that real.  The reader rounds long decimals
twice, so the latter is a matter of the single real; integers and texts are
always read back.
-/

/-! ## Numbers -/

/-- Whether the text of a number is read as that number, to its end. -/
def Number.ReadsBack
    (number : Number) :
    Prop :=
  (readLiteral number.text).map (fun read => (read.1.value?, read.2)) = some (some number, [])

instance
    (number : Number) :
    Decidable number.ReadsBack :=
  inferInstanceAs (Decidable (_ = _))

/-- Whether a text does not go on as a number would. -/
def Ends
    (text : List Char) :
    Prop :=
  ∀ c ∈ text.head?, isDigit c = false ∧ c ≠ '.' ∧ c ≠ 'e' ∧ c ≠ 'E'

@[simp] theorem ends_nil :
    Ends [] := by
  simp [Ends]

@[simp] theorem ends_cons_iff
    {c : Char}
    {rest : List Char} :
    Ends (c :: rest) ↔ isDigit c = false ∧ c ≠ '.' ∧ c ≠ 'e' ∧ c ≠ 'E' := by
  simp [Ends]

theorem Ends.noDigitAhead
    {rest : List Char}
    (ends : Ends rest) :
    NoDigitAhead rest :=
  fun c ahead => (ends c ahead).1

section Literals

variable {text left rest : List Char}

/-- A fraction is read as before where the text goes on with something else. -/
theorem readLiteralFraction_append
    {fraction : Option (List Char)}
    (ends : Ends rest)
    (reads : readLiteralFraction text = some (fraction, left)) :
    readLiteralFraction (text ++ rest) = some (fraction, left ++ rest) := by
  have noFraction :
      ∀ text : List Char, text.head? ≠ some '.' →
        readLiteralFraction text = some (none, text) := by
    intro text noPoint
    unfold readLiteralFraction
    split
    · exact absurd rfl noPoint
    · rfl
  by_cases point : text.head? = some '.'
  · obtain ⟨digits, rfl⟩ : ∃ digits, text = '.' :: digits := List.head?_eq_some_iff.mp point
    simp only [readLiteralFraction] at reads
    split at reads
    · cases reads
    · rename_i someDigit
      cases reads
      simp [readLiteralFraction, takeWhile_isDigit_append ends.noDigitAhead,
        dropWhile_isDigit_append ends.noDigitAhead, someDigit]
  · rw [noFraction text point] at reads
    cases reads
    apply noFraction
    cases text with
    | nil =>
        exact fun ahead => (ends '.' ahead).2.1 rfl
    | cons c text =>
        exact point

theorem splitSign_append
    (someChar : text ≠ []) :
    splitSign (text ++ rest) = ((splitSign text).1, (splitSign text).2 ++ rest) := by
  cases text with
  | nil =>
      exact absurd rfl someChar
  | cons c text =>
      by_cases minus : c = '-'
      · subst minus
        rfl
      · by_cases plus : c = '+'
        · subst plus
          rfl
        · simp [splitSign, minus, plus]

/-- An exponent is read as before where the text goes on with something else. -/
theorem readLiteralExponent_append
    {exponent : Option (Bool × List Char)}
    (ends : Ends rest)
    (reads : readLiteralExponent text = some (exponent, left)) :
    readLiteralExponent (text ++ rest) = some (exponent, left ++ rest) := by
  cases text with
  | nil =>
      cases reads
      cases rest with
      | nil =>
          rfl
      | cons c rest =>
          obtain ⟨-, -, small, capital⟩ := ends_cons_iff.mp ends
          simp [readLiteralExponent, small, capital]
  | cons letter text =>
      by_cases marks : letter = 'e' ∨ letter = 'E'
      · simp only [readLiteralExponent, marks, if_true] at reads
        split at reads
        · cases reads
        · rename_i someDigit
          cases reads
          have someChar : text ≠ [] := by
            rintro rfl
            exact someDigit rfl
          simp [readLiteralExponent, marks, splitSign_append someChar,
            takeWhile_isDigit_append ends.noDigitAhead,
            dropWhile_isDigit_append ends.noDigitAhead, someDigit]
      · simp only [readLiteralExponent, marks, if_false] at reads
        cases reads
        simp [readLiteralExponent, marks]

theorem splitMinus_append
    (someChar : text ≠ []) :
    splitMinus (text ++ rest) = ((splitMinus text).1, (splitMinus text).2 ++ rest) := by
  cases text with
  | nil =>
      exact absurd rfl someChar
  | cons c text =>
      by_cases minus : c = '-'
      · subst minus
        rfl
      · simp [splitMinus, minus]

/-- A number is read as before where the text goes on with something else. -/
theorem readLiteral_append
    {literal : Literal}
    (ends : Ends rest)
    (reads : readLiteral text = some (literal, left)) :
    readLiteral (text ++ rest) = some (literal, left ++ rest) := by
  have someChar : text ≠ [] := by
    rintro rfl
    cases reads
  simp only [readLiteral] at reads
  split at reads
  · cases reads
  · rename_i goodWhole
    split at reads
    · cases reads
    · rename_i fraction afterFraction readsFraction
      obtain ⟨⟨exponent, final⟩, readsExponent, same⟩ := Option.map_eq_some_iff.mp reads
      cases same
      simp only [readLiteral, splitMinus_append someChar,
        takeWhile_isDigit_append ends.noDigitAhead,
        dropWhile_isDigit_append ends.noDigitAhead, goodWhole, if_false,
        readLiteralFraction_append ends readsFraction,
        readLiteralExponent_append ends readsExponent]
      rfl

end Literals

namespace Number

/-- What the text of an integer is read as. -/
theorem readLiteral_integerText
    (value : Int) :
    readLiteral (integerText value).toList =
      some (⟨decide (value < 0), digitsOf value.natAbs, none, none⟩, []) := by
  have split :
      splitMinus (integerText value).toList =
        (decide (value < 0), digitsOf value.natAbs) := by
    by_cases negative : value < 0
    · simp [integerText, negative, splitMinus]
    · have noMinus : (digitsOf value.natAbs).head? ≠ some '-' := by
        intro minus
        have digit := isDigit_of_mem_digitsOf (List.mem_of_mem_head? minus)
        exact absurd digit (by decide)
      simp only [integerText, negative, if_false, String.toList_ofList, decide_false]
      cases digits : digitsOf value.natAbs with
      | nil =>
          rfl
      | cons c rest =>
          rw [digits, List.head?_cons, ne_eq, Option.some.injEq] at noMinus
          simp [splitMinus, noMinus]
  have allDigits : ∀ c ∈ digitsOf value.natAbs, isDigit c = true :=
    fun c member => isDigit_of_mem_digitsOf member
  have whole := takeWhile_isDigit_digits allDigits noDigitAhead_nil
  have behind := dropWhile_isDigit_digits allDigits noDigitAhead_nil
  rw [List.append_nil] at whole behind
  simp only [readLiteral, split, whole, behind, digitsOf_ne_nil, false_or,
    not_superfluousZero_digitsOf, if_false]
  rfl

/-- Every integer is read back. -/
theorem readsBack_integer
    (value : Int)
    (inRange : leastInt64 ≤ value ∧ value ≤ greatestNat64) :
    (integer value inRange).ReadsBack := by
  have signed : (if value < 0 then 0 - (value.natAbs : Int) else value.natAbs) = value := by
    omega
  have noMinusZero : ¬ (value < 0 ∧ value.natAbs = 0) := by
    omega
  have sameValue :
      Literal.value? ⟨decide (value < 0), digitsOf value.natAbs, none, none⟩ =
        some (integer value inRange) := by
    simp only [Literal.value?, naturalOf_digitsOf, decide_eq_true_eq, signed, noMinusZero,
      if_false, ofInt?, dif_pos inRange, Option.some_or]
  unfold ReadsBack text
  rw [readLiteral_integerText, Option.map_some, sameValue]

/-- A number that is read back is read from the front of a text that goes on. -/
theorem ReadsBack.readLiteral_append
    {number : Number}
    {rest : List Char}
    (readsBack : number.ReadsBack)
    (ends : Ends rest) :
    ∃ literal,
      readLiteral (number.text ++ rest) = some (literal, rest) ∧
        literal.value? = some number := by
  obtain ⟨⟨literal, left⟩, reads, same⟩ := Option.map_eq_some_iff.mp readsBack
  obtain ⟨value, rfl⟩ := Prod.mk.inj same
  exact ⟨literal, Json.readLiteral_append ends reads, value⟩

/-- The text of a number that is read back starts with a digit or a minus sign. -/
theorem ReadsBack.exists_text_eq_cons
    {number : Number}
    (readsBack : number.ReadsBack) :
    ∃ c rest, number.text = c :: rest ∧ (c = '-' ∨ isDigit c = true) := by
  obtain ⟨⟨literal, left⟩, reads, -⟩ := Option.map_eq_some_iff.mp readsBack
  cases characters : number.text with
  | nil =>
      rw [characters] at reads
      cases reads
  | cons c rest =>
      refine ⟨c, rest, rfl, ?_⟩
      by_cases minus : c = '-'
      · exact .inl minus
      · right
        by_contra noDigit
        rw [characters] at reads
        simp [readLiteral, splitMinus, minus, noDigit] at reads

end Number

/-! ## Texts -/

/-- A control character is read back from its four hexadecimal digits. -/
theorem readHex4_of_small
    {code : Nat}
    (rest : List Char)
    (small : code < 0x20) :
    readHex4 ('0' :: '0' :: hexDigit (code / 16) :: hexDigit (code % 16) :: rest) =
      some (code, rest) := by
  have zero : hexValue? '0' = some 0 := by decide
  have high : hexValue? (hexDigit (code / 16)) = some (code / 16) :=
    hexValue?_hexDigit (by omega)
  have low : hexValue? (hexDigit (code % 16)) = some (code % 16) :=
    hexValue?_hexDigit (by omega)
  have sum : ((0 * 16 + 0) * 16 + code / 16) * 16 + code % 16 = code := by
    omega
  simp only [readHex4, zero, high, low, sum]

/-- A character is written by a letter, by its code where it is small, or as itself. -/
theorem escapeChar_cases
    (c : Char) :
    (∃ letter,
        escapeChar c = ['\\', letter] ∧ letter ≠ 'u' ∧ escapedChar? letter = some c) ∨
      (c.toNat < 0x20 ∧
        escapeChar c =
          ['\\', 'u', '0', '0', hexDigit (c.toNat / 16), hexDigit (c.toNat % 16)]) ∨
      (escapeChar c = [c] ∧ c ≠ '"' ∧ c ≠ '\\' ∧ ¬ c.toNat < 0x20) := by
  have letterCase :
      ∀ letter code,
        c.toNat = code → escapeChar c = ['\\', letter] → letter ≠ 'u' →
          escapedChar? letter = some (Char.ofNat code) →
            ∃ letter,
              escapeChar c = ['\\', letter] ∧ letter ≠ 'u' ∧
                escapedChar? letter = some c := by
    rintro letter code rfl shape noCode letterOf
    rw [Char.ofNat_toNat] at letterOf
    exact ⟨letter, shape, noCode, letterOf⟩
  by_cases quoteMark : c.toNat = 0x22
  · exact .inl (letterCase '"' _ quoteMark (by simp [escapeChar, quoteMark]) (by decide) rfl)
  by_cases backslash : c.toNat = 0x5C
  · exact .inl (letterCase '\\' _ backslash (by simp [escapeChar, backslash]) (by decide) rfl)
  by_cases backspace : c.toNat = 0x08
  · exact .inl (letterCase 'b' _ backspace (by simp [escapeChar, backspace]) (by decide) rfl)
  by_cases tab : c.toNat = 0x09
  · exact .inl (letterCase 't' _ tab (by simp [escapeChar, tab]) (by decide) rfl)
  by_cases lineFeed : c.toNat = 0x0A
  · exact .inl (letterCase 'n' _ lineFeed (by simp [escapeChar, lineFeed]) (by decide) rfl)
  by_cases formFeed : c.toNat = 0x0C
  · exact .inl (letterCase 'f' _ formFeed (by simp [escapeChar, formFeed]) (by decide) rfl)
  by_cases carriageReturn : c.toNat = 0x0D
  · exact .inl
      (letterCase 'r' _ carriageReturn (by simp [escapeChar, carriageReturn]) (by decide) rfl)
  right
  by_cases control : c.toNat < 0x20
  · left
    refine ⟨control, ?_⟩
    simp [escapeChar, quoteMark, backslash, backspace, tab, lineFeed, formFeed,
      carriageReturn, control]
  · right
    refine ⟨?_, ?_, ?_, control⟩
    · simp [escapeChar, quoteMark, backslash, backspace, tab, lineFeed, formFeed,
        carriageReturn, control]
    · rintro rfl
      exact quoteMark rfl
    · rintro rfl
      exact backslash rfl

/-- A character is read back from what is written for it. -/
theorem readTextChar_escapeChar
    (c : Char)
    (rest : List Char) :
    readTextChar (escapeChar c ++ rest) = some (some c, rest) := by
  rcases escapeChar_cases c with
    ⟨letter, shape, noCode, letterOf⟩ | ⟨control, shape⟩ | ⟨shape, -, noBackslash, noControl⟩
  · simp [shape, readTextChar, letterOf]
  · have highUnit : isHighUnit c.toNat = false := by
      simp only [isHighUnit, Bool.and_eq_false_iff, decide_eq_false_iff_not]
      omega
    have lowUnit : isLowUnit c.toNat = false := by
      simp only [isLowUnit, Bool.and_eq_false_iff, decide_eq_false_iff_not]
      omega
    simp [shape, readTextChar, readHex4_of_small rest control, highUnit, lowUnit]
  · simp [shape, readTextChar, noBackslash, noControl]

/-- What is written for a character does not look like the end of the text. -/
theorem exists_escapeChar_eq_cons
    (c : Char) :
    ∃ first more, escapeChar c = first :: more ∧ first ≠ '"' := by
  rcases escapeChar_cases c with ⟨letter, shape, -⟩ | ⟨-, shape⟩ | ⟨shape, noQuote, -⟩
  · exact ⟨_, _, shape, by decide⟩
  · exact ⟨_, _, shape, by decide⟩
  · exact ⟨_, _, shape, noQuote⟩

theorem length_le_length_flatMap_escapeChar
    (text : List Char) :
    text.length ≤ (text.flatMap escapeChar).length := by
  induction text with
  | nil =>
      simp
  | cons c text inductionHypothesis =>
      obtain ⟨first, more, shape, -⟩ := exists_escapeChar_eq_cons c
      rw [List.flatMap_cons, shape, List.length_append, List.length_cons, List.length_cons]
      omega

/-- A quoted text is read back, from behind its opening quote. -/
theorem readText_flatMap_escapeChar
    {fuel : Nat}
    {collected text : List Char}
    (rest : List Char)
    (enough : text.length ≤ fuel) :
    readText fuel collected true (text.flatMap escapeChar ++ '"' :: rest) =
      some (some (String.ofList (collected.reverse ++ text)), rest) := by
  induction text generalizing fuel collected with
  | nil =>
      simp [readText]
  | cons c text inductionHypothesis =>
      rw [List.length_cons] at enough
      obtain ⟨fuel, rfl⟩ : ∃ less, fuel = less + 1 := ⟨fuel - 1, by omega⟩
      have readsChar :=
        readTextChar_escapeChar c (text.flatMap escapeChar ++ '"' :: rest)
      have readsRest :
          readText fuel (c :: collected) true (text.flatMap escapeChar ++ '"' :: rest) =
            some (some (String.ofList ((c :: collected).reverse ++ text)), rest) :=
        inductionHypothesis (by omega)
      rw [List.flatMap_cons, List.append_assoc]
      unfold readText
      split
      · rename_i closes
        obtain ⟨first, more, shape, noQuote⟩ := exists_escapeChar_eq_cons c
        rw [shape, List.cons_append, List.cons.injEq] at closes
        exact absurd closes.1 noQuote
      · simp only [readsChar, readsRest]
        simp

/-- A quoted text is read back, with what follows it. -/
theorem readText_quote
    (text : String)
    (rest : List Char) :
    ∃ inner,
      quote text ++ rest = '"' :: inner ∧
        readText inner.length [] true inner = some (some text, rest) := by
  refine ⟨text.toList.flatMap escapeChar ++ '"' :: rest, by simp [quote], ?_⟩
  have shorter := length_le_length_flatMap_escapeChar text.toList
  rw [readText_flatMap_escapeChar rest]
  · simp
  · rw [List.length_append]
    omega

/-! ## Values -/

/--
Whether the text of a value is read back by a reader with `room` for that many
nested containers.
-/
inductive Legible : Nat → Json → Prop where
  | null {room : Nat} :
      Legible room .null
  | bool {room : Nat} (value : Bool) :
      Legible room (.bool value)
  | number {room : Nat} {number : Number} (readsBack : number.ReadsBack) :
      Legible room (.number number)
  | string {room : Nat} (text : String) :
      Legible room (.string text)
  | array {room : Nat} {items : List Json} (each : ∀ item ∈ items, Legible room item) :
      Legible (room + 1) (.array items)
  | object
      {room : Nat}
      {fields : List (String × Json)}
      (each : ∀ field ∈ fields, Legible room field.2) :
      Legible (room + 1) (.object fields)

section Opening

variable {room : Nat} {value : Json} {c : Char} {rest : List Char}

theorem skipSpaces_cons
    (noSpace : isSpace c = false) :
    skipSpaces (c :: rest) = c :: rest := by
  simp [skipSpaces, noSpace]

theorem isSpace_of_isDigit
    (digit : isDigit c = true) :
    isSpace c = false := by
  by_contra space
  simp only [isSpace, Bool.not_eq_false, Bool.or_eq_true, decide_eq_true_eq] at space
  rcases space with ((rfl | rfl) | rfl) | rfl <;> exact absurd digit (by decide)

/-- A written value starts neither with a blank character nor with a closing bracket. -/
theorem Legible.exists_written_eq_cons
    (legible : Legible room value) :
    ∃ c rest, written value = c :: rest ∧ isSpace c = false ∧ c ≠ ']' := by
  cases legible with
  | null =>
      exact ⟨_, _, rfl, by decide, by decide⟩
  | bool value =>
      cases value <;> exact ⟨_, _, rfl, by decide, by decide⟩
  | number readsBack =>
      obtain ⟨c, rest, shape, minus | digit⟩ := readsBack.exists_text_eq_cons
      · exact ⟨c, rest, shape, by subst minus; decide, by subst minus; decide⟩
      · refine ⟨c, rest, shape, isSpace_of_isDigit digit, ?_⟩
        rintro rfl
        exact absurd digit (by decide)
  | string text =>
      exact ⟨_, _, rfl, by decide, by decide⟩
  | array each =>
      exact ⟨_, _, rfl, by decide, by decide⟩
  | object each =>
      exact ⟨_, _, rfl, by decide, by decide⟩

end Opening

namespace Document

/-- Whether a value is read back from the front of every text that it starts. -/
def ReadsFrom
    (room : Nat)
    (value : Json) :
    Prop :=
  ∀ fuel rest,
    2 * (written value).length ≤ fuel → Ends rest →
      readValue fuel room (written value ++ rest) = (ofJson value, some rest)

variable {room : Nat}

/-- Items are read back one after the other, up to the bracket behind them. -/
theorem readItems_written
    {items : List Json}
    {fuel : Nat}
    (rest : List Char)
    (someItem : items ≠ [])
    (reads : ∀ item ∈ items, ReadsFrom room item)
    (enough : 2 * (writtenItems items).length + 1 ≤ fuel) :
    readItems fuel room (writtenItems items ++ ']' :: rest) = (ofItems items, some rest) := by
  induction items generalizing fuel with
  | nil =>
      exact absurd rfl someItem
  | cons item more inductionHypothesis =>
      obtain ⟨fuel, rfl⟩ : ∃ less, fuel = less + 1 := ⟨fuel - 1, by omega⟩
      have readsItem := reads item (by simp)
      have noSpace : isSpace ']' = false ∧ isSpace ',' = false := by decide
      cases more with
      | nil =>
          have readsLast := readsItem fuel (']' :: rest) (by simpa [writtenItems] using enough)
            (by simp [isDigit])
          simp [writtenItems, readItems, readsLast, skipSpaces_cons noSpace.1, ofItems]
      | cons next more =>
          have shape :
              writtenItems (item :: next :: more) =
                written item ++ ',' :: writtenItems (next :: more) := by
            simp [writtenItems]
          rw [shape, List.length_append, List.length_cons] at enough
          have readsFirst :=
            readsItem fuel (',' :: (writtenItems (next :: more) ++ ']' :: rest)) (by omega)
              (by simp [isDigit])
          have readsMore :
              readItems fuel room (writtenItems (next :: more) ++ ']' :: rest) =
                (ofItems (next :: more), some rest) :=
            inductionHypothesis (by simp) (fun later member => reads later (by simp [member]))
              (by omega)
          rw [shape, List.append_assoc, List.cons_append]
          simp only [readItems, readsFirst, skipSpaces_cons noSpace.2, readsMore]
          rfl

section Members

variable {fuel : Nat} {name : String} {value : Document} {text rest : List Char}

/-- The last member is read up to the brace behind its value. -/
theorem readMembers_last
    (reads : readValue fuel room text = (value, some ('\x7d' :: rest))) :
    readMembers (fuel + 1) room (quote name ++ ':' :: text) =
      ([(some name, value)], some rest) := by
  have noSpace : isSpace '"' = false ∧ isSpace ':' = false ∧ isSpace '\x7d' = false := by
    decide
  obtain ⟨inner, opens, readsName⟩ := readText_quote name (':' :: text)
  rw [opens]
  simp only [readMembers, skipSpaces_cons noSpace.1, readsName, skipSpaces_cons noSpace.2.1,
    reads, skipSpaces_cons noSpace.2.2]

/-- A member is read up to the comma behind its value, and then the members that follow it. -/
theorem readMembers_next
    {more : List Char}
    {members : List (Option String × Document)}
    (reads : readValue fuel room text = (value, some (',' :: more)))
    (readsMore : readMembers fuel room more = (members, some rest)) :
    readMembers (fuel + 1) room (quote name ++ ':' :: text) =
      ((some name, value) :: members, some rest) := by
  have noSpace : isSpace '"' = false ∧ isSpace ':' = false ∧ isSpace ',' = false := by
    decide
  obtain ⟨inner, opens, readsName⟩ := readText_quote name (':' :: text)
  rw [opens]
  simp only [readMembers, skipSpaces_cons noSpace.1, readsName, skipSpaces_cons noSpace.2.1,
    reads, skipSpaces_cons noSpace.2.2, readsMore]

end Members

/-- Members are read back one after the other, up to the brace behind them. -/
theorem readMembers_written
    {fields : List (String × Json)}
    {fuel : Nat}
    (rest : List Char)
    (someField : fields ≠ [])
    (reads : ∀ field ∈ fields, ReadsFrom room field.2)
    (enough : 2 * (writtenFields fields).length + 1 ≤ fuel) :
    readMembers fuel room (writtenFields fields ++ '\x7d' :: rest) =
      (ofFields fields, some rest) := by
  induction fields generalizing fuel with
  | nil =>
      exact absurd rfl someField
  | cons field more inductionHypothesis =>
      obtain ⟨name, value⟩ := field
      obtain ⟨fuel, rfl⟩ : ∃ less, fuel = less + 1 := ⟨fuel - 1, by omega⟩
      have readsValue : ReadsFrom room value := reads (name, value) (by simp)
      cases more with
      | nil =>
          have shape : writtenFields [(name, value)] = quote name ++ ':' :: written value := by
            simp [writtenFields]
          rw [shape, List.length_append, List.length_cons] at enough
          rw [shape, List.append_assoc, List.cons_append]
          exact readMembers_last
            (readsValue fuel ('\x7d' :: rest) (by omega) (by simp [isDigit]))
      | cons next more =>
          have shape :
              writtenFields ((name, value) :: next :: more) =
                quote name ++ ':' :: (written value ++ ',' :: writtenFields (next :: more)) := by
            simp [writtenFields]
          rw [shape, List.length_append, List.length_cons, List.length_append,
            List.length_cons] at enough
          have readsMore :
              readMembers fuel room (writtenFields (next :: more) ++ '\x7d' :: rest) =
                (ofFields (next :: more), some rest) :=
            inductionHypothesis (by simp) (fun later member => reads later (by simp [member]))
              (by omega)
          rw [shape, List.append_assoc, List.cons_append, List.append_assoc, List.cons_append]
          exact readMembers_next
            (readsValue fuel (',' :: (writtenFields (next :: more) ++ '\x7d' :: rest)) (by omega)
              (by simp [isDigit]))
            readsMore

/-- A text that starts like a number is read as one. -/
theorem readValue_number
    {fuel : Nat}
    {c : Char}
    {text rest : List Char}
    {literal : Literal}
    (starts : c = '-' ∨ isDigit c = true)
    (reads : readLiteral (c :: text) = some (literal, rest)) :
    readValue (fuel + 1) room (c :: text) = (.number literal.value?, some rest) := by
  have noSpace : isSpace c = false := by
    rcases starts with rfl | digit
    · decide
    · exact isSpace_of_isDigit digit
  have different : ∀ other : Char, other ≠ '-' → isDigit other = false → c ≠ other := by
    rintro other noMinus noDigit rfl
    rcases starts with minus | digit
    · exact noMinus minus
    · rw [noDigit] at digit
      cases digit
  have letters : c ≠ 'n' ∧ c ≠ 't' ∧ c ≠ 'f' :=
    ⟨different 'n' (by decide) (by decide), different 't' (by decide) (by decide),
      different 'f' (by decide) (by decide)⟩
  have brackets : c ≠ '"' ∧ c ≠ '[' ∧ c ≠ '\x7b' :=
    ⟨different '"' (by decide) (by decide), different '[' (by decide) (by decide),
      different '\x7b' (by decide) (by decide)⟩
  rw [readValue.eq_def]
  simp only [skipSpaces_cons noSpace]
  split <;> simp_all

/-- There is fuel for every value that is written with one character at least. -/
theorem readsFrom_of_succ
    {value : Json}
    (someChar : written value ≠ [])
    (reads :
      ∀ fuel rest,
        2 * (written value).length ≤ fuel + 1 → Ends rest →
          readValue (fuel + 1) room (written value ++ rest) = (ofJson value, some rest)) :
    ReadsFrom room value := by
  intro fuel rest enough ends
  have positive : 0 < (written value).length := List.length_pos_iff.mpr someChar
  obtain ⟨fuel, rfl⟩ : ∃ less, fuel = less + 1 := ⟨fuel - 1, by omega⟩
  exact reads fuel rest enough ends

/-- The items of a container that is not closed at once are read up to its bracket. -/
theorem readValue_items
    {fuel : Nat}
    {c : Char}
    {text rest : List Char}
    {items : List Document}
    (noSpace : isSpace c = false)
    (noBracket : c ≠ ']')
    (reads : readItems fuel room (c :: text) = (items, some rest)) :
    readValue (fuel + 1) (room + 1) ('[' :: c :: text) = (.array items, some rest) := by
  have bracket : isSpace '[' = false := by decide
  rw [readValue.eq_def]
  simp only [skipSpaces_cons bracket, skipSpaces_cons noSpace]
  split
  · simp_all
  · simp [reads, contain]

/-- An array is read back where its items are. -/
theorem readsFrom_array
    {items : List Json}
    (starts :
      ∀ item ∈ items, ∃ c rest, written item = c :: rest ∧ isSpace c = false ∧ c ≠ ']')
    (reads : ∀ item ∈ items, ReadsFrom room item) :
    ReadsFrom (room + 1) (.array items) := by
  refine readsFrom_of_succ (by simp [written]) ?_
  intro fuel rest enough _
  have shape :
      written (.array items) ++ rest = '[' :: (writtenItems items ++ ']' :: rest) := by
    simp [written]
  have length : (written (.array items)).length = (writtenItems items).length + 2 := by
    simp [written]
  rw [shape]
  cases items with
  | nil =>
      have bracket : isSpace '[' = false ∧ isSpace ']' = false := by decide
      simp [writtenItems, readValue, skipSpaces_cons, bracket, contain, ofJson, ofItems]
  | cons item more =>
      obtain ⟨c, later, opens, noSpace, noBracket⟩ := starts item (by simp)
      obtain ⟨behind, front⟩ : ∃ behind, writtenItems (item :: more) = c :: behind := by
        cases more <;> simp [writtenItems, opens]
      have readsItems :
          readItems fuel room (writtenItems (item :: more) ++ ']' :: rest) =
            (ofItems (item :: more), some rest) :=
        readItems_written rest (by simp) reads (by omega)
      rw [front, List.cons_append] at readsItems ⊢
      exact readValue_items noSpace noBracket readsItems

/-- An object is read back where the values of its fields are. -/
theorem readsFrom_object
    {fields : List (String × Json)}
    (reads : ∀ field ∈ fields, ReadsFrom room field.2) :
    ReadsFrom (room + 1) (.object fields) := by
  refine readsFrom_of_succ (by simp [written]) ?_
  intro fuel rest enough _
  have shape :
      written (.object fields) ++ rest =
        '\x7b' :: (writtenFields fields ++ '\x7d' :: rest) := by
    simp [written]
  have length : (written (.object fields)).length = (writtenFields fields).length + 2 := by
    simp [written]
  have brace : isSpace '\x7b' = false ∧ isSpace '\x7d' = false ∧ isSpace '"' = false := by
    decide
  rw [shape]
  cases fields with
  | nil =>
      simp [writtenFields, readValue, skipSpaces_cons, brace, contain, ofJson, ofFields]
  | cons field more =>
      obtain ⟨behind, front⟩ : ∃ behind, writtenFields (field :: more) = '"' :: behind := by
        obtain ⟨name, value⟩ := field
        cases more <;> simp [writtenFields, quote]
      have readsMembers :
          readMembers fuel room (writtenFields (field :: more) ++ '\x7d' :: rest) =
            (ofFields (field :: more), some rest) :=
        readMembers_written rest (by simp) reads (by omega)
      rw [front, List.cons_append] at readsMembers ⊢
      simp [readValue, skipSpaces_cons, brace, readsMembers, contain, ofJson]

/-- A value that is legible is read back, with what follows it. -/
theorem readsFrom_of_legible
    {value : Json}
    (legible : Legible room value) :
    ReadsFrom room value := by
  induction legible with
  | null =>
      refine readsFrom_of_succ (by simp [written]) ?_
      intro fuel rest _ _
      rfl
  | bool value =>
      cases value <;> exact readsFrom_of_succ (by simp [written]) fun _ _ _ _ => rfl
  | @number room number readsBack =>
      obtain ⟨c, more, shape, starts⟩ := readsBack.exists_text_eq_cons
      refine readsFrom_of_succ (by simp [written, shape]) ?_
      intro fuel rest _ ends
      obtain ⟨literal, reads, same⟩ := readsBack.readLiteral_append ends
      rw [shape, List.cons_append] at reads
      rw [written, shape, List.cons_append, readValue_number starts reads, same]
      rfl
  | string text =>
      refine readsFrom_of_succ (by simp [written, quote]) ?_
      intro fuel rest _ _
      obtain ⟨inner, opens, readsInner⟩ := readText_quote text rest
      rw [written, opens]
      simp only [readValue, skipSpaces_cons (by decide : isSpace '"' = false), readsInner]
      rfl
  | array each inductionHypothesis =>
      exact readsFrom_array (fun item member => (each item member).exists_written_eq_cons)
        inductionHypothesis
  | object each inductionHypothesis =>
      exact readsFrom_object inductionHypothesis

/-- A text is read character by character as it was written. -/
theorem ofText_render_eq_readValue
    (value : Json) :
    ofText value.render =
      ((readValue (2 * (written value).length + 2) greatestDepth (written value)).1,
        (readValue (2 * (written value).length + 2) greatestDepth (written value)).2.any
          fun rest => (skipSpaces rest).isEmpty) := by
  simp [ofText, render]

/-- The text of a legible value is read as the document of that value, to its end. -/
theorem ofText_render
    {value : Json}
    (legible : Legible greatestDepth value) :
    ofText value.render = (ofJson value, true) := by
  have reads :=
    readsFrom_of_legible legible (2 * (written value).length + 2) [] (by omega) ends_nil
  rw [List.append_nil] at reads
  simp [ofText_render_eq_readValue, reads, skipSpaces]

end Document

end Fieldwork.Json
