import Mathlib.Data.List.Forall2
import Fieldwork.Proofs.Trimming

namespace Fieldwork.Text

/-!
# Words and how they are spelled

A text has its words between its blanks, and has them in one way.  A text spells a word
where it has the letters of the word, each of them small or as a capital, and it names
something where its own words, joined by low lines, spell the name.
-/

/-! ## Letters in either case -/

/-- Whether a text is a word of small letters, any of which it may have as a capital. -/
def Spells
    (written word : String) :
    Prop :=
  List.Forall₂ (fun c letter => c = letter ∨ c = letter.toUpper) written.toList word.toList

instance
    (written word : String) :
    Decidable (Spells written word) :=
  inferInstanceAs (Decidable (List.Forall₂ _ _ _))

section Letters

variable {c letter : Char} {text letters : List Char} {written word : String}

theorem isLower_iff :
    c.isLower = true ↔ 97 ≤ c.toNat ∧ c.toNat ≤ 122 := by
  have between : c.isLower = (decide ('a'.val ≤ c.val) && decide (c.val ≤ 'z'.val)) := rfl
  rw [between, Bool.and_eq_true, decide_eq_true_eq, decide_eq_true_eq]
  exact Iff.rfl

theorem isUpper_iff :
    c.isUpper = true ↔ 65 ≤ c.toNat ∧ c.toNat ≤ 90 := by
  have between : c.isUpper = decide ('A'.val ≤ c.val ∧ c.val ≤ 'Z'.val) := rfl
  rw [between, decide_eq_true_eq]
  exact Iff.rfl

/-- Capitals become small by a step of 32, and every other character stays. -/
theorem toNat_toLower
    (c : Char) :
    c.toLower.toNat = if 65 ≤ c.toNat ∧ c.toNat ≤ 90 then c.toNat + 32 else c.toNat := by
  delta Char.toLower
  split
  · rename_i capital
    have range : 65 ≤ c.val.toNat ∧ c.val.toNat ≤ 90 := capital
    calc
      (c.val + ('a'.val - 'A'.val)).toNat = (c.val.toNat + 32) % 2 ^ 32 := UInt32.toNat_add ..
      _ = c.val.toNat + 32 := by omega
      _ = _ := (if_pos range).symm
  · rename_i noCapital
    exact (if_neg noCapital).symm

/-- Small letters become capitals by the same step, and every other character stays. -/
theorem toNat_toUpper
    (c : Char) :
    c.toUpper.toNat = if 97 ≤ c.toNat ∧ c.toNat ≤ 122 then c.toNat - 32 else c.toNat := by
  -- the step down is written as a step up, modulo the width of a character
  have step : ('A'.val - 'a'.val).toNat = 2 ^ 32 - 32 := by decide
  delta Char.toUpper
  split
  · rename_i small
    have range : 97 ≤ c.val.toNat ∧ c.val.toNat ≤ 122 := small
    calc
      (c.val + ('A'.val - 'a'.val)).toNat = (c.val.toNat + (2 ^ 32 - 32)) % 2 ^ 32 := by
        rw [UInt32.toNat_add, step]
      _ = c.val.toNat - 32 := by omega
      _ = _ := (if_pos range).symm
  · rename_i notSmall
    exact (if_neg notSmall).symm

/-- The characters that become a letter which is no capital are the letter and its capital. -/
theorem toLower_eq_iff
    (noCapital : letter.isUpper = false) :
    c.toLower = letter ↔ c = letter ∨ c = letter.toUpper := by
  rw [← Bool.not_eq_true, isUpper_iff] at noCapital
  rw [← Char.toNat_inj, ← Char.toNat_inj, ← Char.toNat_inj, toNat_toLower, toNat_toUpper]
  split <;> split <;> omega

theorem map_toLower_eq_iff
    (noCapital : ∀ letter ∈ letters, letter.isUpper = false) :
    text.map Char.toLower = letters ↔
      List.Forall₂ (fun c letter => c = letter ∨ c = letter.toUpper) text letters := by
  induction letters generalizing text with
  | nil =>
      simp
  | cons letter rest inductionHypothesis =>
      obtain ⟨first, behindFirst⟩ := List.forall_mem_cons.mp noCapital
      cases text with
      | nil =>
          simp
      | cons c behind =>
          rw [List.map_cons, List.cons.injEq, List.forall₂_cons, toLower_eq_iff first,
            inductionHypothesis behindFirst]

/-- A word is told from a text without regard to case where the text spells it. -/
theorem lowerAscii_eq_iff
    (noCapital : word.toList.any Char.isUpper = false) :
    lowerAscii written = word ↔ Spells written word := by
  have noneCapital : ∀ letter ∈ word.toList, letter.isUpper = false := by
    simpa using noCapital
  rw [lowerAscii, ← String.toList_inj, String.toList_ofList, map_toLower_eq_iff noneCapital, Spells]

/-- The case of a letter does not matter, but a long s is no s. -/
example : Spells "SeLecT" "select" ∧ ¬ Spells "ſelect" "select" := by
  decide

theorem isUpper_of_isLower
    (small : letter.isLower = true) :
    letter.isUpper = false := by
  rw [isLower_iff] at small
  rw [← Bool.not_eq_true, isUpper_iff]
  omega

theorem isBlankChar_of_toLower
    (small : c.toLower.isLower = true) :
    isBlankChar c = false := by
  have range := isLower_iff.mp small
  rw [toNat_toLower] at range
  have inLetters : 65 ≤ c.toNat ∧ c.toNat ≤ 122 := by
    split at range <;> omega
  simp only [isBlankChar, Bool.or_eq_false_iff, Bool.and_eq_false_iff, decide_eq_false_iff_not,
    beq_eq_false_iff_ne]
  omega

/-- No blank is in a text that spells a word. -/
theorem Spells.noBlanks
    (small : ∀ letter ∈ word.toList, letter.isLower = true)
    (spelled : Spells written word) :
    ∀ c ∈ written.toList, isBlankChar c = false := by
  intro c member
  have noCapital : ∀ letter ∈ word.toList, letter.isUpper = false :=
    fun letter isLetter => isUpper_of_isLower (small letter isLetter)
  have lowered : written.toList.map Char.toLower = word.toList :=
    (map_toLower_eq_iff noCapital).mpr spelled
  exact isBlankChar_of_toLower (small _ (lowered ▸ List.mem_map_of_mem member))

end Letters

/-! ## The words of a text -/

/-- Whether a text has these words, with blanks between them and perhaps around them. -/
inductive HasWords :
    List Char →
    List (List Char) →
    Prop
  | none {text : List Char}
      (allBlank : ∀ c ∈ text, isBlankChar c = true) :
      HasWords text []
  | word {front word rest : List Char} {words : List (List Char)}
      (frontBlank : ∀ c ∈ front, isBlankChar c = true)
      (noBlanks : ∀ c ∈ word, isBlankChar c = false)
      (someWord : word ≠ [])
      (ends : ∀ c ∈ rest.head?, isBlankChar c = true)
      (more : HasWords rest words) :
      HasWords (front ++ word ++ rest) (word :: words)

section Words

variable {front word rest text : List Char} {found : List (List Char)} {written name : String}

theorem wordsOf_blank_append
    (frontBlank : ∀ c ∈ front, isBlankChar c = true)
    (text : List Char) :
    wordsOf (front ++ text) = wordsOf text := by
  have sameFront : trimFront (front ++ text) = trimFront text :=
    List.dropWhile_append_of_pos frontBlank
  rw [← wordsOf_trimFront, sameFront, wordsOf_trimFront]

/-- Characters that are not blank are added to the word that is being read. -/
theorem wordsFrom_append
    (noBlanks : ∀ c ∈ word, isBlankChar c = false)
    (current rest : List Char) :
    wordsFrom current (word ++ rest) = wordsFrom (word.reverse ++ current) rest := by
  induction word generalizing current with
  | nil =>
      rfl
  | cons c behind inductionHypothesis =>
      obtain ⟨notBlank, behindNoBlanks⟩ := List.forall_mem_cons.mp noBlanks
      simp [wordsFrom, notBlank, inductionHypothesis behindNoBlanks]

/-- A word that is being read ends with the text or with a blank. -/
theorem wordsFrom_of_ends
    {current : List Char}
    (someCurrent : current ≠ [])
    (ends : ∀ c ∈ rest.head?, isBlankChar c = true) :
    wordsFrom current rest = current.reverse :: wordsOf rest := by
  cases rest with
  | nil =>
      simp [wordsOf, wordsFrom, someCurrent]
  | cons c behind =>
      have blank : isBlankChar c = true := ends c rfl
      simp [wordsOf, wordsFrom, someCurrent, blank]

theorem HasWords.wordsOf_eq
    (hasWords : HasWords text found) :
    wordsOf text = found := by
  induction hasWords with
  | none allBlank =>
      have nothing := wordsOf_blank_append allBlank []
      rwa [List.append_nil] at nothing
  | @word front word rest words frontBlank noBlanks someWord ends _ inductionHypothesis =>
      have someCurrent : word.reverse ++ [] ≠ [] := by simpa using someWord
      rw [List.append_assoc, wordsOf_blank_append frontBlank, wordsOf, wordsFrom_append noBlanks,
        wordsFrom_of_ends someCurrent ends, inductionHypothesis, List.append_nil,
        List.reverse_reverse]

/-- A text that is not blank has a first word, which ends with the text or at a blank. -/
theorem exists_firstWord
    (solid : ¬ ∀ c ∈ text, isBlankChar c = true) :
    ∃ front word rest,
      (∀ c ∈ front, isBlankChar c = true) ∧ (∀ c ∈ word, isBlankChar c = false) ∧
        word ≠ [] ∧ (∀ c ∈ rest.head?, isBlankChar c = true) ∧ text = front ++ word ++ rest := by
  let solidChar (c : Char) : Bool := !isBlankChar c
  have stopsFront := List.head?_dropWhile_not isBlankChar text
  have stopsWord := List.head?_dropWhile_not solidChar (text.dropWhile isBlankChar)
  refine ⟨text.takeWhile isBlankChar, (text.dropWhile isBlankChar).takeWhile solidChar,
    (text.dropWhile isBlankChar).dropWhile solidChar, fun _ => List.mem_takeWhile_imp,
    fun c member => ?_, ?_, fun c isFirst => ?_, ?_⟩
  · simpa [solidChar] using List.mem_takeWhile_imp member
  · have someRest : text.dropWhile isBlankChar ≠ [] := by
      rwa [Ne, List.dropWhile_eq_nil_iff]
    obtain ⟨c, behind, startsWith⟩ := List.exists_cons_of_ne_nil someRest
    rw [startsWith] at stopsFront ⊢
    have notBlank : isBlankChar c = false := stopsFront
    simp [solidChar, notBlank]
  · rw [Option.mem_def.mp isFirst] at stopsWord
    simpa [solidChar] using stopsWord
  · rw [List.append_assoc, List.takeWhile_append_dropWhile, List.takeWhile_append_dropWhile]

/-- Every text has words: a first one and those of what follows it, which is shorter. -/
theorem exists_hasWords
    (text : List Char) :
    ∃ found, HasWords text found := by
  by_cases allBlank : ∀ c ∈ text, isBlankChar c = true
  · exact ⟨[], .none allBlank⟩
  · obtain ⟨front, word, rest, frontBlank, noBlanks, someWord, ends, here⟩ :=
      exists_firstWord allBlank
    have shorter : rest.length < text.length := by
      have wordLength := List.length_pos_iff.mpr someWord
      rw [here, List.length_append, List.length_append]
      omega
    obtain ⟨words, more⟩ := exists_hasWords rest
    exact ⟨word :: words, here ▸ .word frontBlank noBlanks someWord ends more⟩
termination_by text.length

theorem hasWords_wordsOf
    (text : List Char) :
    HasWords text (wordsOf text) := by
  obtain ⟨found, hasWords⟩ := exists_hasWords text
  rwa [hasWords.wordsOf_eq]

/-- The words that are read of a text are the words that it has. -/
theorem wordsOf_eq_iff :
    wordsOf text = found ↔ HasWords text found := by
  constructor
  · rintro rfl
    exact hasWords_wordsOf text
  · exact HasWords.wordsOf_eq

instance
    (text : List Char)
    (found : List (List Char)) :
    Decidable (HasWords text found) :=
  decidable_of_iff (wordsOf text = found) wordsOf_eq_iff

/-! ## Names -/

/-- Whether a text names something: its words, joined by low lines, spell the name. -/
def Names
    (written name : String) :
    Prop :=
  ∃ words, HasWords written.toList words ∧
    Spells (String.ofList (List.intercalate ['_'] words)) name

theorem names_iff :
    Names written name ↔
      Spells (String.ofList (List.intercalate ['_'] (wordsOf written.toList))) name := by
  constructor
  · rintro ⟨words, hasWords, spelled⟩
    rwa [hasWords.wordsOf_eq]
  · intro spelled
    exact ⟨_, hasWords_wordsOf _, spelled⟩

instance
    (written name : String) :
    Decidable (Names written name) :=
  decidable_of_iff _ names_iff.symm

/-- Blanks and low lines are one between words, but inside a name a low line is required. -/
example :
    Names " Did  NOT_answer " "did_not_answer" ∧ ¬ Names "didnotanswer" "did_not_answer" := by
  decide

theorem intercalate_words
    (written : String) :
    String.intercalate "_" (words written) =
      String.ofList (List.intercalate ['_'] (wordsOf written.toList)) := by
  have sameWords : (words written).map String.toList = wordsOf written.toList := by
    simp [words, Function.comp_def]
  rw [← String.toList_inj, String.toList_intercalate, sameWords, String.toList_ofList,
    String.toList_ofList]

/-- A name is told from the words of a text without regard to case where the text names it. -/
theorem lowerAscii_intercalate_words_eq_iff
    (noCapital : name.toList.any Char.isUpper = false) :
    lowerAscii (String.intercalate "_" (words written)) = name ↔ Names written name := by
  rw [lowerAscii_eq_iff noCapital, intercalate_words, names_iff]

end Words

end Fieldwork.Text
