import Mathlib.Data.List.DropRight
import Fieldwork.Text.Blank

namespace Fieldwork.Text

/-!
# Texts without the blanks around them

Trimming leaves nothing of a text exactly where the text is blank, and it leaves
the words of the text as they are.  A text is told from its blanks by its tight part,
which has no blank at either end, and from what follows it by the first mark.
-/

/-! ## Trimming -/

/-- Whether a text has no blank at either end. -/
structure IsTight
    (text : List Char) :
    Prop where
  first : ∀ c ∈ text.head?, isBlankChar c = false
  last : ∀ c ∈ text.getLast?, isBlankChar c = false

theorem isTight_iff
    {text : List Char} :
    IsTight text ↔
      text.head?.any isBlankChar = false ∧ text.getLast?.any isBlankChar = false := by
  rw [Option.any_eq_false, Option.any_eq_false]
  exact ⟨fun ⟨first, last⟩ => ⟨first, last⟩, fun ⟨first, last⟩ => ⟨first, last⟩⟩

instance
    (text : List Char) :
    Decidable (IsTight text) :=
  decidable_of_iff
    (text.head?.any isBlankChar = false ∧ text.getLast?.any isBlankChar = false)
    isTight_iff.symm

theorem trimBack_eq_rdropWhile
    (text : List Char) :
    trimBack text = text.rdropWhile isBlankChar :=
  rfl

/-- Trimming drops every character exactly where all of them are blank. -/
theorem trimChars_eq_nil_iff
    {text : List Char} :
    trimChars text = [] ↔ ∀ c ∈ text, isBlankChar c = true := by
  unfold trimChars trimFront
  rw [trimBack_eq_rdropWhile, List.rdropWhile_eq_nil_iff]
  have split : text.takeWhile isBlankChar ++ text.dropWhile isBlankChar = text :=
    List.takeWhile_append_dropWhile
  constructor
  · intro restBlank c member
    rw [← split, List.mem_append] at member
    rcases member with inFront | inRest
    · exact List.mem_takeWhile_imp inFront
    · exact restBlank c inRest
  · intro allBlank c inRest
    exact allBlank c ((List.dropWhile_sublist _).subset inRest)

theorem IsTight.of_noBlanks
    {text : List Char}
    (noBlanks : ∀ c ∈ text, isBlankChar c = false) :
    IsTight text where
  first := fun c isFirst => noBlanks c (List.mem_of_head? isFirst)
  last := fun c isLast => noBlanks c (List.mem_of_getLast? isLast)

/-- Between two tight texts that are not empty anything may stand. -/
theorem IsTight.append_append
    {front back : List Char}
    (frontTight : IsTight front)
    (someFront : front ≠ [])
    (middle : List Char)
    (backTight : IsTight back)
    (someBack : back ≠ []) :
    IsTight (front ++ middle ++ back) where
  first := by
    intro c isFirst
    rw [List.append_assoc, List.head?_append_of_ne_nil _ someFront] at isFirst
    exact frontTight.first c isFirst
  last := by
    intro c isLast
    rw [List.getLast?_append_of_ne_nil _ someBack] at isLast
    exact backTight.last c isLast

/-- A tight text does not go on with blanks only. -/
theorem IsTight.exists_notBlank
    {text rest : List Char}
    (tight : IsTight (text ++ rest))
    (someRest : rest ≠ []) :
    ∃ c ∈ rest, isBlankChar c = false := by
  have isLast : rest.getLast someRest ∈ (text ++ rest).getLast? := by
    rw [List.getLast?_append_of_ne_nil _ someRest]
    exact List.getLast_mem_getLast? someRest
  exact ⟨_, List.getLast_mem someRest, tight.last _ isLast⟩

/-- A text without blanks at its ends is left as it is. -/
theorem IsTight.trimChars_eq
    {text : List Char}
    (tight : IsTight text) :
    trimChars text = text := by
  have front : trimFront text = text := by
    cases text with
    | nil =>
        rfl
    | cons c rest =>
        exact List.dropWhile_cons_of_neg (by simp [tight.first c rfl])
  rw [trimChars, front, trimBack_eq_rdropWhile, List.rdropWhile_eq_self_iff]
  intro nonempty
  simp [tight.last _ (List.getLast_mem_getLast? nonempty)]

/-- What is left by trimming has no blank at either end. -/
theorem isTight_trimChars
    (text : List Char) :
    IsTight (trimChars text) where
  first := by
    intro c isFirst
    obtain ⟨dropped, here⟩ : trimChars text <+: trimFront text := List.rdropWhile_prefix _ _
    have startsRest : (text.dropWhile isBlankChar).head? = some c := by
      rw [← trimFront, ← here, List.head?_append, isFirst, Option.some_or]
    have stops := List.head?_dropWhile_not isBlankChar text
    rwa [startsRest] at stops
  last := by
    intro c isLast
    obtain ⟨nonempty, rfl⟩ := List.mem_getLast?_eq_getLast isLast
    exact Bool.eq_false_iff.mpr (List.rdropWhile_last_not isBlankChar (trimFront text) nonempty)

theorem trimChars_trimChars
    (text : List Char) :
    trimChars (trimChars text) = trimChars text :=
  (isTight_trimChars text).trimChars_eq

/-- Blanks around a text do not change what is left of it. -/
theorem trimChars_surrounded
    {front back : List Char}
    (frontBlank : ∀ c ∈ front, isBlankChar c = true)
    (backBlank : ∀ c ∈ back, isBlankChar c = true)
    (text : List Char) :
    trimChars (front ++ text ++ back) = trimChars text := by
  have dropsFront : trimFront (front ++ text ++ back) = trimFront (text ++ back) := by
    rw [List.append_assoc]
    exact List.dropWhile_append_of_pos frontBlank
  have dropsBack (kept : List Char) : trimBack (kept ++ back) = trimBack kept := by
    have reversedBlank : ∀ c ∈ back.reverse, isBlankChar c = true := by
      simpa using backBlank
    rw [trimBack, trimBack, List.reverse_append, List.dropWhile_append_of_pos reversedBlank]
  by_cases textBlank : ∀ c ∈ text, isBlankChar c = true
  · have allBlank : ∀ c ∈ text ++ back, isBlankChar c = true :=
      List.forall_mem_append.mpr ⟨textBlank, backBlank⟩
    rw [trimChars, dropsFront, trimChars_eq_nil_iff.mpr textBlank]
    exact trimChars_eq_nil_iff.mpr allBlank
  · have keepsBack : trimFront (text ++ back) = trimFront text ++ back := by
      rw [trimFront, List.dropWhile_append, if_neg, trimFront]
      rwa [List.isEmpty_iff, List.dropWhile_eq_nil_iff]
    rw [trimChars, dropsFront, keepsBack, dropsBack, trimChars]

/-- A text is what trimming leaves of it, between blanks. -/
theorem exists_surrounded
    (text : List Char) :
    ∃ front back,
      (∀ c ∈ front, isBlankChar c = true) ∧ (∀ c ∈ back, isBlankChar c = true) ∧
        text = front ++ trimChars text ++ back := by
  refine ⟨text.takeWhile isBlankChar, (trimFront text).rtakeWhile isBlankChar,
    fun _ => List.mem_takeWhile_imp, fun _ => List.mem_rtakeWhile_imp, ?_⟩
  rw [trimChars, trimBack_eq_rdropWhile, List.append_assoc, List.rdropWhile_append_rtakeWhile]
  exact List.takeWhile_append_dropWhile.symm

/-- Whether a text is another one, which has no blank at either end, between blanks. -/
def Encloses
    (text core : String) :
    Prop :=
  ∃ front back,
    (∀ c ∈ front, isBlankChar c = true) ∧ (∀ c ∈ back, isBlankChar c = true) ∧
      IsTight core.toList ∧ text.toList = front ++ core.toList ++ back

/-- Trimming leaves what a text encloses. -/
theorem trim_eq_iff
    {text core : String} :
    trim text = core ↔ Encloses text core := by
  constructor
  · rintro rfl
    obtain ⟨front, back, frontBlank, backBlank, here⟩ := exists_surrounded text.toList
    refine ⟨front, back, frontBlank, backBlank, ?_, ?_⟩
    · rw [trim, String.toList_ofList]
      exact isTight_trimChars _
    · rwa [trim, String.toList_ofList]
  · rintro ⟨front, back, frontBlank, backBlank, tight, here⟩
    rw [trim, here, trimChars_surrounded frontBlank backBlank, tight.trimChars_eq,
      String.ofList_toList]

instance
    (text core : String) :
    Decidable (Encloses text core) :=
  decidable_of_iff (trim text = core) trim_eq_iff

theorem encloses_trim
    (text : String) :
    Encloses text (trim text) :=
  trim_eq_iff.mp rfl

/-- Trimming leaves every character that is not blank. -/
theorem mem_trimChars
    {text : List Char}
    {c : Char}
    (notBlank : isBlankChar c = false)
    (member : c ∈ text) :
    c ∈ trimChars text := by
  obtain ⟨front, back, frontBlank, backBlank, here⟩ := exists_surrounded text
  rw [here, List.mem_append, List.mem_append] at member
  rcases member with (inFront | kept) | inBack
  · exact absurd (frontBlank c inFront) (by simp [notBlank])
  · exact kept
  · exact absurd (backBlank c inBack) (by simp [notBlank])

theorem isBlank_iff
    {text : String} :
    isBlank text = true ↔ ∀ c ∈ text.toList, isBlankChar c = true :=
  List.all_eq_true

theorem isBlank_ofList
    {text : List Char}
    (blank : ∀ c ∈ text, isBlankChar c = true) :
    isBlank (String.ofList text) = true := by
  rwa [isBlank_iff, String.toList_ofList]

theorem isEmpty_trim
    (text : String) :
    (trim text).isEmpty = isBlank text := by
  rw [Bool.eq_iff_iff, String.isEmpty_iff, trim, isBlank_iff, ← trimChars_eq_nil_iff,
    String.ofList_eq_empty_iff]

/-- Something is left of a text exactly where it is not blank. -/
theorem encloses_solid_iff
    {text core : String} :
    Encloses text core ∧ core ≠ "" ↔ isBlank text = false ∧ core = trim text := by
  rw [← trim_eq_iff, ← isEmpty_trim, ← Bool.not_eq_true, String.isEmpty_iff]
  constructor
  · rintro ⟨rfl, solid⟩
    exact ⟨solid, rfl⟩
  · rintro ⟨solid, rfl⟩
    exact ⟨rfl, solid⟩

/-! ## Words -/

/-- Blanks behind a text add no words, and end the last one. -/
theorem wordsFrom_append_blank
    {blanks : List Char}
    (blank : ∀ c ∈ blanks, isBlankChar c = true)
    (current text : List Char) :
    wordsFrom current (text ++ blanks) = wordsFrom current text := by
  induction text generalizing current with
  | nil =>
      rw [List.nil_append]
      induction blanks generalizing current with
      | nil =>
          rfl
      | cons c rest inductionHypothesis =>
          obtain ⟨cBlank, restBlank⟩ := List.forall_mem_cons.mp blank
          have noneLeft : wordsFrom [] rest = [] := inductionHypothesis restBlank []
          simp [wordsFrom, cBlank, noneLeft]
  | cons c rest inductionHypothesis =>
      rw [List.cons_append, wordsFrom, wordsFrom]
      simp only [inductionHypothesis]

theorem wordsOf_trimFront
    (text : List Char) :
    wordsOf (trimFront text) = wordsOf text := by
  unfold wordsOf trimFront
  induction text with
  | nil =>
      rfl
  | cons c rest inductionHypothesis =>
      by_cases blank : isBlankChar c = true
      · simp [blank, wordsFrom, inductionHypothesis]
      · simp [blank]

theorem wordsOf_trimBack
    (text : List Char) :
    wordsOf (trimBack text) = wordsOf text := by
  have split : trimBack text ++ text.rtakeWhile isBlankChar = text :=
    List.rdropWhile_append_rtakeWhile
  calc
    wordsOf (trimBack text) = wordsOf (trimBack text ++ text.rtakeWhile isBlankChar) :=
      (wordsFrom_append_blank (fun _ => List.mem_rtakeWhile_imp) [] _).symm
    _ = wordsOf text := by rw [split]

/-- The blanks around a text are in none of its words. -/
theorem words_trim
    (text : String) :
    words (trim text) = words text := by
  unfold words trim trimChars
  rw [String.toList_ofList, wordsOf_trimBack, wordsOf_trimFront]

/-! ## Splitting at the first mark -/

variable {mark : Char → Bool} {text before after : List Char}

/-- A text that is not split has no mark. -/
theorem splitFirst_eq_none_iff :
    splitFirst mark text = none ↔ ∀ c ∈ text, mark c = false := by
  induction text with
  | nil =>
      simp [splitFirst]
  | cons first rest inductionHypothesis =>
      by_cases marked : mark first = true
      · simp [splitFirst, marked]
      · simp [splitFirst, marked, inductionHypothesis]

theorem splitFirst_eq_some_iff :
    splitFirst mark text = some (before, after) ↔
      ∃ c, mark c = true ∧ text = before ++ c :: after ∧ ∀ other ∈ before, mark other = false := by
  induction text generalizing before with
  | nil =>
      simp [splitFirst]
  | cons first rest inductionHypothesis =>
      unfold splitFirst
      by_cases marked : mark first = true
      · rw [if_pos marked]
        constructor
        · rintro ⟨⟩
          exact ⟨first, marked, rfl, by simp⟩
        · rintro ⟨c, _, here, unmarked⟩
          cases before with
          | nil =>
              obtain ⟨_, rfl⟩ := List.cons.inj here
              rfl
          | cons head tail =>
              obtain ⟨rfl, _⟩ := List.cons.inj here
              simp [marked] at unmarked
      · rw [if_neg marked, Option.map_eq_some_iff]
        constructor
        · rintro ⟨⟨front, back⟩, split, same⟩
          obtain ⟨rfl, rfl⟩ := Prod.mk.inj same
          obtain ⟨c, isMark, rfl, unmarked⟩ := inductionHypothesis.mp split
          refine ⟨c, isMark, rfl, List.forall_mem_cons.mpr ⟨?_, unmarked⟩⟩
          simpa using marked
        · rintro ⟨c, isMark, here, unmarked⟩
          cases before with
          | nil =>
              obtain ⟨rfl, _⟩ := List.cons.inj here
              exact absurd isMark marked
          | cons head tail =>
              obtain ⟨rfl, rfl⟩ := List.cons.inj here
              have tailUnmarked := (List.forall_mem_cons.mp unmarked).2
              exact ⟨(tail, after), inductionHypothesis.mpr ⟨c, isMark, rfl, tailUnmarked⟩, rfl⟩

/-- A text is split at the first place of a character. -/
theorem splitFirst_char_eq_some_iff
    {c : Char} :
    splitFirst (· == c) text = some (before, after) ↔
      text = before ++ c :: after ∧ c ∉ before := by
  rw [splitFirst_eq_some_iff]
  constructor
  · rintro ⟨other, isMark, here, unmarked⟩
    obtain rfl := eq_of_beq isMark
    refine ⟨here, fun member => ?_⟩
    simpa using unmarked other member
  · rintro ⟨here, absent⟩
    refine ⟨c, beq_self_eq_true c, here, fun other member => ?_⟩
    exact beq_false_of_ne fun same => absent (same ▸ member)

end Fieldwork.Text
