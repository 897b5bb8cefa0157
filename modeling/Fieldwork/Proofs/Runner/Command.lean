import Fieldwork.Proofs.Except
import Fieldwork.Proofs.Spelling
import Fieldwork.Runner.Command

namespace Fieldwork

/-!
# Commands that are read as they were written

A line is read by its parts: blanks, a word, more blanks and what stands behind them up to
the blanks at the end.  Every line has these parts, and has them in one way, so that an
entry is read of a line exactly where the line writes its verb and its value.  The case of
letters is taken from the verb alone, and of the value no character is touched.
-/

namespace Command

/-! ## The parts of a line -/

/--
Whether a text has a word between blanks, and behind more blanks a value that goes with
the word.  A word without a value goes with the empty text.
-/
inductive HasParts :
    List Char →
    List Char →
    List Char →
    Prop
  | alone {front word back : List Char}
      (frontBlank : ∀ c ∈ front, Text.isBlankChar c = true)
      (noBlanks : ∀ c ∈ word, Text.isBlankChar c = false)
      (backBlank : ∀ c ∈ back, Text.isBlankChar c = true) :
      HasParts (front ++ word ++ back) word []
  | valued {front word gap value back : List Char}
      (frontBlank : ∀ c ∈ front, Text.isBlankChar c = true)
      (noBlanks : ∀ c ∈ word, Text.isBlankChar c = false)
      (someWord : word ≠ [])
      (gapBlank : ∀ c ∈ gap, Text.isBlankChar c = true)
      (someGap : gap ≠ [])
      (tight : Text.IsTight value)
      (someValue : value ≠ [])
      (backBlank : ∀ c ∈ back, Text.isBlankChar c = true) :
      HasParts (front ++ (word ++ gap ++ value) ++ back) word value

variable {line word value : List Char}

theorem splitVerb_of_noBlanks
    (noBlanks : ∀ c ∈ word, Text.isBlankChar c = false) :
    splitVerb word = (word, []) := by
  rw [splitVerb, Text.splitFirst_eq_none_iff.mpr noBlanks]

theorem splitVerb_of_blank
    {c : Char}
    (noBlanks : ∀ other ∈ word, Text.isBlankChar other = false)
    (blank : Text.isBlankChar c = true)
    (rest : List Char) :
    splitVerb (word ++ c :: rest) = (word, Text.trimChars rest) := by
  rw [splitVerb, Text.splitFirst_eq_some_iff.mpr ⟨c, blank, rfl, noBlanks⟩]

/-- Trimming and splitting find the parts that a line has, so it has them in one way. -/
theorem HasParts.splitVerb_eq
    (parts : HasParts line word value) :
    splitVerb (Text.trimChars line) = (word, value) := by
  cases parts with
  | alone frontBlank noBlanks backBlank =>
      rw [Text.trimChars_surrounded frontBlank backBlank,
        (Text.IsTight.of_noBlanks noBlanks).trimChars_eq, splitVerb_of_noBlanks noBlanks]
  | @valued front _ gap _ back frontBlank noBlanks someWord gapBlank someGap tight someValue
      backBlank =>
      have core : Text.IsTight (word ++ gap ++ value) :=
        (Text.IsTight.of_noBlanks noBlanks).append_append someWord gap tight someValue
      obtain ⟨c, gapRest, rfl⟩ := List.exists_cons_of_ne_nil someGap
      obtain ⟨blank, restBlank⟩ := List.forall_mem_cons.mp gapBlank
      have valueLeft : Text.trimChars (gapRest ++ value) = value := by
        have surrounded := Text.trimChars_surrounded restBlank (List.forall_mem_nil _) value
        rwa [List.append_nil, tight.trimChars_eq] at surrounded
      rw [Text.trimChars_surrounded frontBlank backBlank, core.trimChars_eq, List.append_assoc,
        List.cons_append, splitVerb_of_blank noBlanks blank, valueLeft]

/-- Every line has its parts. -/
theorem exists_parts
    (line : List Char) :
    ∃ word value, HasParts line word value := by
  obtain ⟨front, back, frontBlank, backBlank, here⟩ := Text.exists_surrounded line
  have core := Text.isTight_trimChars line
  cases split : Text.splitFirst Text.isBlankChar (Text.trimChars line) with
  | none =>
      have noBlanks := Text.splitFirst_eq_none_iff.mp split
      have parts := HasParts.alone frontBlank noBlanks backBlank
      rw [← here] at parts
      exact ⟨_, _, parts⟩
  | some found =>
      obtain ⟨word, rest⟩ := found
      obtain ⟨c, blank, isCore, noBlanks⟩ := Text.splitFirst_eq_some_iff.mp split
      obtain ⟨gap, behind, gapBlank, behindBlank, isRest⟩ := Text.exists_surrounded rest
      rw [isCore] at here core
      have someWord : word ≠ [] := by
        rintro rfl
        simp [core.first c rfl] at blank
      have someValue : Text.trimChars rest ≠ [] := by
        intro noValue
        have allBlank : ∀ other ∈ c :: rest, Text.isBlankChar other = true :=
          List.forall_mem_cons.mpr ⟨blank, Text.trimChars_eq_nil_iff.mp noValue⟩
        obtain ⟨other, member, notBlank⟩ := core.exists_notBlank (List.cons_ne_nil c rest)
        simp [allBlank other member] at notBlank
      have parts :=
        HasParts.valued frontBlank noBlanks someWord
          (List.forall_mem_cons.mpr ⟨blank, gapBlank⟩) (List.cons_ne_nil c gap)
          (Text.isTight_trimChars rest) someValue
          (List.forall_mem_append.mpr ⟨behindBlank, backBlank⟩)
      -- the blanks behind the value are blanks behind the line as well
      have sameLine :
          front ++ (word ++ c :: gap ++ Text.trimChars rest) ++ (behind ++ back) = line := by
        rw [here]
        conv_rhs => rw [isRest]
        simp
      exact ⟨_, _, sameLine ▸ parts⟩

/-- A line is read by the parts that it has. -/
theorem HasParts.ofLine_eq
    {line : String}
    {word value : List Char}
    (parts : HasParts line.toList word value) :
    ofLine line = ofWords (String.ofList word) (String.ofList value) := by
  rw [ofLine, parts.splitVerb_eq]

/-- Blanks around a line do not matter. -/
theorem ofLine_surrounded
    {front back : String}
    (frontBlank : Text.isBlank front = true)
    (backBlank : Text.isBlank back = true)
    (line : String) :
    ofLine (front ++ line ++ back) = ofLine line := by
  rw [ofLine, String.toList_append, String.toList_append,
    Text.trimChars_surrounded (Text.isBlank_iff.mp frontBlank) (Text.isBlank_iff.mp backBlank),
    ofLine]

theorem ofLine_trim
    (line : String) :
    ofLine (Text.trim line) = ofLine line := by
  rw [ofLine, Text.trim, String.toList_ofList, Text.trimChars_trimChars, ofLine]

/-! ## Entries by their verbs -/

/-- The verbs of the entries that take a value as it is written. -/
inductive EntryVerb where
  | select
  | text
  | number
  deriving DecidableEq, Repr

namespace EntryVerb

def name :
    EntryVerb →
    String
  | select => "select"
  | text => "text"
  | number => "number"

/-- The command that enters a value. -/
def command :
    EntryVerb →
    String →
    Command
  | select, value => .enter (.select value)
  | text, value => .enter (.text value)
  | number, value => .enter (.number value)

variable {verb : EntryVerb}

theorem isLower_of_mem_name
    (verb : EntryVerb) :
    ∀ letter ∈ verb.name.toList, letter.isLower = true :=
  List.all_eq_true.mp (by cases verb <;> decide)

theorem noCapital_name
    (verb : EntryVerb) :
    verb.name.toList.any Char.isUpper = false := by
  cases verb <;> decide

theorem name_ne_empty
    (verb : EntryVerb) :
    verb.name ≠ "" := by
  cases verb <;> decide

end EntryVerb

variable {verb : EntryVerb} {word value entered shown : String}

theorem requireValue_eq_ok_iff :
    requireValue word value = .ok entered ↔ value ≠ "" ∧ value = entered := by
  unfold requireValue
  split <;> simp_all

theorem requireValue_eq_error_iff
    {fault : CommandFault} :
    requireValue word value = .error fault ↔ value = "" ∧ .valueMissing word = fault := by
  unfold requireValue
  split <;> simp_all

/-- Behind the verb of an entry a value is required, and entered. -/
theorem ofWords_of_spells
    (spelled : Text.Spells word verb.name) :
    ofWords word value = (requireValue word value).map verb.command := by
  have lowered : Text.lowerAscii word = verb.name :=
    (Text.lowerAscii_eq_iff verb.noCapital_name).mpr spelled
  unfold ofWords
  rw [lowered]
  cases verb <;> rfl

theorem readTruth_error
    {fault : CommandFault}
    (refused : readTruth value = .error fault) :
    fault = .truthMissing := by
  unfold readTruth at refused
  split at refused <;> cases refused
  rfl

/-- Behind every other word no value is entered, and none is missed. -/
theorem ofWords_of_spells_none
    (noVerb : ∀ verb : EntryVerb, ¬ Text.Spells word verb.name) :
    (∀ verb entered, ofWords word value ≠ .ok (EntryVerb.command verb entered)) ∧
      ∀ shown, ofWords word value ≠ .error (.valueMissing shown) := by
  have notName (verb : EntryVerb) : Text.lowerAscii word ≠ verb.name :=
    fun lowered => noVerb verb ((Text.lowerAscii_eq_iff verb.noCapital_name).mp lowered)
  unfold ofWords
  split
  case h_3 lowered => exact absurd lowered (notName .select)
  case h_4 lowered => exact absurd lowered (notName .text)
  case h_5 lowered => exact absurd lowered (notName .number)
  case h_6 =>
    constructor
    · intro verb entered reads
      obtain ⟨checked, _, isEntry⟩ := Except.map_eq_ok_iff.mp reads
      cases verb <;> simp [EntryVerb.command] at isEntry
    · intro shown refused
      cases readTruth_error (Except.map_eq_error_iff.mp refused)
  -- the other words are read as a command without a value, or are refused as unknown
  all_goals
    refine ⟨fun verb entered => ?_, fun shown => by simp⟩
    cases verb <;> simp [EntryVerb.command]

theorem EntryVerb.command_inj
    {other : EntryVerb} :
    other.command value = verb.command entered ↔ other = verb ∧ value = entered := by
  cases other <;> cases verb <;> simp [command]

/-- An entry is read where a word spells its verb and its value stands behind. -/
theorem ofWords_eq_ok_iff :
    ofWords word value = .ok (verb.command entered) ↔
      Text.Spells word verb.name ∧ value ≠ "" ∧ value = entered := by
  constructor
  · intro reads
    by_cases isVerb : ∃ other : EntryVerb, Text.Spells word other.name
    · obtain ⟨other, spelled⟩ := isVerb
      rw [ofWords_of_spells spelled] at reads
      obtain ⟨given, required, isEntry⟩ := Except.map_eq_ok_iff.mp reads
      obtain ⟨rfl, rfl⟩ := EntryVerb.command_inj.mp isEntry
      exact ⟨spelled, requireValue_eq_ok_iff.mp required⟩
    · exact absurd reads ((ofWords_of_spells_none (not_exists.mp isVerb)).1 verb entered)
  · rintro ⟨spelled, someValue, rfl⟩
    rw [ofWords_of_spells spelled, requireValue_eq_ok_iff.mpr ⟨someValue, rfl⟩]
    rfl

/-- A value is missed where a word spells the verb of an entry and nothing stands behind. -/
theorem ofWords_eq_valueMissing_iff :
    ofWords word value = .error (.valueMissing shown) ↔
      (∃ verb : EntryVerb, Text.Spells word verb.name) ∧ value = "" ∧ word = shown := by
  constructor
  · intro refused
    by_cases isVerb : ∃ verb : EntryVerb, Text.Spells word verb.name
    · obtain ⟨verb, spelled⟩ := isVerb
      rw [ofWords_of_spells spelled, Except.map_eq_error_iff, requireValue_eq_error_iff] at refused
      obtain ⟨noValue, same⟩ := refused
      exact ⟨⟨verb, spelled⟩, noValue, CommandFault.valueMissing.inj same⟩
    · exact absurd refused ((ofWords_of_spells_none (not_exists.mp isVerb)).2 shown)
  · rintro ⟨⟨verb, spelled⟩, noValue, rfl⟩
    rw [ofWords_of_spells spelled, Except.map_eq_error_iff]
    exact requireValue_eq_error_iff.mpr ⟨noValue, rfl⟩

/-! ## Writing entries -/

/-- A way to write an entry: the case of its verb, and the blanks around its parts. -/
structure Layout
    (verb : EntryVerb) where
  front : String
  spelling : String
  gap : String
  back : String
  frontBlank : Text.isBlank front = true
  spelled : Text.Spells spelling verb.name
  gapBlank : Text.isBlank gap = true
  someGap : gap ≠ ""
  backBlank : Text.isBlank back = true

/-- The line of an entry. -/
def Layout.write
    (layout : Layout verb)
    (value : String) :
    String :=
  layout.front ++ (layout.spelling ++ layout.gap ++ value) ++ layout.back

/-- A value that can be written: a text that is not empty and has no blank at either end. -/
structure IsWritable
    (value : String) :
    Prop where
  nonempty : value ≠ ""
  tight : Text.IsTight value.toList

instance
    (value : String) :
    Decidable (IsWritable value) :=
  decidable_of_iff (value ≠ "" ∧ Text.IsTight value.toList)
    ⟨fun ⟨nonempty, tight⟩ => ⟨nonempty, tight⟩, fun ⟨nonempty, tight⟩ => ⟨nonempty, tight⟩⟩

theorem Layout.hasParts
    (layout : Layout verb)
    (writable : IsWritable value) :
    HasParts (layout.write value).toList layout.spelling.toList value.toList := by
  have noBlanks := layout.spelled.noBlanks verb.isLower_of_mem_name
  have someSpelling : layout.spelling.toList ≠ [] := by
    intro noSpelling
    have spelled := layout.spelled
    rw [Text.Spells, noSpelling, List.forall₂_nil_left_iff, String.toList_eq_nil_iff] at spelled
    exact verb.name_ne_empty spelled
  rw [write, String.toList_append, String.toList_append, String.toList_append, String.toList_append]
  exact .valued (Text.isBlank_iff.mp layout.frontBlank) noBlanks someSpelling
    (Text.isBlank_iff.mp layout.gapBlank) (String.toList_eq_nil_iff.not.mpr layout.someGap)
    writable.tight (String.toList_eq_nil_iff.not.mpr writable.nonempty)
    (Text.isBlank_iff.mp layout.backBlank)

/-- A line with the parts of an entry is one of the ways to write it. -/
theorem HasParts.exists_layout
    {line word value : List Char}
    (parts : HasParts line word value)
    (spelled : Text.Spells (String.ofList word) verb.name)
    (someValue : value ≠ []) :
    IsWritable (String.ofList value) ∧
      ∃ layout : Layout verb, layout.write (String.ofList value) = String.ofList line := by
  cases parts with
  | alone =>
      exact absurd rfl someValue
  | @valued front _ gap _ back frontBlank _ _ gapBlank someGap tight _ backBlank =>
      refine ⟨⟨String.ofList_eq_empty_iff.not.mpr someValue, by rwa [String.toList_ofList]⟩, ?_⟩
      refine ⟨⟨String.ofList front, String.ofList word, String.ofList gap, String.ofList back,
        Text.isBlank_ofList frontBlank, spelled, Text.isBlank_ofList gapBlank,
        String.ofList_eq_empty_iff.not.mpr someGap, Text.isBlank_ofList backBlank⟩, ?_⟩
      simp only [Layout.write, String.ofList_append]

/-- A line without a value has one word, or none, between blanks. -/
theorem HasParts.exists_around
    {line word : List Char}
    (parts : HasParts line word []) :
    ∃ front back,
      Text.isBlank front = true ∧ Text.isBlank back = true ∧
        front ++ String.ofList word ++ back = String.ofList line := by
  cases parts with
  | @alone front _ back frontBlank _ backBlank =>
      refine ⟨String.ofList front, String.ofList back, Text.isBlank_ofList frontBlank,
        Text.isBlank_ofList backBlank, ?_⟩
      simp only [String.ofList_append]
  | valued _ _ _ _ _ _ someValue =>
      exact absurd rfl someValue

/-! ## Reading entries -/

/-- An entry is read of the lines that write it, and of no other line. -/
theorem ofLine_eq_command_iff
    {line : String} :
    ofLine line = .ok (verb.command value) ↔
      IsWritable value ∧ ∃ layout : Layout verb, layout.write value = line := by
  constructor
  · intro reads
    obtain ⟨word, entered, parts⟩ := exists_parts line.toList
    rw [parts.ofLine_eq, ofWords_eq_ok_iff] at reads
    obtain ⟨spelled, someValue, rfl⟩ := reads
    have written := parts.exists_layout spelled (String.ofList_eq_empty_iff.not.mp someValue)
    rwa [String.ofList_toList] at written
  · rintro ⟨writable, layout, rfl⟩
    rw [(layout.hasParts writable).ofLine_eq, String.ofList_toList, String.ofList_toList]
    exact ofWords_eq_ok_iff.mpr ⟨layout.spelled, writable.nonempty, rfl⟩

/-- A value is missed in the lines of the verbs alone, and in no other line. -/
theorem ofLine_eq_valueMissing_iff
    {line : String} :
    ofLine line = .error (.valueMissing shown) ↔
      (∃ verb : EntryVerb, Text.Spells shown verb.name) ∧
        ∃ front back,
          Text.isBlank front = true ∧ Text.isBlank back = true ∧ front ++ shown ++ back = line := by
  constructor
  · intro refused
    obtain ⟨word, value, parts⟩ := exists_parts line.toList
    rw [parts.ofLine_eq, ofWords_eq_valueMissing_iff] at refused
    obtain ⟨isVerb, noValue, rfl⟩ := refused
    obtain rfl := String.ofList_eq_empty_iff.mp noValue
    have around := parts.exists_around
    rw [String.ofList_toList] at around
    exact ⟨isVerb, around⟩
  · rintro ⟨⟨verb, spelled⟩, front, back, frontBlank, backBlank, rfl⟩
    have parts : HasParts (front ++ shown ++ back).toList shown.toList [] := by
      rw [String.toList_append, String.toList_append]
      exact .alone (Text.isBlank_iff.mp frontBlank)
        (spelled.noBlanks verb.isLower_of_mem_name) (Text.isBlank_iff.mp backBlank)
    rw [parts.ofLine_eq, String.ofList_toList]
    exact ofWords_eq_valueMissing_iff.mpr ⟨⟨verb, spelled⟩, rfl, rfl⟩

/--
An entry is read of a line exactly where the line writes it: its verb in any case of the
letters, its value as it is behind blanks, and blanks around both.  A value is missed
exactly in the lines that have the verb of an entry between blanks and nothing else, and
to miss it is a failure of validation.  Whatever a line is read as, blanks around it do
not matter, and trimming it does not either.
-/
theorem entries_are_read_as_written :
    (∀ verb value line,
      ofLine line = .ok (EntryVerb.command verb value) ↔
        IsWritable value ∧ ∃ layout : Layout verb, layout.write value = line) ∧
      (∀ spelling line,
        ofLine line = .error (.valueMissing spelling) ↔
          (∃ verb : EntryVerb, Text.Spells spelling verb.name) ∧
            ∃ front back,
              Text.isBlank front = true ∧ Text.isBlank back = true ∧
                front ++ spelling ++ back = line) ∧
      (∀ spelling, (CommandFault.valueMissing spelling).kind = .validation) ∧
      (∀ front line back, Text.isBlank front = true → Text.isBlank back = true →
        ofLine (front ++ line ++ back) = ofLine line) ∧
      ∀ line, ofLine (Text.trim line) = ofLine line :=
  ⟨fun _ _ _ => ofLine_eq_command_iff, fun _ _ => ofLine_eq_valueMissing_iff, fun _ => rfl,
    fun _ line _ frontBlank backBlank => ofLine_surrounded frontBlank backBlank line, ofLine_trim⟩

/-- An em space in front, a tab and two spaces behind the verb, and a line break at the end. -/
def gateNoteLayout : Layout .text where
  front := "\u2003"
  spelling := "TeXt"
  gap := "\t  "
  back := " \n"
  frontBlank := by decide +kernel
  spelled := by decide +kernel
  gapBlank := by decide +kernel
  someGap := by decide
  backBlank := by decide +kernel

/-- A note keeps its capitals, its spaces and its no-break space, and blanks are no number. -/
theorem entries_are_read_as_written_gate_note :
    IsWritable "Gate  Code\u00a012" ∧
      ofLine "\u2003TeXt\t  Gate  Code\u00a012 \n" =
        .ok (.enter (.text "Gate  Code\u00a012")) ∧
      ofLine " Number\u3000" = .error (.valueMissing "Number") ∧
      (Text.isBlank "\u2003" = true ∧ Text.isBlank " \n" = true) ∧
      ofLine ("\u2003" ++ "check YES" ++ " \n") = ofLine "check YES" := by
  obtain ⟨reads, misses, -, surrounded, -⟩ := entries_are_read_as_written
  have writable : IsWritable "Gate  Code\u00a012" := by decide +kernel
  have blankFront : Text.isBlank "\u2003" = true := by decide +kernel
  have blankBack : Text.isBlank " \n" = true := by decide +kernel
  refine ⟨writable, (reads .text _ _).mpr ⟨writable, gateNoteLayout, by decide +kernel⟩,
    (misses _ _).mpr ⟨⟨.number, by decide +kernel⟩, " ", "\u3000", by decide +kernel,
      by decide +kernel, by decide +kernel⟩, ⟨blankFront, blankBack⟩,
    surrounded _ _ _ blankFront blankBack⟩

end Command

end Fieldwork
