import Fieldwork.Proofs.Form.Problems
import Fieldwork.Proofs.Form.Reopening
import Fieldwork.Proofs.Json.Stored
import Fieldwork.Proofs.Trimming

namespace Fieldwork

/-!
# Constraints on texts and choices

A text keeps the lengths and the pattern that its field declares, and in a field for an
address it is shaped like one.  Only texts are held to this: an answer of another kind
has no defect in such a field.  A choice is looked up among the options of its field,
and an answer that is no text is looked up as the empty text.
-/

/--
Whether a text is shaped like an address: a user, an at sign, a host without a point,
a point and the rest, which does not end with one.  None of the parts is empty, and
there is no other at sign and no blank.
-/
def IsEmailShaped
    (content : String) :
    Prop :=
  (∀ c ∈ content.toList, Text.isBlankChar c = false) ∧
    ∃ user host rest,
      content.toList = user ++ '@' :: (host ++ '.' :: rest) ∧
        '@' ∉ user ++ host ++ rest ∧ '.' ∉ host ∧
        user ≠ [] ∧ host ≠ [] ∧ rest ≠ [] ∧ rest.getLast? ≠ some '.'

/-- Whether a text keeps the lengths and the pattern of limits. -/
structure Limits.Admits
    (limits : Limits)
    (content : String) :
    Prop where
  longEnough :
    ∀ least, limits.leastLength = some least → least.toNat ≤ content.length
  shortEnough :
    ∀ greatest, limits.greatestLength = some greatest → content.length ≤ greatest.toNat
  matching :
    ∀ written,
      limits.pattern = some written →
      ∃ pattern, Pattern.read written = .ok pattern ∧ pattern.isMatch content = true

/-- Whether a text keeps all that an element declares about texts. -/
structure Element.Admits
    (element : Element)
    (content : String) :
    Prop where
  limited :
    ∀ limits, element.limits = some limits → limits.Admits content
  shaped :
    element.type = .email → IsEmailShaped content

namespace Element

open Json (IsNoAnswer)

variable {schema : Schema} {element : Element} {value : Json} {content : String}

theorem carriesValue_of_mem
    {types : List ElementType}
    (member : element.type ∈ types)
    (noLayout : (types.all fun type => !type.isLayout) = true) :
    element.carriesValue = true :=
  List.all_eq_true.mp noLayout _ member

/-! ## The defect of a text -/

theorem looksLikeEmail_iff :
    looksLikeEmail content = true ↔ IsEmailShaped content := by
  unfold looksLikeEmail IsEmailShaped
  constructor
  · intro looks
    split at looks
    · cases looks
    · rename_i user domain atSign
      obtain ⟨here, noneBefore⟩ := Text.splitFirst_char_eq_some_iff.mp atSign
      simp only [Bool.and_eq_true, Bool.not_eq_true', List.isEmpty_eq_false_iff,
        List.any_eq_false] at looks
      obtain ⟨⟨⟨someUser, noneAfter⟩, noBlank⟩, domainShaped⟩ := looks
      split at domainShaped
      · cases domainShaped
      · rename_i host rest point
        obtain ⟨rfl, noPoint⟩ := Text.splitFirst_char_eq_some_iff.mp point
        have noneInParts : '@' ∉ host ∧ '@' ∉ rest := by
          simpa using noneAfter
        have onlyOne : '@' ∉ user ++ host ++ rest := by
          simp [noneBefore, noneInParts]
        have parts : host ≠ [] ∧ rest ≠ [] ∧ rest.getLast? ≠ some '.' := by
          simpa [and_assoc] using domainShaped
        exact ⟨by simpa using noBlank, user, host, rest, here, onlyOne, noPoint, someUser, parts⟩
  · rintro ⟨noBlank, user, host, rest, here, onlyOne, noPoint, someUser, someHost, someRest, ending⟩
    simp only [List.mem_append, not_or] at onlyOne
    obtain ⟨⟨noneBefore, noneInHost⟩, noneInRest⟩ := onlyOne
    have atSign := Text.splitFirst_char_eq_some_iff.mpr ⟨here, noneBefore⟩
    have point : Text.splitFirst (· == '.') (host ++ '.' :: rest) = some (host, rest) :=
      Text.splitFirst_char_eq_some_iff.mpr ⟨rfl, noPoint⟩
    simp only [atSign, point]
    simpa [someUser, someHost, someRest, ending, noneInHost, noneInRest] using noBlank

/-- A text fits a pattern that is declared, since what a checked form declares can be read. -/
theorem badFormat_eq_none_iff
    {limits : Limits}
    (content : String)
    (readable :
      ∀ written,
        limits.pattern = some written → ∃ pattern, Pattern.read written = .ok pattern) :
    ((limits.pattern.bind fun written => (Pattern.read written).toOption).bind fun pattern =>
        if pattern.isMatch content then none else some FieldDefect.badFormat) = none ↔
      ∀ written,
        limits.pattern = some written →
        ∃ pattern, Pattern.read written = .ok pattern ∧ pattern.isMatch content = true := by
  cases declared : limits.pattern with
  | none =>
      simp
  | some written =>
      obtain ⟨pattern, isRead⟩ := readable written declared
      simp [isRead, Except.toOption]

/-- A text keeps the limits that its element declares, and other values need not. -/
theorem textDefect?_eq_none_iff
    (member : element ∈ schema.elements) :
    element.textDefect? (Schema.patternOf element) value = none ↔
      ∀ content,
        value = .string content →
        ∀ limits, element.limits = some limits → limits.Admits content := by
  unfold textDefect? Schema.patternOf
  cases limited : element.limits with
  | none =>
      simp
  | some limits =>
      cases value with
      | string content =>
          have fits := badFormat_eq_none_iff content fun _ => Schema.exists_pattern member limited
          simp only [Option.bind_some, Option.or_eq_none_iff, fits]
          constructor
          · rintro ⟨⟨long, short⟩, matching⟩ _ ⟨⟩ _ ⟨⟩
            exact ⟨by simpa using long, by simpa using short, matching⟩
          · intro kept
            obtain ⟨long, short, matching⟩ := kept content rfl limits rfl
            exact ⟨⟨by simpa using long, by simpa using short⟩, matching⟩
      | _ =>
          simp

theorem emailDefect?_eq_none_iff :
    emailDefect? value = none ↔ ∀ content, value = .string content → IsEmailShaped content := by
  cases value with
  | string content =>
      simp [emailDefect?, looksLikeEmail_iff]
  | _ =>
      simp [emailDefect?]

/-- An answer in a field for texts has no defect where it is no text, or keeps what is declared. -/
theorem defect?_of_textual
    (member : element ∈ schema.elements)
    (textual : element.type ∈ [.text, .textarea, .phone, .email])
    (answered : ¬ IsNoAnswer (some value)) :
    element.defect? (Schema.patternOf element) (some value) = none ↔
      ∀ content, value = .string content → element.Admits content := by
  have byType :
      element.defect? (Schema.patternOf element) (some value) =
        if element.type = .email then
          (element.textDefect? (Schema.patternOf element) value).or (emailDefect? value)
        else element.textDefect? (Schema.patternOf element) value := by
    rw [defect?_of_answer answered]
    simp only [List.mem_cons, List.not_mem_nil, or_false] at textual
    rcases textual with isType | isType | isType | isType <;>
      simp [isType, ElementType.isNumeric, ElementType.isChoice]
  rw [byType]
  by_cases isEmail : element.type = .email
  · rw [if_pos isEmail, Option.or_eq_none_iff, textDefect?_eq_none_iff member,
      emailDefect?_eq_none_iff]
    constructor
    · rintro ⟨limited, shaped⟩ content isText
      exact ⟨limited content isText, fun _ => shaped content isText⟩
    · intro admitted
      exact ⟨fun content isText => (admitted content isText).limited,
        fun content isText => (admitted content isText).shaped isEmail⟩
  · rw [if_neg isEmail, textDefect?_eq_none_iff member]
    constructor
    · intro limited content isText
      exact ⟨limited content isText, fun email => absurd email isEmail⟩
    · intro admitted content isText
      exact (admitted content isText).limited

/-! ## The defect of a choice -/

/-- A text is looked up among the options, and any other value as the empty text. -/
theorem choiceDefect?_eq_none_iff :
    element.choiceDefect? value = none ↔
      (∃ content ∈ element.options, value = .string content) ∨
        ((∀ content, value ≠ .string content) ∧ "" ∈ element.options) := by
  cases value with
  | string content =>
      simp [choiceDefect?]
  | _ =>
      simp [choiceDefect?]

end Element

/-- An integer is an answer, and it is no text. -/
theorem Json.ofInt_isAnswer
    {number : Int}
    (wide : leastInt64 ≤ number ∧ number ≤ greatestNat64) :
    ¬ IsNoAnswer (some (.ofInt number)) ∧ ∀ content, ofInt number ≠ .string content := by
  rw [ofInt_eq_number wide]
  simp [IsNoAnswer]

namespace FormSession

open Json (IsNoAnswer)

variable {schema : Schema} {session : FormSession} {element : Element} {value : Json}
  {metadata : FormMetadata} {location : Option GpsLocation} {submission : Submission}

theorem get?_of_submit
    (visible : element ∈ session.visibleFields)
    (submitted : session.submit metadata location = .ok submission) :
    submission.values.get? element.name = session.values.get? element.name := by
  obtain ⟨_, _, rfl⟩ := submit_eq_ok_iff.mp submitted
  exact get?_submittedValues visible

theorem validate_eq_nil_iff_reports :
    session.validate = [] ↔ ∀ element ∈ session.visibleFields, ¬ session.Reports element := by
  constructor
  · rintro noProblem element _ ⟨problem, reported, _⟩
    rw [noProblem] at reported
    exact List.not_mem_nil reported
  · intro noReports
    refine List.eq_nil_iff_forall_not_mem.mpr fun problem reported => ?_
    obtain ⟨element, visible, isProblem⟩ := mem_validate_iff.mp reported
    exact noReports element visible ⟨problem, reported, (field_of_problem? isProblem).1⟩

theorem not_reports_iff_of_textual
    (visible : element ∈ session.visibleFields)
    (textual : element.type ∈ [.text, .textarea, .phone, .email])
    (found : session.values.get? element.name = some value)
    (answered : ¬ IsNoAnswer (some value)) :
    ¬ session.Reports element ↔ ∀ content, value = .string content → element.Admits content := by
  have inForm := (mem_visibleFields_iff.mp visible).1
  rw [reports_iff visible, not_not, found]
  exact Element.defect?_of_textual inForm textual answered

/--
A visible field for texts with an answer has no problem exactly where the answer keeps the
lengths, the pattern and the shape that are declared, if it is a text.  Each text of a
submission therefore keeps them.
-/
theorem texts_keep_constraints
    (reached : Reached schema session)
    (inForm : element ∈ schema.elements)
    (textual : element.type ∈ [.text, .textarea, .phone, .email])
    (shown : session.isVisible element.name = true)
    (found : session.values.get? element.name = some value)
    (answered : ¬ IsNoAnswer (some value)) :
    (¬ session.Reports element ↔ ∀ content, value = .string content → element.Admits content) ∧
      ∀ metadata location submission,
        session.submit metadata location = .ok submission →
        submission.values.get? element.name = some value ∧
          ∀ content, value = .string content → element.Admits content := by
  obtain rfl := (UpToDate.of_reached reached).sameSchema
  have carries := Element.carriesValue_of_mem textual rfl
  have visible := mem_visibleFields_of_isVisible inForm shown carries
  have exact := not_reports_iff_of_textual visible textual found answered
  refine ⟨exact, ?_⟩
  intro metadata location submission submitted
  exact ⟨(get?_of_submit visible submitted).trans found,
    exact.mp (validate_eq_nil_iff_reports.mp (submit_eq_ok_iff.mp submitted).1 _ visible)⟩

/-- The pattern of an M and a hyphen in front. -/
def badgePattern : Pattern :=
  .sequence (.assert .textStart false) (.literal ['M', '-'])

theorem read_badgePattern :
    Pattern.read "^M-" = .ok badgePattern := by
  have fits : badgePattern.fits = true := by
    simp only [badgePattern, Pattern.fits, Pattern.automaton?, Pattern.build]
    decide
  have isRead :
      Pattern.read "^M-" = if badgePattern.fits then .ok badgePattern else .error .tooLarge :=
    rfl
  rw [isRead, if_pos fits]

def badgeField : Element :=
  { id := "b", type := .text, name := "badge", label := "Badge"
    limits := some { leastLength := some 6, pattern := some "^M-" } }

def contactField : Element :=
  { id := "c", type := .email, name := "contact", label := "Contact" }

def badgeForm : Schema where
  draft := { elements := [badgeField, contactField] }
  faultless := by
    have badgeFaultless : badgeField.fault? 0 [] = none := by
      simp only [Element.fault?, badgeField, Option.bind_some, Limits.fault?,
        Limits.fault?.lengthFault?, Limits.fault?.patternFault?, Option.map_some,
        read_badgePattern]
      decide
    simp only [FormDraft.fault?, FormDraft.elementFault?, List.length_nil, badgeFaultless]
    decide

theorem mem_badgeForm_iff :
    element ∈ badgeForm.elements ↔ element = badgeField ∨ element = contactField := by
  simp [badgeForm, Schema.elements]

def badgeReport : FormMetadata :=
  ⟨"Badges", "visit", noon, false⟩

def badgeShown : FormSession :=
  (start badgeForm).run
    [.set "badge" (.string "M-0042"), .set "contact" (.string "ada@example.org")]

/-- The badge is long enough and fits its pattern, the contact is an address: both are submitted. -/
theorem texts_keep_constraints_badge :
    Reached badgeForm badgeShown ∧
      ∃ submission,
        badgeShown.submit badgeReport none = .ok submission ∧
          submission.values.get? "badge" = some (.string "M-0042") ∧
          submission.values.get? "contact" = some (.string "ada@example.org") := by
  have reached : Reached badgeForm badgeShown := ⟨_, _, .blank, rfl⟩
  have badgeAdmits : badgeField.Admits "M-0042" := by
    refine ⟨?_, by simp [badgeField]⟩
    rintro _ ⟨⟩
    refine ⟨?_, by simp, ?_⟩
    · rintro _ ⟨⟩
      decide
    · rintro _ ⟨⟩
      exact ⟨_, read_badgePattern, by decide +kernel⟩
  have contactAdmits : contactField.Admits "ada@example.org" :=
    ⟨by simp [contactField], fun _ => Element.looksLikeEmail_iff.mp (by decide)⟩
  have badgeFound : badgeShown.values.get? badgeField.name = some (.string "M-0042") :=
    rfl
  have contactFound :
      badgeShown.values.get? contactField.name = some (.string "ada@example.org") :=
    rfl
  obtain ⟨badge, badgeSent⟩ :=
    texts_keep_constraints reached (mem_badgeForm_iff.mpr (.inl rfl)) (by decide)
      (by decide +kernel) badgeFound (by simp [IsNoAnswer])
  obtain ⟨contact, contactSent⟩ :=
    texts_keep_constraints reached (mem_badgeForm_iff.mpr (.inr rfl)) (by decide)
      (by decide +kernel) contactFound (by simp [IsNoAnswer])
  have noProblem : badgeShown.validate = [] := by
    refine validate_eq_nil_iff_reports.mpr ?_
    intro element visible
    rcases mem_badgeForm_iff.mp (mem_visibleFields_iff.mp visible).1 with rfl | rfl
    · exact badge.mpr fun _ isText => Json.string.inj isText ▸ badgeAdmits
    · exact contact.mpr fun _ isText => Json.string.inj isText ▸ contactAdmits
  obtain ⟨submission, submitted⟩ :
      ∃ submission, badgeShown.submit badgeReport none = .ok submission :=
    ⟨_, submit_eq_ok_iff.mpr ⟨noProblem, by decide, rfl⟩⟩
  exact ⟨reached, submission, submitted, (badgeSent _ _ _ submitted).1,
    (contactSent _ _ _ submitted).1⟩

/-- A badge and a contact that are given as numbers. -/
def badgeNumbered : FormSession :=
  (start badgeForm).run [.set "badge" (.ofInt 42), .set "contact" (.ofInt 5550100)]

/-- Both numbers are submitted, though they neither fit a pattern nor are addresses. -/
theorem numbers_escape_constraints :
    Reached badgeForm badgeNumbered ∧
      badgeNumbered.validate = [] ∧
      ∃ submission,
        badgeNumbered.submit badgeReport none = .ok submission ∧
          ∀ element ∈ badgeForm.elements,
            (element.type = .email ∨
                ∃ limits, element.limits = some limits ∧ limits.pattern ≠ none) ∧
              badgeNumbered.isVisible element.name = true ∧
              ∃ value,
                submission.values.get? element.name = some value ∧
                  ¬ IsNoAnswer (some value) ∧
                  ∀ content, value ≠ .string content := by
  have noProblem : badgeNumbered.validate = [] := by
    decide +kernel
  obtain ⟨submission, submitted⟩ :
      ∃ submission, badgeNumbered.submit badgeReport none = .ok submission :=
    ⟨_, submit_eq_ok_iff.mpr ⟨noProblem, by decide, rfl⟩⟩
  refine ⟨⟨_, _, .blank, rfl⟩, noProblem, submission, submitted, ?_⟩
  intro element inForm
  have shown : badgeNumbered.isVisible element.name = true := by
    rcases mem_badgeForm_iff.mp inForm with rfl | rfl <;> decide +kernel
  have sent : submission.values.get? element.name = badgeNumbered.values.get? element.name := by
    refine get?_of_submit (mem_visibleFields_of_isVisible inForm shown ?_) submitted
    rcases mem_badgeForm_iff.mp inForm with rfl | rfl <;> rfl
  rw [sent]
  rcases mem_badgeForm_iff.mp inForm with rfl | rfl
  · exact ⟨.inr ⟨_, rfl, nofun⟩, shown, .ofInt 42, rfl, Json.ofInt_isAnswer (by decide)⟩
  · exact ⟨.inl rfl, shown, .ofInt 5550100, rfl, Json.ofInt_isAnswer (by decide)⟩

/--
A visible field with options and an answer has no problem exactly where the answer is one
of the options, or is no text and the empty text is one of them.
-/
theorem choices_are_listed
    (reached : Reached schema session)
    (inForm : element ∈ schema.elements)
    (isChoice : element.type ∈ [.select, .radio])
    (shown : session.isVisible element.name = true)
    (found : session.values.get? element.name = some value)
    (answered : ¬ IsNoAnswer (some value)) :
    ¬ session.Reports element ↔
      (∃ content ∈ element.options, value = .string content) ∨
        ((∀ content, value ≠ .string content) ∧ "" ∈ element.options) := by
  obtain rfl := (UpToDate.of_reached reached).sameSchema
  have carries := Element.carriesValue_of_mem isChoice rfl
  have visible := mem_visibleFields_of_isVisible inForm shown carries
  rw [reports_iff visible, not_not, found, Element.defect?_of_answer answered,
    ← Element.choiceDefect?_eq_none_iff]
  simp only [List.mem_cons, List.not_mem_nil, or_false] at isChoice
  rcases isChoice with isType | isType <;>
    simp [isType, ElementType.isNumeric, ElementType.isChoice]

def severityField : Element :=
  { id := "s", type := .select, name := "severity", label := "Severity", options := ["", "low"] }

def severityForm : Schema where
  draft := { elements := [severityField] }
  faultless := by decide +kernel

def severityLow : FormSession :=
  (start severityForm).run [.set "severity" (.string "low")]

theorem choices_are_listed_low :
    Reached severityForm severityLow ∧
      severityField ∈ severityForm.elements ∧ ¬ severityLow.Reports severityField := by
  have reached : Reached severityForm severityLow := ⟨_, _, .blank, rfl⟩
  have inForm : severityField ∈ severityForm.elements := by
    simp [severityForm, Schema.elements]
  refine ⟨reached, inForm, ?_⟩
  refine (choices_are_listed reached inForm (by decide) (by decide +kernel) rfl ?_).mpr
    (.inl ⟨"low", by decide, rfl⟩)
  simp [IsNoAnswer]

/-- A severity that is given as a number, where the options do not name one. -/
def severityNumbered : FormSession :=
  (start severityForm).run [.set "severity" (.ofInt 5)]

/-- It passes for a choice. -/
theorem number_taken_for_a_choice :
    Reached severityForm severityNumbered ∧
      severityField ∈ severityForm.elements ∧ severityField.type = .select ∧
      severityNumbered.isVisible severityField.name = true ∧
      severityNumbered.validate = [] ∧
      ∃ value,
        severityNumbered.values.get? severityField.name = some value ∧
          ¬ IsNoAnswer (some value) ∧
          ∀ content, value ≠ .string content := by
  have inForm : severityField ∈ severityForm.elements := by
    simp [severityForm, Schema.elements]
  exact ⟨⟨_, _, .blank, rfl⟩, inForm, rfl, by decide +kernel, by decide +kernel, .ofInt 5, rfl,
    Json.ofInt_isAnswer (by decide)⟩

end FormSession

end Fieldwork
