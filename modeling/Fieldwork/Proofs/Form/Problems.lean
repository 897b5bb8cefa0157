import Fieldwork.Form.Validation
import Fieldwork.Proofs.Form.Edits
import Fieldwork.Proofs.Form.Visible

namespace Fieldwork

/-!
# Which fields have a problem

A session reports the visible fields that have a defect, each once and in the order of
the form.  Without an answer a field has a defect where it is required; an answer is
judged by the type of its field.  A numeric field wants a number within its bounds, and
a checkbox wants to be ticked or not, the first where it is required.
-/

/-- Whether a field has no answer: it is unset, or holds null, an empty text or an empty list. -/
def Json.IsNoAnswer
    (value : Option Json) :
    Prop :=
  value = none ∨ value = some .null ∨ value = some (.string "") ∨ value = some (.array [])

/-- Whether a number lies beyond one of the bounds of limits. -/
def Limits.Excludes
    (limits : Limits)
    (number : Binary64) :
    Prop :=
  (∃ least, limits.least = some least ∧ number.below least = true) ∨
    ∃ greatest, limits.greatest = some greatest ∧ greatest.below number = true

namespace Element

open Json (IsNoAnswer)

variable {element : Element} {pattern : Option Pattern} {value : Json}

theorem isBlankAnswer_iff
    {value : Option Json} :
    isBlankAnswer value = true ↔ IsNoAnswer value := by
  unfold IsNoAnswer
  cases value with
  | none =>
      simp [isBlankAnswer, Json.isUnset]
  | some value =>
      cases value <;> simp [isBlankAnswer, Json.isUnset]

theorem isRequired_of_carriesValue
    (carries : element.carriesValue = true) :
    element.isRequired = element.required := by
  rw [isRequired, carries, Bool.and_true]

/-! ## The defect of a value -/

theorem defect?_of_noAnswer
    {value : Option Json}
    (noAnswer : IsNoAnswer value) :
    element.defect? pattern value ≠ none ↔ element.isRequired = true := by
  rw [defect?, if_pos (isBlankAnswer_iff.mpr noAnswer)]
  cases element.isRequired <;> simp

/-- An answer is judged by the type of its field. -/
theorem defect?_of_answer
    (answered : ¬ IsNoAnswer (some value)) :
    element.defect? pattern (some value) =
      if element.type.isNumeric then element.numberDefect? value
      else if element.type = .checkbox then element.checkboxDefect? value
      else if element.type.isChoice then element.choiceDefect? value
      else if element.type = .email then
        (element.textDefect? pattern value).or (emailDefect? value)
      else element.textDefect? pattern value := by
  rw [defect?, if_neg (isBlankAnswer_iff.not.mpr answered), Option.bind_some]

theorem boundDefect?_ne_none_iff
    {bound : Option Binary64}
    {isBeyond : Binary64 → Bool}
    {defect : Binary64 → FieldDefect} :
    numberDefect?.boundDefect? bound isBeyond defect ≠ none ↔
      ∃ kept, bound = some kept ∧ isBeyond kept = true := by
  unfold numberDefect?.boundDefect?
  cases bound with
  | none =>
      simp
  | some kept =>
      cases isBeyond kept <;> simp

/-- A number keeps its bounds, both of them inclusive. -/
theorem numberDefect?_ne_none_iff :
    element.numberDefect? value ≠ none ↔
      value.numeric? = none ∨
        ∃ number limits,
          value.numeric? = some number ∧ element.limits = some limits ∧
            limits.Excludes number := by
  unfold numberDefect?
  cases value.numeric? with
  | none =>
      simp
  | some number =>
      cases element.limits with
      | none =>
          simp
      | some limits =>
          have bounds :
              (numberDefect?.boundDefect? limits.least (fun least => number.below least) .below).or
                  (numberDefect?.boundDefect? limits.greatest
                    (fun greatest => greatest.below number) .above) ≠ none ↔
                limits.Excludes number := by
            rw [ne_eq, Option.or_eq_none_iff, not_and_or]
            exact or_congr boundDefect?_ne_none_iff boundDefect?_ne_none_iff
          constructor
          · intro beyond
            exact .inr ⟨number, limits, rfl, rfl, bounds.mp beyond⟩
          · rintro (noNumber | ⟨_, _, ⟨⟩, ⟨⟩, excluded⟩)
            · cases noNumber
            · exact bounds.mpr excluded

theorem checkboxDefect?_ne_none_iff :
    element.checkboxDefect? value ≠ none ↔
      (∀ flag, value ≠ .bool flag) ∨ (value = .bool false ∧ element.isRequired = true) := by
  cases value with
  | bool flag =>
      cases flag <;> simp [checkboxDefect?]
  | _ =>
      simp [checkboxDefect?]

end Element

namespace FormSession

open Json (IsNoAnswer)

variable {schema : Schema} {session : FormSession} {element : Element} {value : Json}

/-! ## The problems of a session -/

/-- Whether a session reports a problem of an element. -/
def Reports
    (session : FormSession)
    (element : Element) :
    Prop :=
  ∃ problem ∈ session.validate, problem.field = element.name

/-- A problem is that of a visible field with a defect. -/
theorem mem_validate_iff
    {problem : FieldProblem} :
    problem ∈ session.validate ↔
      ∃ element ∈ session.visibleFields, session.problem? element = some problem :=
  List.mem_filterMap

theorem field_of_problem?
    {problem : FieldProblem}
    (isProblem : session.problem? element = some problem) :
    problem.field = element.name ∧ problem.label = element.label := by
  obtain ⟨defect, _, rfl⟩ := Option.map_eq_some_iff.mp isProblem
  exact ⟨rfl, rfl⟩

/-- In the order of the form, and at most once each. -/
theorem problem_fields_sublist
    (session : FormSession) :
    (session.validate.map FieldProblem.field).Sublist
      (session.schema.elements.map Element.name) := by
  have fields :
      session.validate.map FieldProblem.field =
        (session.visibleFields.filter fun element => (session.problem? element).isSome).map
          Element.name := by
    unfold validate
    induction session.visibleFields with
    | nil =>
        rfl
    | cons element rest inductionHypothesis =>
        cases isProblem : session.problem? element with
        | none =>
            simpa [isProblem] using inductionHypothesis
        | some problem =>
            simpa [isProblem, (field_of_problem? isProblem).1] using inductionHypothesis
  rw [fields]
  exact (List.filter_sublist.trans (List.filter_sublist.trans List.filter_sublist)).map _

/-- Of a visible field, a problem is reported exactly where its value has a defect. -/
theorem reports_iff
    (visible : element ∈ session.visibleFields) :
    session.Reports element ↔
      element.defect? (Schema.patternOf element) (session.values.get? element.name) ≠ none := by
  have inForm := (mem_visibleFields_iff.mp visible).1
  have isProblem :
      session.problem? element ≠ none ↔
        element.defect? (Schema.patternOf element) (session.values.get? element.name) ≠ none := by
    rw [problem?, Schema.pattern?_of_mem inForm, ne_eq, Option.map_eq_none_iff]
  rw [← isProblem]
  constructor
  · rintro ⟨problem, reported, sameName⟩
    obtain ⟨other, otherVisible, otherProblem⟩ := mem_validate_iff.mp reported
    have otherInForm := (mem_visibleFields_iff.mp otherVisible).1
    have sameElement : other = element :=
      Schema.eq_of_name_eq otherInForm inForm
        ((field_of_problem? otherProblem).1.symm.trans sameName)
    rw [← sameElement, otherProblem]
    exact Option.some_ne_none _
  · intro some
    obtain ⟨problem, isProblem⟩ := Option.ne_none_iff_exists'.mp some
    exact ⟨problem, mem_validate_iff.mpr ⟨element, visible, isProblem⟩,
      (field_of_problem? isProblem).1⟩

theorem mem_visibleFields_of_isVisible
    (inForm : element ∈ session.schema.elements)
    (visible : session.isVisible element.name = true)
    (carries : element.carriesValue = true) :
    element ∈ session.visibleFields :=
  mem_visibleFields_iff.mpr ⟨inForm, (isVisible_name_iff inForm).mp visible, carries⟩

theorem reports_iff_of_noAnswer
    (visible : element ∈ session.visibleFields)
    (noAnswer : IsNoAnswer (session.values.get? element.name)) :
    session.Reports element ↔ element.required = true := by
  rw [reports_iff visible, Element.defect?_of_noAnswer noAnswer,
    Element.isRequired_of_carriesValue (mem_visibleFields_iff.mp visible).2.2]

section Answers

variable (visible : element ∈ session.visibleFields)
  (found : session.values.get? element.name = some value)
  (answered : ¬ IsNoAnswer (some value))

include visible found answered

theorem reports_iff_of_numeric
    (numeric : element.type.isNumeric = true) :
    session.Reports element ↔
      value.numeric? = none ∨
        ∃ number limits,
          value.numeric? = some number ∧ element.limits = some limits ∧
            limits.Excludes number := by
  rw [reports_iff visible, found, Element.defect?_of_answer answered, if_pos numeric,
    Element.numberDefect?_ne_none_iff]

theorem reports_iff_of_checkbox
    (isCheckbox : element.type = .checkbox) :
    session.Reports element ↔
      (∀ flag, value ≠ .bool flag) ∨ (value = .bool false ∧ element.required = true) := by
  have notNumeric : ¬ element.type.isNumeric = true := by
    rw [isCheckbox]
    decide
  rw [reports_iff visible, found, Element.defect?_of_answer answered, if_neg notNumeric,
    if_pos isCheckbox, Element.checkboxDefect?_ne_none_iff,
    Element.isRequired_of_carriesValue (mem_visibleFields_iff.mp visible).2.2]

end Answers

/--
Problems come in the order of the form, one at most for an element, and only for
visible elements that carry a value.  Without an answer such an element has a problem
exactly where it is required; a numeric one with an answer, where this is no finite
number or beyond a bound; and a checkbox, where its answer is not ticked or unticked, or
unticked though required.
-/
theorem problems_of_visible_fields
    (reached : Reached schema session) :
    (session.validate.map FieldProblem.field).Sublist (schema.elements.map Element.name) ∧
      (session.validate.map FieldProblem.field).Nodup ∧
      (∀ problem ∈ session.validate,
        ∃ element ∈ schema.elements,
          problem.field = element.name ∧ problem.label = element.label ∧
            session.isVisible element.name = true ∧ element.carriesValue = true) ∧
      ∀ element ∈ schema.elements,
        session.isVisible element.name = true →
        element.carriesValue = true →
          (IsNoAnswer (session.values.get? element.name) →
            (session.Reports element ↔ element.required = true)) ∧
          ∀ value,
            session.values.get? element.name = some value →
            ¬ IsNoAnswer (some value) →
              (element.type ∈ [.number, .meterReading] →
                (session.Reports element ↔
                  value.numeric? = none ∨
                    ∃ number limits,
                      value.numeric? = some number ∧ element.limits = some limits ∧
                        limits.Excludes number)) ∧
              (element.type = .checkbox →
                (session.Reports element ↔
                  (∀ flag, value ≠ .bool flag) ∨
                    (value = .bool false ∧ element.required = true))) := by
  obtain rfl := (UpToDate.of_reached reached).sameSchema
  have inOrder := session.problem_fields_sublist
  refine ⟨inOrder, session.schema.names_nodup.sublist inOrder, ?_, ?_⟩
  · intro problem reported
    obtain ⟨element, visible, isProblem⟩ := mem_validate_iff.mp reported
    obtain ⟨sameField, sameLabel⟩ := field_of_problem? isProblem
    obtain ⟨inForm, shown, carries⟩ := mem_visibleFields_iff.mp visible
    exact ⟨element, inForm, sameField, sameLabel, (isVisible_name_iff inForm).mpr shown, carries⟩
  · intro element inForm shown carries
    have visible := mem_visibleFields_of_isVisible inForm shown carries
    refine ⟨reports_iff_of_noAnswer visible, ?_⟩
    intro value found answered
    refine ⟨fun numeric => ?_, reports_iff_of_checkbox visible found answered⟩
    refine reports_iff_of_numeric visible found answered ?_
    revert numeric
    cases element.type <;> decide

/-- The greatest reading of a meter, 1000. -/
def thousand : Binary64 :=
  ⟨false, 8796093022208000, 1031, by decide⟩

def twelveHundred : Binary64 :=
  ⟨false, 5277655813324800, 1032, by decide⟩

def meterReading : Element :=
  { id := "r", type := .meterReading, name := "reading", label := "Reading"
    limits := some { least := some (.zero false), greatest := some thousand } }

def meterSealed : Element :=
  { id := "s", type := .checkbox, name := "sealed", label := "Sealed", required := true }

/-- Where a meter is not sealed, the reason is asked for. -/
def sealMissing : Element :=
  { id := "m", type := .text, name := "reason", label := "Reason", required := true
    rule := some ⟨true, .shown, [⟨"sealed", .equals, .bool false⟩]⟩ }

def meterVisitForm : Schema where
  draft := { elements := [meterReading, meterSealed, sealMissing] }
  faultless := by decide +kernel

/-- A visit to a meter that is beyond its range and not sealed, for no reason. -/
def meterVisit : FormSession :=
  (start meterVisitForm).run
    [.set "reason" (.string "broken"), .set "reading" (.string " 1.2e3 "),
      .set "sealed" (.bool false), .set "reason" (.string "")]

/-- The reading is beyond its bound, the seal is missing and the reason is not given. -/
theorem problems_of_visible_fields_meter :
    Reached meterVisitForm meterVisit ∧
      meterReading ∈ meterVisitForm.elements ∧ meterSealed ∈ meterVisitForm.elements ∧
      sealMissing ∈ meterVisitForm.elements ∧
      meterVisit.isVisible "reason" = true ∧
      meterVisit.Reports meterReading ∧ meterVisit.Reports meterSealed ∧
      meterVisit.Reports sealMissing := by
  have reached : Reached meterVisitForm meterVisit := ⟨_, _, .blank, rfl⟩
  obtain ⟨-, -, -, each⟩ := problems_of_visible_fields reached
  have readingListed : meterReading ∈ meterVisitForm.elements := by
    simp [meterVisitForm, Schema.elements]
  have sealedListed : meterSealed ∈ meterVisitForm.elements := by
    simp [meterVisitForm, Schema.elements]
  have reasonListed : sealMissing ∈ meterVisitForm.elements := by
    simp [meterVisitForm, Schema.elements]
  have reasonShown : meterVisit.isVisible "reason" = true := by
    decide +kernel
  have reading := (each _ readingListed (by decide +kernel) rfl).2 (.string " 1.2e3 ") rfl
    (by simp [IsNoAnswer])
  have sealed := (each _ sealedListed (by decide +kernel) rfl).2 (.bool false) rfl
    (by simp [IsNoAnswer])
  have reason := (each _ reasonListed reasonShown rfl).1 (.inr (.inr (.inl rfl)))
  refine ⟨reached, readingListed, sealedListed, reasonListed, reasonShown, ?_, ?_, reason.mpr rfl⟩
  · have isNumber : (Json.string " 1.2e3 ").numeric? = some twelveHundred := by
      decide +kernel
    have beyond : thousand.below twelveHundred = true := by
      decide +kernel
    exact (reading.1 (by simp [meterReading])).mpr
      (.inr ⟨_, _, isNumber, rfl, .inr ⟨_, rfl, beyond⟩⟩)
  · exact (sealed.2 rfl).mpr (.inr ⟨rfl, rfl⟩)

end FormSession

end Fieldwork
