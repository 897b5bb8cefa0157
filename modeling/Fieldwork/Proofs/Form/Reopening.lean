import Fieldwork.Proofs.Form.Hidden
import Fieldwork.Proofs.Form.Payload

namespace Fieldwork.FormSession

/-!
# Opening a form with what was submitted

The values of a submission open the form again, without the answers that stood
in hidden fields.  Such an answer is stale: it is kept and the rules still look
at it, and it is not submitted.  The form that is opened again shows and
submits the same unless a rule looked at a stale answer.
-/

variable {schema : Schema} {session : FormSession} {element : Element}
  {metadata : FormMetadata} {location : Option GpsLocation} {submission : Submission}

/-- A field holds a stale answer where it has one and is hidden. -/
def HoldsStale
    (session : FormSession)
    (name : String) :
    Prop :=
  session.values.get? name ≠ none ∧ session.isVisible name = false

/-- The values of the visible fields, as a submission carries them. -/
def submittedValues
    (session : FormSession) :
    FieldValues :=
  .ofFields session.visibleEntries

/-- The session that opens with the values of a submission. -/
def reopened
    (session : FormSession) :
    FormSession :=
  withEntries session.schema session.submittedValues

/-- A visible field is submitted with the value that it holds. -/
theorem get?_submittedValues
    (member : element ∈ session.visibleFields) :
    session.submittedValues.get? element.name = session.values.get? element.name := by
  refine Option.ext fun value => ?_
  unfold submittedValues
  rw [FieldValues.get?_eq_some_iff, mem_submittedFields_iff]
  constructor
  · rintro ⟨_, _, _, found⟩
    exact found
  · intro found
    exact ⟨element, member, rfl, found⟩

/-- Nothing is submitted under a name that no visible field has. -/
theorem get?_submittedValues_eq_none
    {name : String}
    (noField : ∀ element ∈ session.visibleFields, element.name ≠ name) :
    session.submittedValues.get? name = none := by
  rw [FieldValues.get?_eq_none_iff]
  intro value member
  obtain ⟨element, visible, sameName, _⟩ := mem_submittedFields_iff.mp member
  exact noField element visible sameName

theorem get?_submittedValues_of_hidden
    (inForm : element ∈ session.schema.elements)
    (hidden : element ∉ session.visibleFields) :
    session.submittedValues.get? element.name = none := by
  refine get?_submittedValues_eq_none ?_
  intro other visible sameName
  have otherInForm := (mem_visibleFields_iff.mp visible).1
  rw [Schema.eq_of_name_eq otherInForm inForm sameName] at visible
  exact hidden visible

/-- What a session submits are answers again. -/
theorem UpToDate.submittedValues
    (upToDate : UpToDate schema session) :
    HoldsAnswers schema session.submittedValues := by
  intro name value member
  obtain ⟨element, visible, rfl, found⟩ := mem_submittedFields_iff.mp member
  exact upToDate.holdsAnswers _ value (FieldValues.get?_eq_some_iff.mp found)

theorem validate_eq_nil_iff :
    session.validate = [] ↔
      ∀ element ∈ session.visibleFields, session.problem? element = none := by
  unfold validate
  rw [List.filterMap_eq_nil_iff]

/-- Without a value, a field has a problem exactly where it is required. -/
theorem problem?_eq_none_iff_of_unset
    (unset : session.values.get? element.name = none) :
    session.problem? element = none ↔ element.isRequired = false := by
  unfold problem? Element.defect?
  rw [unset]
  cases element.isRequired <;> simp [Element.isBlankAnswer, Json.isUnset]

/-- No required field is visible in one session and hidden in another on the same form. -/
def RevealsNoRequired
    (again session : FormSession) :
    Prop :=
  ∀ element ∈ session.schema.elements,
    element.isRequired = true →
    element.id ∈ again.visible →
    element.id ∈ session.visible

/--
Of a session without a problem, the one that opens with its submission has a
problem exactly where a required field appears that was hidden.
-/
theorem validate_reopened_eq_nil_iff
    (noProblem : session.validate = []) :
    session.reopened.validate = [] ↔ RevealsNoRequired session.reopened session := by
  rw [validate_eq_nil_iff] at noProblem ⊢
  constructor
  · intro noneAgain element inForm required shownAgain
    by_contra hidden
    have carries : element.carriesValue = true :=
      (Bool.and_eq_true_iff.mp required).2
    have wasHidden : element ∉ session.visibleFields :=
      fun visible => hidden (mem_visibleFields_iff.mp visible).2.1
    have unset : session.reopened.values.get? element.name = none :=
      get?_submittedValues_of_hidden inForm wasHidden
    have noProblemAgain : session.reopened.problem? element = none :=
      noneAgain element (mem_visibleFields_iff.mpr ⟨inForm, shownAgain, carries⟩)
    rw [problem?_eq_none_iff_of_unset unset, required] at noProblemAgain
    cases noProblemAgain
  · intro revealsNone element visibleAgain
    obtain ⟨inForm, shownAgain, carries⟩ := mem_visibleFields_iff.mp visibleAgain
    by_cases visible : element ∈ session.visibleFields
    · have sameProblem : session.reopened.problem? element = session.problem? element :=
        problem?_congr rfl (get?_submittedValues visible)
      rw [sameProblem, noProblem element visible]
    · have unset : session.reopened.values.get? element.name = none :=
        get?_submittedValues_of_hidden inForm visible
      rw [problem?_eq_none_iff_of_unset unset, ← Bool.not_eq_true]
      intro required
      exact visible (mem_visibleFields_iff.mpr
        ⟨inForm, revealsNone element inForm required shownAgain, carries⟩)

/-- What was submitted was visible. -/
theorem isVisible_of_mem_submittedValues
    {name : String}
    (submitted : name ∈ session.submittedValues.names) :
    session.isVisible name = true := by
  obtain ⟨value, member⟩ := FieldValues.mem_names_iff_exists.mp submitted
  obtain ⟨element, visible, rfl, _⟩ := mem_submittedFields_iff.mp member
  obtain ⟨inForm, shown, _⟩ := mem_visibleFields_iff.mp visible
  exact (isVisible_name_iff inForm).mpr shown

/-- The same is submitted again where all that was submitted is visible again. -/
theorem submittedValues_reopened_eq_iff :
    session.reopened.submittedValues = session.submittedValues ↔
      ∀ name ∈ session.submittedValues.names, session.reopened.isVisible name = true := by
  constructor
  · intro same name submitted
    exact isVisible_of_mem_submittedValues (same ▸ submitted)
  · intro allVisible
    refine FieldValues.eq_of_mem_fields_iff fun name value => ?_
    constructor
    · intro member
      obtain ⟨_, _, _, found⟩ := mem_submittedFields_iff.mp member
      exact FieldValues.get?_eq_some_iff.mp found
    · intro member
      have isName : name ∈ session.submittedValues.names :=
        FieldValues.mem_names_iff_exists.mpr ⟨value, member⟩
      obtain ⟨element, visible, rfl, _⟩ := mem_submittedFields_iff.mp member
      obtain ⟨inForm, _, carries⟩ := mem_visibleFields_iff.mp visible
      have inFormAgain : element ∈ session.reopened.schema.elements := inForm
      have shown : element.id ∈ session.reopened.visible :=
        (isVisible_name_iff inFormAgain).mp (allVisible element.name isName)
      exact mem_submittedFields_iff.mpr
        ⟨element, mem_visibleFields_iff.mpr ⟨inFormAgain, shown, carries⟩, rfl,
          FieldValues.get?_eq_some_iff.mpr member⟩

/--
The form that was opened again submits the same where all that was submitted is
visible again and no required field appears.
-/
theorem submit_reopened_eq_iff
    (submitted : session.submit metadata location = .ok submission) :
    session.reopened.submit metadata location = .ok submission ↔
      (∀ name ∈ session.submittedValues.names, session.reopened.isVisible name = true) ∧
        RevealsNoRequired session.reopened session := by
  obtain ⟨noProblem, allowed, rfl⟩ := submit_eq_ok_iff.mp submitted
  rw [submit_eq_ok_iff, validate_reopened_eq_nil_iff noProblem,
    ← submittedValues_reopened_eq_iff, @eq_comm _ session.reopened.submittedValues]
  have sameSettings : session.reopened.schema = session.schema := rfl
  simp only [sameSettings, allowed, not_false_eq_true, true_and, Submission.mk.injEq,
    and_true]
  exact and_comm

/-- Where no rule looks at a stale answer, the rules see what is submitted as before. -/
theorem UpToDate.agreeOn_submittedValues
    (upToDate : UpToDate schema session)
    (noneStale : ∀ name ∈ schema.watched, ¬ session.HoldsStale name) :
    FieldValues.AgreeOn schema.watched session.submittedValues session.values := by
  intro name watched
  by_cases field : ∃ element ∈ session.visibleFields, element.name = name
  · obtain ⟨element, visible, rfl⟩ := field
    exact get?_submittedValues visible
  · have noField : ∀ element ∈ session.visibleFields, element.name ≠ name :=
      fun element visible named => field ⟨element, visible, named⟩
    rw [get?_submittedValues_eq_none noField]
    cases held : session.values.get? name with
    | none =>
        rfl
    | some value =>
        obtain ⟨_, element, inForm, rfl, carries⟩ :=
          upToDate.holdsAnswers name value (FieldValues.get?_eq_some_iff.mp held)
        rw [← upToDate.sameSchema] at inForm
        have hidden : session.isVisible element.name = false := by
          rw [← Bool.not_eq_true, isVisible_name_iff inForm]
          intro shown
          exact noField element
            (FormSession.mem_visibleFields_iff.mpr ⟨inForm, shown, carries⟩) rfl
        exact (noneStale element.name watched ⟨by simp [held], hidden⟩).elim

/--
The values of a submission open the form again.  It then submits the same
exactly where everything that was submitted is visible again and no required
field appears that was hidden.  Both hold, and the same elements are visible,
unless a rule of the form looks at a stale answer.
-/
theorem submission_reopens
    (reached : Reached schema session)
    (submitted : session.submit metadata location = .ok submission) :
    ∃ again,
      withValues schema submission.values = .ok again ∧
        (again.submit metadata location = .ok submission ↔
          (∀ name ∈ submission.values.names, again.isVisible name = true) ∧
            RevealsNoRequired again session) ∧
        ((∀ name ∈ schema.watched, ¬ session.HoldsStale name) →
          again.visible = session.visible ∧
            (∀ name ∈ submission.values.names, again.isVisible name = true) ∧
            again.submit metadata location = .ok submission) := by
  have upToDate := UpToDate.of_reached reached
  have isSubmitted : submission.values = session.submittedValues := by
    obtain ⟨_, _, rfl⟩ := submit_eq_ok_iff.mp submitted
    rfl
  have opens : withValues schema submission.values = .ok session.reopened := by
    rw [isSubmitted, withValues_of_holdsAnswers upToDate.submittedValues, reopened,
      upToDate.sameSchema]
  have submitsSame := submit_reopened_eq_iff submitted
  rw [← isSubmitted] at submitsSame
  refine ⟨session.reopened, opens, submitsSame, ?_⟩
  intro noneStale
  have sameVisible : session.reopened.visible = session.visible := by
    rw [upToDate.visible, reopened, upToDate.sameSchema]
    exact Schema.visibleIds_of_agreeOn (upToDate.agreeOn_submittedValues noneStale)
  have allVisible :
      ∀ name ∈ submission.values.names, session.reopened.isVisible name = true := by
    intro name submittedName
    have wasVisible : session.isVisible name = true :=
      isVisible_of_mem_submittedValues (isSubmitted ▸ submittedName)
    rw [isVisible_iff] at wasVisible ⊢
    rwa [sameVisible]
  refine ⟨sameVisible, allVisible, submitsSame.mpr ⟨allVisible, ?_⟩⟩
  intro element _ _ shownAgain
  exact sameVisible ▸ shownAgain

/--
The repair that was described before its place was taken back is stale, and no
rule looks at it: what is submitted opens the form without it, with the same
elements visible, and submits the same.
-/
theorem submission_reopens_with_stale_repair :
    (placeCleared "sealed").HoldsStale "repair" ∧
      ∃ submission again,
        (placeCleared "sealed").submit leakReport (some onTheMeridian) = .ok submission ∧
          withValues leakForm submission.values = .ok again ∧
          again.visible = (placeCleared "sealed").visible ∧
          again.values.get? "repair" = none ∧
          again.submit leakReport (some onTheMeridian) = .ok submission := by
  have stale : (placeCleared "sealed").HoldsStale "repair" :=
    ⟨by decide, by decide⟩
  have noneWatched :
      ∀ name ∈ leakForm.watched, ¬ (placeCleared "sealed").HoldsStale name := by
    have watched : leakForm.watched = ["leak_found", "leak_place"] := by decide
    rw [watched]
    intro name member
    simp only [List.mem_cons, List.not_mem_nil, or_false] at member
    rcases member with rfl | rfl
    · rintro ⟨_, hidden⟩
      exact absurd hidden (by decide)
    · rintro ⟨held, _⟩
      exact held rfl
  have submitted :
      (placeCleared "sealed").submit leakReport (some onTheMeridian) =
        .ok ⟨(placeCleared "sealed").submittedValues, some (some onTheMeridian), leakReport⟩ :=
    submit_eq_ok_iff.mpr ⟨by decide, by decide, rfl⟩
  obtain ⟨again, opens, _, sameWhenNoneWatched⟩ :=
    submission_reopens (reached_placeCleared "sealed") submitted
  obtain ⟨sameVisible, _, submitsSame⟩ := sameWhenNoneWatched noneWatched
  have noRepair :
      (withValues leakForm (placeCleared "sealed").submittedValues).map
        (fun again => again.values.get? "repair") = .ok none :=
    rfl
  rw [opens] at noRepair
  exact ⟨stale, _, again, submitted, opens, sameVisible, Except.ok.inj noRepair, submitsSame⟩

/--
Of a form on which the leak was denied, the repair is submitted because a place
is still held.  It is hidden where the form opens with what was submitted, and
is not submitted again.
-/
theorem repair_hidden_when_reopened :
    Reached leakForm leakDenied ∧
      ∃ submission again,
        leakDenied.submit leakReport none = .ok submission ∧
          withValues leakForm submission.values = .ok again ∧
          "repair" ∈ submission.values.names ∧
          again.isVisible "repair" = false ∧
          again.submit leakReport none ≠ .ok submission := by
  refine ⟨reached_leakDenied, _, _, rfl, rfl, by decide, by decide, ?_⟩
  intro same
  have sameNames := congrArg (Except.map fun sent => sent.values.names) same
  exact absurd sameNames (by decide)

end Fieldwork.FormSession
