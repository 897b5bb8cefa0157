import Fieldwork.Form.Session
import Fieldwork.Proofs.Except
import Fieldwork.Proofs.Form.Checked

namespace Fieldwork

/-!
# Runs of edits

Every edit checks the names that it mentions, changes the values and derives
the visible set from them again.  A session that edits lead to is therefore
determined by its form and its values.  The same edits are also given here as
programs that work on the session in place, where a check that fails comes
before the first change.
-/

/-- Whether a form has a field of a name: an element that carries a value. -/
def Schema.HasField
    (schema : Schema)
    (name : String) :
    Prop :=
  ∃ element ∈ schema.elements, element.name = name ∧ element.carriesValue = true

/-- Values of fields of a form, none of them null. -/
def HoldsAnswers
    (schema : Schema)
    (values : FieldValues) :
    Prop :=
  ∀ name value,
    (name, value) ∈ values.fields →
    value ≠ .null ∧ schema.HasField name

namespace FormSession

namespace Edit

/-- The names that an edit mentions, in the order of their check. -/
def names :
    Edit →
    List String
  | .set name _ => [name]
  | .clear name => [name]
  | .replace values => values.names

/-- What an edit makes of values. -/
def applied :
    Edit →
    FieldValues →
    FieldValues
  | .set name .null, values => values.erase name
  | .set name value, values => values.insert name value
  | .clear name, values => values.erase name
  | .replace given, _ => given.filter hasValue

/-- Demand of a session in place that it has a field of a name. -/
def demandField
    (name : String) :
    EStateM FormFault FormSession Unit := do
  let session ← get
  match session.valueElement name with
  | .ok _ => return
  | .error fault => throw fault

/--
An edit of a session in place: the names are checked one by one, then the
values are changed, then the visible set is derived from them again.
-/
def inPlace
    (edit : Edit) :
    EStateM FormFault FormSession Unit := do
  edit.names.forM demandField
  modify fun session => { session with values := edit.applied session.values }
  modify fun session =>
    { session with
      visible := Visibility.visibleIds session.schema.elements session.values }

end Edit

/-- The session that an edit in place leaves behind, whether it succeeds or fails. -/
def perform
    (session : FormSession)
    (edit : Edit) :
    FormSession :=
  match edit.inPlace.run session with
  | .ok _ left => left
  | .error _ left => left

/-- The session after a run of edits. -/
def run
    (session : FormSession)
    (edits : List Edit) :
    FormSession :=
  edits.foldl perform session

/-- A session is opened blank or with saved values. -/
inductive Opened
    (schema : Schema) :
    FormSession →
    Prop where
  | blank :
      Opened schema (start schema)
  | saved
      {values : FieldValues}
      {session : FormSession}
      (opens : withValues schema values = .ok session) :
      Opened schema session

/-- A session on a form that some edits lead to. -/
def Reached
    (schema : Schema)
    (session : FormSession) :
    Prop :=
  ∃ opened edits, Opened schema opened ∧ session = opened.run edits

/-- The parts of a session on a form fit together. -/
structure UpToDate
    (schema : Schema)
    (session : FormSession) :
    Prop where
  sameSchema :
    session.schema = schema
  holdsAnswers :
    HoldsAnswers schema session.values
  visible :
    session.visible = Visibility.visibleIds schema.elements session.values

variable {schema : Schema} {session changed opened : FormSession} {edit : Edit}
  {values : FieldValues} {name : String}

/-- The check of names one by one, as far as the first that is refused. -/
def checkNames
    (session : FormSession)
    (names : List String) :
    Except FormFault Unit :=
  names.forM fun name => (session.valueElement name).map fun _ => ()

theorem checkName_eq_ok_iff :
    ((session.valueElement name).map fun _ => ()) = .ok () ↔
      session.schema.HasField name := by
  unfold valueElement Schema.HasField
  simp only [Except.map_eq_ok_iff, and_true]
  constructor
  · rintro ⟨element, found⟩
    cases known : session.schema.element? name with
    | none =>
        simp [known] at found
    | some other =>
        obtain ⟨member, named⟩ := Schema.element?_eq_some_iff.mp known
        by_cases carries : other.carriesValue = true
        · exact ⟨other, member, named, carries⟩
        · simp [known, carries] at found
  · rintro ⟨element, member, named, carries⟩
    rw [Schema.element?_eq_some_iff.mpr ⟨member, named⟩]
    exact ⟨element, by simp [carries]⟩

theorem checkNames_eq_ok_iff
    {names : List String} :
    session.checkNames names = .ok () ↔
      ∀ name ∈ names, session.schema.HasField name := by
  unfold checkNames
  simp only [Except.forM_eq_ok_iff, checkName_eq_ok_iff]

/-- An edit checks the names that it mentions and then opens the form on what it makes. -/
theorem edit_eq
    (session : FormSession)
    (edit : Edit) :
    session.edit edit =
      (session.checkNames edit.names).map
        fun _ => withEntries session.schema (edit.applied session.values) := by
  have single :
      ∀ name (next : FormSession),
        ((session.valueElement name).map fun _ => next) =
          (session.checkNames [name]).map fun _ => next := by
    intro name next
    unfold checkNames
    rw [List.forM]
    cases session.valueElement name <;> rfl
  cases edit with
  | set name value =>
      cases value <;> exact single name _
  | clear name =>
      exact single name _
  | replace values =>
      rfl

/-- An edit succeeds where all names that it mentions are those of fields. -/
theorem edit_eq_ok_iff :
    session.edit edit = .ok changed ↔
      (∀ name ∈ edit.names, session.schema.HasField name) ∧
        changed = withEntries session.schema (edit.applied session.values) := by
  rw [edit_eq, Except.map_eq_ok_iff, ← checkNames_eq_ok_iff]
  constructor
  · rintro ⟨_, passes, rfl⟩
    exact ⟨passes, rfl⟩
  · rintro ⟨passes, rfl⟩
    exact ⟨(), passes, rfl⟩

theorem demandField_run
    (session : FormSession)
    (name : String) :
    (Edit.demandField name).run session =
      match session.valueElement name with
      | .ok _ => .ok () session
      | .error fault => .error fault session := by
  unfold Edit.demandField
  rw [EStateM.run_bind, EStateM.run_get]
  dsimp only
  cases session.valueElement name <;> rfl

/-- The checks of an edit in place leave the session as it is, whether they pass or not. -/
theorem demandFields_run
    (session : FormSession)
    (names : List String) :
    (names.forM Edit.demandField).run session =
      match session.checkNames names with
      | .ok _ => .ok () session
      | .error fault => .error fault session := by
  unfold checkNames
  induction names with
  | nil =>
      rfl
  | cons name rest inductionHypothesis =>
      rw [List.forM, List.forM, EStateM.run_bind, demandField_run]
      cases session.valueElement name with
      | error fault =>
          rfl
      | ok element =>
          exact inductionHypothesis

/-- An edit in place ends as the edit does, and where it fails the session is as it was. -/
theorem inPlace_run
    (session : FormSession)
    (edit : Edit) :
    edit.inPlace.run session =
      match session.edit edit with
      | .ok changed => .ok () changed
      | .error fault => .error fault session := by
  unfold Edit.inPlace
  rw [EStateM.run_bind, demandFields_run, edit_eq]
  cases session.checkNames edit.names <;> rfl

theorem perform_of_ok
    (succeeded : session.edit edit = .ok changed) :
    session.perform edit = changed := by
  simp only [perform, inPlace_run, succeeded]

/-- An edit that fails has changed nothing, wherever in its program it fails. -/
theorem perform_of_error
    {fault : FormFault}
    (failed : session.edit edit = .error fault) :
    session.perform edit = session := by
  simp only [perform, inPlace_run, failed]

end FormSession

namespace HoldsAnswers

variable {schema : Schema} {values : FieldValues} {name : String} {value : Json}

theorem hasValue_iff :
    FormSession.hasValue (name, value) = true ↔ value ≠ .null := by
  cases value <;> simp [FormSession.hasValue]

theorem filter
    (holds : HoldsAnswers schema values)
    (keep : String × Json → Bool) :
    HoldsAnswers schema (values.filter keep) :=
  fun name value member => holds name value (List.mem_of_mem_filter member)

theorem insert
    (holds : HoldsAnswers schema values)
    (field : schema.HasField name)
    (notNull : value ≠ .null) :
    HoldsAnswers schema (values.insert name value) := by
  intro other kept member
  rw [FieldValues.mem_fields_insert_iff] at member
  split at member
  · subst name value
    exact ⟨notNull, field⟩
  · exact holds other kept member

/-- Values given for fields are answers once the nulls are left out. -/
theorem of_fields
    (fields : ∀ name ∈ values.names, schema.HasField name) :
    HoldsAnswers schema (values.filter FormSession.hasValue) := by
  intro name value member
  obtain ⟨given, valued⟩ := List.mem_filter.mp member
  exact ⟨hasValue_iff.mp valued, fields name (List.mem_map_of_mem given)⟩

/-- Nothing is left out of answers. -/
theorem filter_hasValue
    (holds : HoldsAnswers schema values) :
    values.filter FormSession.hasValue = values := by
  have allKept : values.fields.filter FormSession.hasValue = values.fields := by
    refine List.filter_eq_self.mpr ?_
    rintro ⟨name, value⟩ member
    exact hasValue_iff.mpr (holds name value member).1
  unfold FieldValues.filter
  simp only [allKept]

/-- An edit of fields makes answers of answers. -/
theorem applied
    {edit : FormSession.Edit}
    (holds : HoldsAnswers schema values)
    (fields : ∀ name ∈ edit.names, schema.HasField name) :
    HoldsAnswers schema (edit.applied values) := by
  cases edit with
  | set name value =>
      have field : schema.HasField name := fields name (List.mem_singleton.mpr rfl)
      cases value with
      | null =>
          exact holds.filter _
      | _ =>
          exact holds.insert field (by simp)
  | clear name =>
      exact holds.filter _
  | replace given =>
      exact of_fields fields

end HoldsAnswers

namespace FormSession

variable {schema : Schema} {session changed opened : FormSession} {values : FieldValues}

namespace UpToDate

theorem withEntries
    (holds : HoldsAnswers schema values) :
    UpToDate schema (FormSession.withEntries schema values) where
  sameSchema := rfl
  holdsAnswers := holds
  visible := rfl

theorem start
    (schema : Schema) :
    UpToDate schema (FormSession.start schema) := by
  refine withEntries ?_
  intro name value member
  cases member

/-- A session whose parts fit together is determined by its values. -/
theorem eq_withEntries
    (upToDate : UpToDate schema session) :
    session = FormSession.withEntries schema session.values := by
  unfold FormSession.withEntries
  rw [← upToDate.visible, ← upToDate.sameSchema]

theorem edited
    (upToDate : UpToDate schema session)
    {edit : Edit}
    (succeeded : session.edit edit = .ok changed) :
    UpToDate schema changed := by
  obtain ⟨fields, rfl⟩ := edit_eq_ok_iff.mp succeeded
  rw [upToDate.sameSchema] at fields ⊢
  exact withEntries (upToDate.holdsAnswers.applied fields)

theorem perform
    (upToDate : UpToDate schema session)
    (edit : Edit) :
    UpToDate schema (session.perform edit) := by
  cases attempted : session.edit edit with
  | error fault =>
      rwa [perform_of_error attempted]
  | ok changed =>
      rw [perform_of_ok attempted]
      exact upToDate.edited attempted

/-- Every run of edits keeps the parts of a session together. -/
theorem run
    (upToDate : UpToDate schema session)
    (edits : List Edit) :
    UpToDate schema (session.run edits) := by
  induction edits generalizing session with
  | nil =>
      exact upToDate
  | cons edit rest inductionHypothesis =>
      exact inductionHypothesis (upToDate.perform edit)

theorem of_opened
    (opens : Opened schema opened) :
    UpToDate schema opened := by
  cases opens with
  | blank =>
      exact start schema
  | @saved values _ opens =>
      have replaced : (FormSession.start schema).edit (.replace values) = .ok opened :=
        opens
      exact (start schema).edited replaced

theorem of_reached
    (reached : Reached schema session) :
    UpToDate schema session := by
  obtain ⟨opened, edits, opens, rfl⟩ := reached
  exact (of_opened opens).run edits

end UpToDate

/-- A form opens with answers to its fields, and keeps each of them. -/
theorem withValues_of_holdsAnswers
    (holds : HoldsAnswers schema values) :
    withValues schema values = .ok (withEntries schema values) := by
  have opens :
      (start schema).edit (.replace values) =
        .ok (withEntries schema (values.filter hasValue)) := by
    refine edit_eq_ok_iff.mpr ⟨?_, rfl⟩
    intro name member
    obtain ⟨⟨_, value⟩, inValues, rfl⟩ := List.mem_map.mp member
    exact (holds _ value inValues).2
  rwa [holds.filter_hasValue] at opens

theorem UpToDate.withValues
    (upToDate : UpToDate schema session) :
    FormSession.withValues schema session.values = .ok session := by
  rw [withValues_of_holdsAnswers upToDate.holdsAnswers, ← upToDate.eq_withEntries]

/--
Whatever edits are made on a session in place, its values stay answers to the
fields of its form and its visible set the one of these values; an edit that is
refused has changed nothing; and the session is the one that opens with its
values.  Two sessions on a form with the same values are therefore the same,
whichever edits led to them.
-/
theorem every_run_reopens
    (opens : Opened schema opened)
    (edits : List Edit) :
    let session := opened.run edits
    HoldsAnswers schema session.values ∧
      session.visible = Visibility.visibleIds schema.elements session.values ∧
      (∀ edit changed, session.edit edit = .ok changed → session.perform edit = changed) ∧
      (∀ edit fault, session.edit edit = .error fault → session.perform edit = session) ∧
      withValues schema session.values = .ok session ∧
      ∀ other, Reached schema other → other.values = session.values → other = session := by
  intro session
  have upToDate : UpToDate schema session := (UpToDate.of_opened opens).run edits
  refine ⟨upToDate.holdsAnswers, upToDate.visible, fun _ _ => perform_of_ok,
    fun _ _ => perform_of_error, upToDate.withValues, ?_⟩
  intro other reached sameValues
  rw [(UpToDate.of_reached reached).eq_withEntries, sameValues, ← upToDate.eq_withEntries]

def leakFound : Element :=
  { id := "a", type := .checkbox, name := "leak_found", label := "Leak found" }

/-- The place of a leak is asked for where one was found. -/
def leakPlace : Element :=
  { id := "b", type := .text, name := "leak_place", label := "Place of the leak"
    rule := some ⟨true, .shown, [⟨"leak_found", .equals, .bool true⟩]⟩ }

/-- The repair is asked for where there is a place of it. -/
def leakRepair : Element :=
  { id := "c", type := .text, name := "repair", label := "Repair"
    rule := some ⟨true, .shown, [⟨"leak_place", .isNotEmpty, .null⟩]⟩ }

/-- A form with a heading and three fields, each of which is asked for by the one before. -/
def leakForm : Schema where
  draft := {
    elements :=
      [{ id := "h", type := .header, name := "section" }, leakFound, leakPlace, leakRepair]
    settings := { requireGpsLocation := true } }
  faultless := by decide

/-- Answers for all fields of the form, and one for a field that it does not have. -/
def withNote : FieldValues :=
  .ofFields
    [("leak_found", .bool false), ("leak_place", .string "cellar"),
      ("note", .string "dry"), ("repair", .string "sealed")]

/-- Entering a place, entering text under a heading, which is refused, and leaving the place out. -/
def placeTakenBack : List Edit :=
  [.set "leak_found" (.bool true), .set "leak_place" (.string "cellar"),
    .set "section" (.string "done"), .set "leak_place" .null]

/--
After a run in which one edit was refused, all values are replaced but for one
that belongs to no field: the session is as it was and still opens with its
values.
-/
theorem every_run_reopens_after_refusal :
    let session := (start leakForm).run placeTakenBack
    Opened leakForm (start leakForm) ∧
      session.edit (.replace withNote) = .error (.noSuchField "note") ∧
      session.perform (.replace withNote) = session ∧
      session.visible = ["a", "b", "h"] ∧
      withValues leakForm session.values = .ok session := by
  intro session
  have opens : Opened leakForm (start leakForm) := .blank
  have refused : session.edit (.replace withNote) = .error (.noSuchField "note") := rfl
  obtain ⟨_, _, _, unchanged, reopens, _⟩ := every_run_reopens opens placeTakenBack
  exact ⟨opens, refused, unchanged _ _ refused, by decide, reopens⟩

end FormSession

end Fieldwork
