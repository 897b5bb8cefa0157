import Fieldwork.Form.Submission
import Fieldwork.Proofs.Form.Edits
import Fieldwork.Proofs.Form.Visible

namespace Fieldwork

/-!
# What a submission sends

A submission carries the values of the visible fields, each under its name.
Its payload sends these beside the location and the facts, which stand under
names that no field of a checked form has.
-/

/-- A location is sent as an object of its four parts, with null for an unknown accuracy. -/
theorem GpsLocation.toJson_millis
    (location : GpsLocation) :
    location.toJson .millis =
      .object
        [("accuracy", location.accuracy.elim .null fun accuracy => .number (.real accuracy)),
          ("latitude", .number (.real location.latitude)),
          ("longitude", .number (.real location.longitude)),
          ("timestamp", .string (location.timestamp.render .millis))] := by
  simp (disch := decide) only [toJson, Json.ofFields, Json.sortFields, List.foldl_cons,
    List.foldl_nil, Json.insertField, if_pos, if_neg]
  cases location.accuracy <;> rfl

theorem FormMetadata.toJson_millis
    (metadata : FormMetadata) :
    metadata.toJson .millis =
      .object
        [("form_name", .string metadata.formName),
          ("form_type", .string metadata.formType),
          ("offline", .bool metadata.offline),
          ("submitted_at", .string (metadata.submittedAt.render .millis))] := by
  simp (disch := decide) only [toJson, Json.ofFields, Json.sortFields, List.foldl_cons,
    List.foldl_nil, Json.insertField, if_pos, if_neg]
  rfl

namespace Submission

variable {submission : Submission} {name : String} {value : Json}

/-- The location and the facts stand beside values that leave their names free. -/
theorem mem_payloadValues_iff
    (free :
      ∀ name value,
        (name, value) ∈ submission.values.fields → isReservedName name = false) :
    (name, value) ∈ submission.payloadValues.fields ↔
      (name, value) ∈ submission.values.fields ∨
        (name = formMetadataName ∧ value = submission.metadata.toJson .millis) ∨
        (name = gpsLocationName ∧
          ∃ location, submission.gpsLocation = some location ∧
            value = .ofOption (GpsLocation.toJson .millis) location) := by
  have factsFree : ∀ value, (formMetadataName, value) ∉ submission.values.fields :=
    fun value member => Bool.noConfusion (free _ value member)
  have locationFree : ∀ value, (gpsLocationName, value) ∉ submission.values.fields :=
    fun value member => Bool.noConfusion (free _ value member)
  unfold payloadValues
  cases submission.gpsLocation with
  | none =>
      rw [FieldValues.mem_fields_insert_of_absent_iff factsFree]
      simp [or_comm]
  | some location =>
      have factsFreeBesideLocation :
          ∀ value,
            (formMetadataName, value) ∉
              (submission.values.insert gpsLocationName
                (.ofOption (GpsLocation.toJson .millis) location)).fields := by
        intro value member
        rw [FieldValues.mem_fields_insert_of_absent_iff locationFree] at member
        rcases member with ⟨sameName, _⟩ | inValues
        · exact absurd sameName (by decide)
        · exact factsFree value inValues
      rw [FieldValues.mem_fields_insert_of_absent_iff factsFreeBesideLocation,
        FieldValues.mem_fields_insert_of_absent_iff locationFree]
      simp only [Option.some.injEq, exists_eq_left']
      tauto

end Submission

namespace FormSession

variable {schema : Schema} {session : FormSession} {metadata : FormMetadata}
  {location : Option GpsLocation} {submission : Submission} {element : Element}
  {name : String} {value : Json}

/-- The visible fields are the elements with a value that their rules show. -/
theorem UpToDate.mem_visibleFields_iff
    (upToDate : UpToDate schema session) :
    element ∈ session.visibleFields ↔
      element ∈ schema.elements ∧
        Visibility.isVisible (schema.elements.map Element.name) session.values element = true ∧
        element.carriesValue = true := by
  rw [FormSession.mem_visibleFields_iff, upToDate.sameSchema, upToDate.visible]
  refine and_congr_right fun inForm => and_congr_left' ?_
  exact Schema.mem_visibleIds_iff inForm

/-- A form is submitted where it has no problem, and offline only where it allows that. -/
theorem submit_eq_ok_iff :
    session.submit metadata location = .ok submission ↔
      session.validate = [] ∧
        ¬ (metadata.offline = true ∧ session.schema.settings.allowOffline = false) ∧
        submission = {
          values := .ofFields session.visibleEntries
          gpsLocation :=
            if session.schema.settings.requireGpsLocation then some location else none
          metadata := metadata } := by
  unfold submit
  simp only
  split
  · rename_i problems
    simp [problems]
  · rename_i noProblem
    rw [not_not] at noProblem
    split
    · rename_i offline
      simp only [Bool.and_eq_true, Bool.not_eq_true'] at offline
      simp [offline]
    · rename_i allowed
      simp only [Bool.and_eq_true, Bool.not_eq_true'] at allowed
      simp only [noProblem, allowed, not_false_eq_true, true_and, Except.ok.injEq,
        @eq_comm _ submission]

theorem mem_visibleEntries_iff :
    (name, value) ∈ session.visibleEntries ↔
      ∃ element ∈ session.visibleFields,
        element.name = name ∧ session.values.get? name = some value := by
  unfold visibleEntries
  rw [List.mem_filterMap]
  refine exists_congr fun element => and_congr_right fun _ => ?_
  rw [Option.map_eq_some_iff]
  constructor
  · rintro ⟨_, found, same⟩
    obtain ⟨rfl, rfl⟩ := Prod.mk.inj same
    exact ⟨rfl, found⟩
  · rintro ⟨rfl, found⟩
    exact ⟨value, found, rfl⟩

/-- No two visible fields have one name. -/
theorem visibleEntries_names_nodup
    (session : FormSession) :
    (session.visibleEntries.map Prod.fst).Nodup := by
  have distinct : (session.visibleFields.map Element.name).Nodup := by
    refine session.schema.names_nodup.sublist (List.Sublist.map _ ?_)
    exact List.filter_sublist.trans List.filter_sublist
  unfold visibleEntries
  refine List.pairwise_map.mpr ?_
  refine (List.pairwise_map.mp distinct).filterMap _ ?_
  intro left right apart leftEntry isLeft rightEntry isRight
  obtain ⟨_, _, rfl⟩ := Option.map_eq_some_iff.mp isLeft
  obtain ⟨_, _, rfl⟩ := Option.map_eq_some_iff.mp isRight
  exact apart

/-- A submission carries what the visible fields hold. -/
theorem mem_submittedFields_iff :
    (name, value) ∈ (FieldValues.ofFields session.visibleEntries).fields ↔
      ∃ element ∈ session.visibleFields,
        element.name = name ∧ session.values.get? name = some value := by
  rw [FieldValues.mem_fields_ofFields_iff session.visibleEntries_names_nodup,
    mem_visibleEntries_iff]

/-- What a submission carries leaves the names of the submission itself free. -/
theorem not_isReservedName_of_submitted
    (member : (name, value) ∈ (FieldValues.ofFields session.visibleEntries).fields) :
    isReservedName name = false := by
  obtain ⟨element, inFields, rfl, _⟩ := mem_submittedFields_iff.mp member
  exact Schema.not_isReservedName (mem_visibleFields_iff.mp inFields).1

/--
A form can be submitted exactly where it has no problem and is not offline
against its settings.  The payload is then an object that sends, once each, the
values of the fields that their rules show, as the session holds them, the
facts, and the location where the form asks for one, part by part, or null where
there is none.
-/
theorem payload_of_submission
    (reached : Reached schema session)
    (metadata : FormMetadata)
    (location : Option GpsLocation) :
    ((∃ submission, session.submit metadata location = .ok submission) ↔
        session.validate = [] ∧
          ¬ (metadata.offline = true ∧ schema.settings.allowOffline = false)) ∧
      ∀ submission,
        session.submit metadata location = .ok submission →
        ∃ fields,
          submission.payload = .object fields ∧
            (fields.map Prod.fst).Nodup ∧
            ∀ name value,
              (name, value) ∈ fields ↔
                (∃ element ∈ schema.elements,
                  element.name = name ∧
                    Visibility.isVisible (schema.elements.map Element.name)
                      session.values element = true ∧
                    element.carriesValue = true ∧
                    session.values.get? name = some value) ∨
                (name = "_form_metadata" ∧
                  value =
                    .object
                      [("form_name", .string metadata.formName),
                        ("form_type", .string metadata.formType),
                        ("offline", .bool metadata.offline),
                        ("submitted_at", .string (metadata.submittedAt.render .millis))]) ∨
                (name = "_gps_location" ∧ schema.settings.requireGpsLocation = true ∧
                  (location = none ∧ value = .null ∨
                    ∃ captured,
                      location = some captured ∧
                        value =
                          .object
                            [("accuracy",
                                captured.accuracy.elim .null
                                  fun accuracy => .number (.real accuracy)),
                              ("latitude", .number (.real captured.latitude)),
                              ("longitude", .number (.real captured.longitude)),
                              ("timestamp",
                                .string (captured.timestamp.render .millis))])) := by
  have upToDate := UpToDate.of_reached reached
  obtain rfl := upToDate.sameSchema
  constructor
  · simp only [submit_eq_ok_iff, exists_and_left, exists_eq, and_true]
  · intro submission submitted
    obtain ⟨_, _, rfl⟩ := submit_eq_ok_iff.mp submitted
    refine ⟨_, rfl, FieldValues.names_nodup _, ?_⟩
    intro name value
    rw [Submission.mem_payloadValues_iff fun _ _ => not_isReservedName_of_submitted,
      mem_submittedFields_iff]
    refine or_congr (exists_congr fun element => ?_) (or_congr ?_ (and_congr_right' ?_))
    · rw [upToDate.mem_visibleFields_iff]
      tauto
    · rw [FormMetadata.toJson_millis]
      rfl
    · cases location with
      | none =>
          cases session.schema.settings.requireGpsLocation <;> simp [Json.ofOption]
      | some captured =>
          cases session.schema.settings.requireGpsLocation <;>
            simp [Json.ofOption, GpsLocation.toJson_millis]

/-- A leak that was repaired, and then was said not to have been found. -/
def leakDenied : FormSession :=
  (start leakForm).run
    [.set "leak_found" (.bool true), .set "leak_place" (.string "cellar"),
      .set "repair" (.string "sealed"), .set "leak_found" (.bool false)]

theorem reached_leakDenied :
    Reached leakForm leakDenied :=
  ⟨_, _, .blank, rfl⟩

def noon : Timestamp :=
  ⟨⟨2024, 1, 1⟩, 43200, 0⟩

def leakReport : FormMetadata :=
  ⟨"Leaks", "survey", noon, false⟩

def onTheMeridian : GpsLocation :=
  ⟨.zero true, .zero false, none, noon⟩

/-- The place is hidden and not sent; the repair, the facts and the location are. -/
theorem payload_of_submission_leak_denied :
    Reached leakForm leakDenied ∧
      ∃ submission fields,
        leakDenied.submit leakReport (some onTheMeridian) = .ok submission ∧
          submission.payload = .object fields ∧
          ("repair", .string "sealed") ∈ fields ∧
          ("_form_metadata",
            .object
              [("form_name", .string "Leaks"), ("form_type", .string "survey"),
                ("offline", .bool false),
                ("submitted_at", .string "2024-01-01T12:00:00.000Z")]) ∈ fields ∧
          ("_gps_location",
            .object
              [("accuracy", .null), ("latitude", .number (.real (.zero true))),
                ("longitude", .number (.real (.zero false))),
                ("timestamp", .string "2024-01-01T12:00:00.000Z")]) ∈ fields ∧
          ∀ value, ("leak_place", value) ∉ fields := by
  obtain ⟨possible, sent⟩ :=
    payload_of_submission reached_leakDenied leakReport (some onTheMeridian)
  obtain ⟨submission, submitted⟩ := possible.mpr ⟨by decide, by decide⟩
  obtain ⟨fields, isObject, _, sends⟩ := sent submission submitted
  have atNoon : noon.render .millis = "2024-01-01T12:00:00.000Z" := by decide
  refine ⟨reached_leakDenied, submission, fields, submitted, isObject, ?_, ?_, ?_, ?_⟩
  · refine (sends _ _).mpr (.inl ⟨leakRepair, ?_, rfl, by decide, rfl, rfl⟩)
    simp [leakForm, Schema.elements]
  · rw [← atNoon]
    exact (sends _ _).mpr (.inr (.inl ⟨rfl, rfl⟩))
  · rw [← atNoon]
    exact (sends _ _).mpr (.inr (.inr ⟨rfl, rfl, .inr ⟨onTheMeridian, rfl, rfl⟩⟩))
  · intro value member
    rcases (sends _ _).mp member with
      ⟨element, inForm, named, visible, _⟩ | ⟨named, _⟩ | ⟨named, _⟩
    · have isPlace : element = leakPlace :=
        Schema.eq_of_name_eq inForm (by simp [leakForm, Schema.elements]) named
      subst isPlace
      exact absurd visible (by decide)
    · exact absurd named (by decide)
    · exact absurd named (by decide)

end FormSession

end Fieldwork
