import Fieldwork.Form.Submission
import Fieldwork.Proofs.Form.Edits
import Fieldwork.Proofs.Form.Visible

namespace Fieldwork.FormSession

/-!
# What hidden answers do not change

Two sessions on a form are compared.  Where their values agree on what the
rules look at, the same elements are visible; where they agree on the visible
fields as well, they have the same problems and the same submissions.  Nothing
else that a session holds is ever looked at.
-/

variable {schema : Schema} {session session' : FormSession} {element : Element}

/-- The problem of a field depends on the form and on the value of this field. -/
theorem problem?_congr
    (sameSchema : session.schema = session'.schema)
    (sameValue : session.values.get? element.name = session'.values.get? element.name) :
    session.problem? element = session'.problem? element := by
  unfold problem?
  rw [sameSchema, sameValue]

theorem visibleFields_congr
    (sameSchema : session.schema = session'.schema)
    (sameVisible : session.visible = session'.visible) :
    session.visibleFields = session'.visibleFields := by
  unfold visibleFields visibleElements
  rw [sameSchema, sameVisible]

/-- Sessions with the same visible fields and the same values there have the same problems. -/
theorem validate_congr
    (sameSchema : session.schema = session'.schema)
    (sameFields : session.visibleFields = session'.visibleFields)
    (agree :
      FieldValues.AgreeOn (session.visibleFields.map Element.name)
        session.values session'.values) :
    session.validate = session'.validate := by
  unfold validate
  rw [← sameFields]
  refine List.filterMap_congr ?_
  intro element member
  exact problem?_congr sameSchema (agree element.name (List.mem_map_of_mem member))

/-- They also have the same entries there. -/
theorem visibleEntries_congr
    (sameFields : session.visibleFields = session'.visibleFields)
    (agree :
      FieldValues.AgreeOn (session.visibleFields.map Element.name)
        session.values session'.values) :
    session.visibleEntries = session'.visibleEntries := by
  unfold visibleEntries
  rw [← sameFields]
  refine List.filterMap_congr ?_
  intro element member
  rw [agree element.name (List.mem_map_of_mem member)]

/-- A submission is made of the form, the problems and the entries of the visible fields. -/
theorem submit_congr
    (sameSchema : session.schema = session'.schema)
    (sameProblems : session.validate = session'.validate)
    (sameEntries : session.visibleEntries = session'.visibleEntries)
    (metadata : FormMetadata)
    (location : Option GpsLocation) :
    session.submit metadata location = session'.submit metadata location := by
  unfold submit
  rw [sameSchema, sameProblems, sameEntries]

/--
Hidden answers do not show.  Two sessions on a form whose values agree on what
its rules look at have the same visible elements; where the values agree on the
visible fields too, the problems are the same and so is every submission,
whatever else either session holds.
-/
theorem hidden_answers_do_not_show
    (reached : Reached schema session)
    (reached' : Reached schema session')
    (agreeOnWatched :
      FieldValues.AgreeOn schema.watched session.values session'.values) :
    session.visible = session'.visible ∧
      (FieldValues.AgreeOn (session.visibleFields.map Element.name)
          session.values session'.values →
        session.validate = session'.validate ∧
          ∀ metadata location,
            session.submit metadata location = session'.submit metadata location) := by
  have upToDate := UpToDate.of_reached reached
  have upToDate' := UpToDate.of_reached reached'
  have sameSchema : session.schema = session'.schema :=
    upToDate.sameSchema.trans upToDate'.sameSchema.symm
  have sameVisible : session.visible = session'.visible := by
    rw [upToDate.visible, upToDate'.visible, Schema.visibleIds_of_agreeOn agreeOnWatched]
  refine ⟨sameVisible, ?_⟩
  intro agree
  have sameFields := visibleFields_congr sameSchema sameVisible
  have sameProblems := validate_congr sameSchema sameFields agree
  exact ⟨sameProblems,
    submit_congr sameSchema sameProblems (visibleEntries_congr sameFields agree)⟩

/-- A leak whose repair was described before its place was taken back. -/
def placeCleared
    (repair : String) :
    FormSession :=
  (start leakForm).run
    [.set "leak_found" (.bool true), .set "leak_place" (.string "cellar"),
      .set "repair" (.string repair), .clear "leak_place"]

theorem reached_placeCleared
    (repair : String) :
    Reached leakForm (placeCleared repair) :=
  ⟨_, _, .blank, rfl⟩

/-- Two repairs, both hidden now, are described in one session each; nothing shows which. -/
theorem hidden_answers_do_not_show_repair :
    (placeCleared "sealed").values.get? "repair" = some (.string "sealed") ∧
      (placeCleared "replaced").values.get? "repair" = some (.string "replaced") ∧
      FieldValues.AgreeOn leakForm.watched
        (placeCleared "sealed").values (placeCleared "replaced").values ∧
      FieldValues.AgreeOn ((placeCleared "sealed").visibleFields.map Element.name)
        (placeCleared "sealed").values (placeCleared "replaced").values ∧
      (placeCleared "sealed").visible = (placeCleared "replaced").visible ∧
      (placeCleared "sealed").validate = (placeCleared "replaced").validate ∧
      ∀ metadata location,
        (placeCleared "sealed").submit metadata location =
          (placeCleared "replaced").submit metadata location := by
  have agreeOnPlace :
      FieldValues.AgreeOn ["leak_found", "leak_place"]
        (placeCleared "sealed").values (placeCleared "replaced").values := by
    intro name member
    simp only [List.mem_cons, List.not_mem_nil, or_false] at member
    rcases member with rfl | rfl <;> rfl
  have watched : leakForm.watched = ["leak_found", "leak_place"] := by decide
  have visible :
      (placeCleared "sealed").visibleFields.map Element.name =
        ["leak_found", "leak_place"] := by
    decide
  rw [watched, visible]
  obtain ⟨sameVisible, sameOutcome⟩ :=
    hidden_answers_do_not_show (reached_placeCleared "sealed")
      (reached_placeCleared "replaced") (watched ▸ agreeOnPlace)
  obtain ⟨sameProblems, sameSubmission⟩ := sameOutcome (visible ▸ agreeOnPlace)
  exact ⟨rfl, rfl, agreeOnPlace, agreeOnPlace, sameVisible, sameProblems, sameSubmission⟩

end Fieldwork.FormSession
