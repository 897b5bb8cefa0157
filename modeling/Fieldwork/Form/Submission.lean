import Fieldwork.Form.Stored
import Fieldwork.Form.Validation
import Fieldwork.Timestamp

namespace Fieldwork

/-!
# Submissions

A submission carries the values of the visible fields, facts about itself, and
the captured location where the form asks for one.  Its payload holds these
under one roof: the values under their names, the location and the facts under
two reserved names.
-/

open Json (Document)
open Json.Document

structure GpsLocation where
  latitude : Binary64
  longitude : Binary64
  accuracy : Option Binary64
  timestamp : Timestamp
  deriving DecidableEq, Repr

structure FormMetadata where
  formName : String
  formType : String
  submittedAt : Timestamp
  offline : Bool
  deriving DecidableEq, Repr

/-- Values ready to be sent. -/
structure Submission where
  values : FieldValues
  /-- Missing where the form does not ask; `some none` where capture failed. -/
  gpsLocation : Option (Option GpsLocation)
  metadata : FormMetadata

def Timestamp.ofDocument
    (document : Document) :
    FormReading Timestamp := do
  let written ← document.readString
  demand (Timestamp.read written)

def Timestamp.toJson
    (precision : Timestamp.Precision)
    (time : Timestamp) :
    Json :=
  .string (time.render precision)

namespace GpsLocation

def fieldNames : List String :=
  ["latitude", "longitude", "accuracy", "timestamp"]

def toJson
    (precision : Timestamp.Precision)
    (location : GpsLocation) :
    Json :=
  .ofFields
    [("latitude", .ofReal location.latitude),
      ("longitude", .ofReal location.longitude),
      ("accuracy", .ofOption .ofReal location.accuracy),
      ("timestamp", location.timestamp.toJson precision)]

/-- A location as far as its fields are read. -/
structure Parts where
  latitude : Option Binary64 := none
  longitude : Option Binary64 := none
  accuracy : Option Binary64 := none
  timestamp : Option Timestamp := none

def Parts.take
    (parts : Parts)
    (name : String)
    (value : Document) :
    FormReading Parts :=
  match name with
  | "latitude" =>
      (Document.readReal value).map fun latitude => { parts with latitude := some latitude }
  | "longitude" =>
      (Document.readReal value).map
        fun longitude => { parts with longitude := some longitude }
  | "accuracy" =>
      (value.readOptional Document.readReal).map
        fun accuracy => { parts with accuracy := accuracy }
  | _ =>
      (Timestamp.ofDocument value).map
        fun timestamp => { parts with timestamp := some timestamp }

def read
    (document : Document) :
    FormReading GpsLocation := do
  let parts ← document.readRecord fieldNames Parts.take {}
  let latitude ← demand parts.latitude
  let longitude ← demand parts.longitude
  let timestamp ← demand parts.timestamp
  return ⟨latitude, longitude, parts.accuracy, timestamp⟩

end GpsLocation

namespace FormMetadata

/-- The fields of the facts about a submission. -/
def fieldNames : List String :=
  ["form_name", "form_type", "submitted_at", "offline"]

/-- The stored form of the facts about a submission. -/
def toJson
    (precision : Timestamp.Precision)
    (metadata : FormMetadata) :
    Json :=
  .ofFields
    [("form_name", .string metadata.formName),
      ("form_type", .string metadata.formType),
      ("submitted_at", metadata.submittedAt.toJson precision),
      ("offline", .bool metadata.offline)]

/-- The facts about a submission as far as they are read. -/
structure Parts where
  formName : Option String := none
  formType : Option String := none
  submittedAt : Option Timestamp := none
  offline : Option Bool := none

/-- Take one field of the facts about a submission. -/
def Parts.take
    (parts : Parts)
    (name : String)
    (value : Document) :
    FormReading Parts :=
  match name with
  | "form_name" => value.readString.map fun name => { parts with formName := some name }
  | "form_type" => value.readString.map fun type => { parts with formType := some type }
  | "submitted_at" =>
      (Timestamp.ofDocument value).map
        fun time => { parts with submittedAt := some time }
  | _ => value.readBool.map fun offline => { parts with offline := some offline }

def read
    (document : Document) :
    FormReading FormMetadata := do
  let parts ← document.readRecord fieldNames Parts.take {}
  let formName ← demand parts.formName
  let formType ← demand parts.formType
  let submittedAt ← demand parts.submittedAt
  let offline ← demand parts.offline
  return ⟨formName, formType, submittedAt, offline⟩

end FormMetadata

namespace Submission

/-- The values with the location and the facts under their reserved names. -/
def payloadValues
    (submission : Submission) :
    FieldValues :=
  let located :=
    match submission.gpsLocation with
    | none => submission.values
    | some location =>
        submission.values.insert gpsLocationName
          (.ofOption (GpsLocation.toJson .millis) location)
  located.insert formMetadataName (submission.metadata.toJson .millis)

def payload
    (submission : Submission) :
    Json :=
  submission.payloadValues.toJson

end Submission

namespace FormSession

/-- The entries of the visible fields that have a value. -/
def visibleEntries
    (session : FormSession) :
    List (String × Json) :=
  session.visibleFields.filterMap fun element =>
    (session.values.get? element.name).map fun value => (element.name, value)

/--
Build a submission.  It is refused when a visible field has a problem, and
when the device is offline and the form does not allow that.  The location is
kept only where the form asks for it.
-/
def submit
    (session : FormSession)
    (metadata : FormMetadata)
    (location : Option GpsLocation) :
    Except FormFault Submission :=
  let problems := session.validate
  if problems ≠ [] then
    .error (.invalidFields problems)
  else if metadata.offline && !session.schema.settings.allowOffline then
    .error (.offline metadata.formName)
  else
    .ok {
      values := .ofFields session.visibleEntries
      gpsLocation :=
        if session.schema.settings.requireGpsLocation then some location else none
      metadata := metadata }

end FormSession

end Fieldwork
