import Fieldwork.Json.Reader
import Fieldwork.Json.Typed
import Fieldwork.Task.Basic

namespace Fieldwork

/-!
# Stored tasks

The stored form of a task and its parts, and how each part is read again.  A
step writes all its fields, with null for absent ones; an authored outcome
leaves out a missing target.  What is read is checked by the same functions
that build outcomes, steps and tasks from parts.
-/

open Json (Document Reading ReadFault)
open Json.Document

/-- The result of reading a part of a task. -/
abbrev TaskReading (α : Type) : Type :=
  Reading TaskFault α

/-- A built value, or the refusal of its parts. -/
def accept :
    Except TaskFault α →
    TaskReading α
  | .ok value => .ok value
  | .error fault => .error (.refused fault)

/-- An integer of 64 bits as a value. -/
def Json.ofInt64
    (value : Int64) :
    Json :=
  .ofInt value.toInt

/-- An integer of 32 bits as a value. -/
def Json.ofInt32
    (value : Int32) :
    Json :=
  .ofInt value.toInt

namespace SolidText

/-- Read a text that holds more than blank characters. -/
def read
    (document : Document) :
    TaskReading SolidText := do
  let text ← document.readString
  accept (ofString text)

end SolidText

namespace AuthoredOutcome

def fieldNames : List String :=
  ["id", "label", "action", "next_step"]

/-- The stored form of an authored outcome. -/
def toJson
    (outcome : AuthoredOutcome) :
    Json :=
  .ofFields
    ([("id", .string outcome.id),
      ("label", .string outcome.label),
      ("action", .string outcome.action.name)] ++
      Json.optionalField "next_step" .ofInt32 outcome.action.target?)

/-- The action with a stored name; only a jump takes a target. -/
def action?
    (target : Option Int32) :
    String →
    Option OutcomeAction
  | "next" => some .next
  | "repeat" => some .again
  | "jump" => some (.jump target)
  | _ => none

/-- An authored outcome as far as its fields are read. -/
structure Parts where
  id : Option String := none
  label : String := ""
  action : Option OutcomeAction := none
  target : Option Int32 := none

/-- Take one field of an authored outcome. -/
def Parts.take
    (parts : Parts)
    (name : String)
    (value : Document) :
    TaskReading Parts :=
  match name with
  | "id" => value.readString.map fun id => { parts with id := some id }
  | "label" => value.readString.map fun label => { parts with label := label }
  | "action" =>
      (value.readChoice (action? none)).map
        fun action => { parts with action := some action }
  | _ =>
      (value.readOptional readInt32).map fun target => { parts with target := target }

def read
    (document : Document) :
    TaskReading AuthoredOutcome := do
  let parts ← document.readRecord fieldNames Parts.take {}
  let id ← demand parts.id
  let action ← demand parts.action
  let aimed :=
    match action with
    | .jump _ => .jump parts.target
    | other => other
  accept (build id parts.label aimed)

end AuthoredOutcome

namespace Step

def fieldNames : List String :=
  ["id", "template_step_id", "name", "status", "step_order", "is_conditional",
    "forced_conditional", "success_record_type", "success_options", "completed_at",
    "performed_by"]

def toJson
    (step : Step) :
    Json :=
  .ofFields
    [("id", .ofInt64 step.id),
      ("template_step_id", .ofOption .ofInt64 step.plan.templateStepId),
      ("name", .string step.name),
      ("status", .string step.status.name),
      ("step_order", .ofInt32 step.order),
      ("is_conditional", .bool step.plan.isConditional),
      ("forced_conditional", .bool step.plan.forcedConditional),
      ("success_record_type", .string step.plan.recordKind.name),
      ("success_options", .array (step.plan.outcomes.map AuthoredOutcome.toJson)),
      ("completed_at",
        .ofOption (fun time => .string (time.render .exact)) step.record.completedAt),
      ("performed_by", .ofOption .string step.record.performedBy)]

/-- A step as far as its fields are read. -/
structure Parts where
  id : Option Int64 := none
  templateStepId : Option Int64 := none
  name : Option String := none
  status : StepStatus := .pending
  order : Option Int32 := none
  isConditional : Bool := false
  forcedConditional : Bool := false
  recordKind : RecordKind := .none
  outcomes : List AuthoredOutcome := []
  completedAt : Option Timestamp := none
  performedBy : Option String := none

/-- Read a status; any name that is not known reads as unrecognized. -/
def readStatus
    (document : Document) :
    TaskReading StepStatus :=
  document.readChoice fun name => some (StepStatus.ofName name)

def readTime
    (document : Document) :
    TaskReading Timestamp := do
  let written ← document.readString
  demand (Timestamp.read written)

def Parts.take
    (parts : Parts)
    (name : String)
    (value : Document) :
    TaskReading Parts :=
  match name with
  | "id" => value.readInt64.map fun id => { parts with id := some id }
  | "template_step_id" =>
      (value.readOptional readInt64).map
        fun templateStepId => { parts with templateStepId := templateStepId }
  | "name" => value.readString.map fun name => { parts with name := some name }
  | "status" => (readStatus value).map fun status => { parts with status := status }
  | "step_order" => value.readInt32.map fun order => { parts with order := some order }
  | "is_conditional" =>
      value.readBool.map fun conditional => { parts with isConditional := conditional }
  | "forced_conditional" =>
      value.readBool.map fun forced => { parts with forcedConditional := forced }
  | "success_record_type" =>
      (value.readOrDefault .none fun value => value.readChoice RecordKind.ofName?).map
        fun kind => { parts with recordKind := kind }
  | "success_options" =>
      (value.readOrDefault [] fun value => value.readList AuthoredOutcome.read).map
        fun outcomes => { parts with outcomes := outcomes }
  | "completed_at" =>
      (value.readOptional readTime).map
        fun completedAt => { parts with completedAt := completedAt }
  | _ =>
      (value.readOptional readString).map
        fun performedBy => { parts with performedBy := performedBy }

def read
    (document : Document) :
    TaskReading Step := do
  let parts ← document.readRecord fieldNames Parts.take {}
  let id ← demand parts.id
  let name ← demand parts.name
  let order ← demand parts.order
  accept (build {
    id, name, order
    templateStepId := parts.templateStepId
    isConditional := parts.isConditional
    forcedConditional := parts.forcedConditional
    recordKind := parts.recordKind
    outcomes := parts.outcomes
    record := ⟨parts.status, parts.completedAt, parts.performedBy⟩ })

end Step

namespace FieldTask

def fieldNames : List String :=
  ["id", "template_id", "steps", "completion_percentage"]

def toJson
    (task : FieldTask) :
    Json :=
  .ofFields
    [("id", .ofInt64 task.id),
      ("template_id", .ofOption .ofInt64 task.templateId),
      ("steps", .array (task.steps.map Step.toJson)),
      ("completion_percentage", .ofReal task.percentage.value)]

/-- A task as far as its fields are read. -/
structure Parts where
  id : Option Int64 := none
  templateId : Option Int64 := none
  steps : List Step := []
  percentage : Binary64 := Binary64.zero false

def Parts.take
    (parts : Parts)
    (name : String)
    (value : Document) :
    TaskReading Parts :=
  match name with
  | "id" => value.readInt64.map fun id => { parts with id := some id }
  | "template_id" =>
      (value.readOptional readInt64).map
        fun templateId => { parts with templateId := templateId }
  | "steps" =>
      (value.readList Step.read).map fun steps => { parts with steps := steps }
  | _ =>
      (Document.readReal value).map
        fun percentage => { parts with percentage := percentage }

def read
    (document : Document) :
    TaskReading FieldTask := do
  let parts ← document.readRecord fieldNames Parts.take {}
  let id ← demand parts.id
  accept (build {
    id
    templateId := parts.templateId
    steps := parts.steps
    percentage := parts.percentage })

def ofJson
    (value : Json) :
    TaskReading FieldTask :=
  read (.ofJson value)

/-- Read a task that is written as a text. -/
def ofText
    (text : String) :
    TaskReading FieldTask :=
  match Document.ofText text with
  | (document, complete) =>
      (read document).bind fun task => if complete then .ok task else .error .malformed

end FieldTask

end Fieldwork
