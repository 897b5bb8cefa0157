import Fieldwork.Form.Schema
import Fieldwork.Json.Reader
import Fieldwork.Json.Typed

namespace Fieldwork

/-!
# Stored forms

The stored form of a form and its parts, and how each part is read again.
Absent optional parts are left out when they are written, and null is read as
absent.  The names of fields are those of the authoring tool.
-/

open Json (Document Reading)
open Json.Document

abbrev FormReading (α : Type) : Type :=
  Reading FormFault α

namespace Condition

def fieldNames : List String :=
  ["field", "operator", "value"]

def toJson
    (condition : Condition) :
    Json :=
  .ofFields
    [("field", .string condition.field),
      ("operator", .string condition.operator.name),
      ("value", condition.operand)]

/-- A condition as far as its fields are read. -/
structure Parts where
  field : Option String := none
  operator : Option Operator := none
  operand : Json := .null

def Parts.take
    (parts : Parts)
    (name : String)
    (value : Document) :
    FormReading Parts :=
  match name with
  | "field" => value.readString.map fun field => { parts with field := some field }
  | "operator" =>
      (value.readChoice fun name => some (Operator.ofName name)).map
        fun operator => { parts with operator := some operator }
  | _ => value.readJson.map fun operand => { parts with operand := operand }

def read
    (document : Document) :
    FormReading Condition := do
  let parts ← document.readRecord fieldNames Parts.take {}
  let field ← demand parts.field
  let operator ← demand parts.operator
  return ⟨field, operator, parts.operand⟩

end Condition

namespace VisibilityRule

def fieldNames : List String :=
  ["enabled", "action", "conditions"]

/-- The stored form of a visibility rule. -/
def toJson
    (rule : VisibilityRule) :
    Json :=
  .ofFields
    [("enabled", .bool rule.enabled),
      ("action", .string rule.action.name),
      ("conditions", .array (rule.conditions.map Condition.toJson))]

/-- Take one field of a visibility rule. -/
def take
    (rule : VisibilityRule)
    (name : String)
    (value : Document) :
    FormReading VisibilityRule :=
  match name with
  | "enabled" => value.readBool.map fun enabled => { rule with enabled := enabled }
  | "action" =>
      (value.readChoice VisibilityAction.ofName?).map
        fun action => { rule with action := action }
  | _ =>
      (value.readList Condition.read).map
        fun conditions => { rule with conditions := conditions }

def read
    (document : Document) :
    FormReading VisibilityRule :=
  document.readRecord fieldNames take {}

end VisibilityRule

namespace Limits

def fieldNames : List String :=
  ["min", "max", "minLength", "maxLength", "pattern"]

def toJson
    (limits : Limits) :
    Json :=
  let ofLength (length : UInt64) : Json := .ofInt length.toNat
  .ofFields
    (Json.optionalField "min" .ofReal limits.least ++
      Json.optionalField "max" .ofReal limits.greatest ++
      Json.optionalField "minLength" ofLength limits.leastLength ++
      Json.optionalField "maxLength" ofLength limits.greatestLength ++
      Json.optionalField "pattern" .string limits.pattern)

def take
    (limits : Limits)
    (name : String)
    (value : Document) :
    FormReading Limits :=
  let readLength (document : Document) : FormReading UInt64 :=
    document.readNat.map Nat.toUInt64
  match name with
  | "min" => (value.readOptional Document.readReal).map fun least => { limits with least := least }
  | "max" =>
      (value.readOptional Document.readReal).map
        fun greatest => { limits with greatest := greatest }
  | "minLength" =>
      (value.readOptional readLength).map
        fun least => { limits with leastLength := least }
  | "maxLength" =>
      (value.readOptional readLength).map
        fun greatest => { limits with greatestLength := greatest }
  | _ =>
      (value.readOptional readString).map
        fun pattern => { limits with pattern := pattern }

def read
    (document : Document) :
    FormReading Limits :=
  document.readRecord fieldNames take {}

end Limits

namespace Element

def fieldNames : List String :=
  ["id", "type", "name", "label", "required", "options", "validation",
    "conditionalLogic", "placeholder", "helpText"]

def toJson
    (element : Element) :
    Json :=
  .ofFields
    ([("id", .string element.id),
      ("type", .string element.type.name),
      ("name", .string element.name),
      ("label", .string element.label),
      ("required", .bool element.required)] ++
      (if element.options.isEmpty then []
        else [("options", .array (element.options.map .string))]) ++
      Json.optionalField "validation" Limits.toJson element.limits ++
      Json.optionalField "conditionalLogic" VisibilityRule.toJson element.rule ++
      Json.optionalField "placeholder" .string element.placeholder ++
      Json.optionalField "helpText" .string element.helpText)

/-- An element as far as its fields are read. -/
structure Parts where
  id : Option String := none
  type : Option ElementType := none
  name : Option String := none
  label : String := ""
  required : Bool := false
  options : List String := []
  limits : Option Limits := none
  rule : Option VisibilityRule := none
  placeholder : Option String := none
  helpText : Option String := none

def Parts.take
    (parts : Parts)
    (name : String)
    (value : Document) :
    FormReading Parts :=
  match name with
  | "id" => value.readString.map fun id => { parts with id := some id }
  | "type" =>
      (value.readChoice ElementType.ofName?).map
        fun type => { parts with type := some type }
  | "name" => value.readString.map fun name => { parts with name := some name }
  | "label" => value.readString.map fun label => { parts with label := label }
  | "required" =>
      value.readBool.map fun required => { parts with required := required }
  | "options" =>
      (value.readList readString).map fun options => { parts with options := options }
  | "validation" =>
      (value.readOptional Limits.read).map fun limits => { parts with limits := limits }
  | "conditionalLogic" =>
      (value.readOptional VisibilityRule.read).map fun rule => { parts with rule := rule }
  | "placeholder" =>
      (value.readOptional readString).map
        fun placeholder => { parts with placeholder := placeholder }
  | _ =>
      (value.readOptional readString).map
        fun helpText => { parts with helpText := helpText }

def read
    (document : Document) :
    FormReading Element := do
  let parts ← document.readRecord fieldNames Parts.take {}
  let id ← demand parts.id
  let type ← demand parts.type
  let name ← demand parts.name
  return {
    id, type, name
    label := parts.label
    required := parts.required
    options := parts.options
    limits := parts.limits
    rule := parts.rule
    placeholder := parts.placeholder
    helpText := parts.helpText }

end Element

namespace FormSettings

def fieldNames : List String :=
  ["requireGpsLocation", "allowOffline", "submitLabel"]

def toJson
    (settings : FormSettings) :
    Json :=
  .ofFields
    ([("requireGpsLocation", .bool settings.requireGpsLocation),
      ("allowOffline", .bool settings.allowOffline)] ++
      Json.optionalField "submitLabel" .string settings.submitLabel)

def take
    (settings : FormSettings)
    (name : String)
    (value : Document) :
    FormReading FormSettings :=
  match name with
  | "requireGpsLocation" =>
      value.readBool.map fun required => { settings with requireGpsLocation := required }
  | "allowOffline" =>
      value.readBool.map fun allowed => { settings with allowOffline := allowed }
  | _ =>
      (value.readOptional readString).map
        fun label => { settings with submitLabel := label }

def read
    (document : Document) :
    FormReading FormSettings :=
  document.readRecord fieldNames take {}

end FormSettings

namespace FormDraft

def fieldNames : List String :=
  ["elements", "settings"]

def toJson
    (draft : FormDraft) :
    Json :=
  .ofFields
    [("elements", .array (draft.elements.map Element.toJson)),
      ("settings", draft.settings.toJson)]

def take
    (draft : FormDraft)
    (name : String)
    (value : Document) :
    FormReading FormDraft :=
  match name with
  | "elements" =>
      (value.readList Element.read).map fun elements => { draft with elements := elements }
  | _ =>
      (FormSettings.read value).map fun settings => { draft with settings := settings }

def read
    (document : Document) :
    FormReading FormDraft :=
  document.readRecord fieldNames take {}

end FormDraft

namespace Schema

/-- Read and check a form that is written as a text. -/
def ofText
    (text : String) :
    Except FormFault Schema :=
  match Document.ofText text with
  | (document, complete) =>
      match FormDraft.read document with
      | .ok draft => if complete then ofDraft draft else .error .unreadable
      | .error _ => .error .unreadable

end Schema

end Fieldwork
