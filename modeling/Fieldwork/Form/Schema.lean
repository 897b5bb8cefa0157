import Fieldwork.Form.Fault

namespace Fieldwork

/-!
# Checked forms

A schema is a form draft without a fault.  The elements are checked in their
order, each one completely before the next, and the fields that conditions
refer to are checked after all elements have passed.
-/

/-- The name under which a submission carries the captured location. -/
def gpsLocationName : String :=
  "_gps_location"

/-- The name under which a submission carries facts about itself. -/
def formMetadataName : String :=
  "_form_metadata"

/-- Whether a name belongs to the submission itself. -/
def isReservedName
    (name : String) :
    Bool :=
  name == gpsLocationName || name == formMetadataName

namespace Limits

/-- The fault of the limits of an element, if they have one. -/
def fault?
    (limits : Limits)
    (element : String) :
    Option FormFault :=
  match limits.least, limits.greatest with
  | some least, some greatest =>
      if greatest.below least then
        some (.leastAboveGreatest element least greatest)
      else
        lengthFault?
  | _, _ => lengthFault?
where
  /-- The fault of the length limits or of the pattern. -/
  lengthFault? : Option FormFault :=
    match limits.leastLength, limits.greatestLength with
    | some least, some greatest =>
        if greatest < least then
          some (.leastLengthAboveGreatest element least greatest)
        else
          patternFault?
    | _, _ => patternFault?
  /-- The fault of the pattern. -/
  patternFault? : Option FormFault :=
    match limits.pattern.map Pattern.read with
    | some (.error fault) => some (.badPattern element fault)
    | _ => none

end Limits

namespace Element

/-- The fault of an element at a position behind the earlier elements. -/
def fault?
    (element : Element)
    (position : Nat)
    (earlier : List Element) :
    Option FormFault :=
  if Text.isBlank element.id then
    some (.missingId position)
  else if (earlier.map Element.id).contains element.id then
    some (.duplicateId element.id)
  else if Text.isBlank element.name then
    some (.missingName element.id)
  else if isReservedName element.name then
    some (.reservedName element.name)
  else if (earlier.map Element.name).contains element.name then
    some (.duplicateName element.name)
  else if element.type.isChoice && element.options.isEmpty then
    some (.missingOptions element.type element.name)
  else
    element.limits.bind fun limits => limits.fault? element.name

/-- The first condition on a field that no element is named after. -/
def conditionFault?
    (names : List String)
    (element : Element) :
    Option FormFault :=
  (element.conditions.find? fun condition => !names.contains condition.field).map
    fun condition => .unknownConditionField element.name condition.field

end Element

namespace FormDraft

/-- The first fault of elements that stand behind earlier ones. -/
def elementFault?
    (earlier : List Element) :
    List Element →
    Option FormFault
  | [] => none
  | element :: rest =>
      match element.fault? earlier.length earlier with
      | some fault => some fault
      | none => elementFault? (earlier ++ [element]) rest

def fault?
    (draft : FormDraft) :
    Option FormFault :=
  (elementFault? [] draft.elements).or
    (draft.elements.findSome?
      (Element.conditionFault? (draft.elements.map Element.name)))

end FormDraft

/-- A form draft without a fault. -/
structure Schema where
  draft : FormDraft
  faultless : draft.fault? = none

namespace Schema

def ofDraft
    (draft : FormDraft) :
    Except FormFault Schema :=
  match faultless : draft.fault? with
  | none => .ok ⟨draft, faultless⟩
  | some fault => .error fault

/-- The elements of a form, in order. -/
def elements
    (schema : Schema) :
    List Element :=
  schema.draft.elements

def settings
    (schema : Schema) :
    FormSettings :=
  schema.draft.settings

def element?
    (schema : Schema)
    (name : String) :
    Option Element :=
  schema.elements.find? fun element => element.name = name

/-- The pattern that the limits of an element declare. -/
def patternOf
    (element : Element) :
    Option Pattern :=
  (element.limits.bind Limits.pattern).bind fun written =>
    (Pattern.read written).toOption

/-- The pattern of the element with a name. -/
def pattern?
    (schema : Schema)
    (name : String) :
    Option Pattern :=
  (schema.element? name).bind patternOf

end Schema

end Fieldwork
