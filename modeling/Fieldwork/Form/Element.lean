import Fieldwork.Form.Condition

namespace Fieldwork

/-!
# Form elements

An element is a field or a piece of layout of a form.  A form as authored is a
`Form.Draft`; checking it is the business of `Form.Schema`.
-/

inductive ElementType where
  | text
  | number
  | email
  | phone
  | textarea
  | date
  | time
  | select
  | radio
  | checkbox
  | photo
  | signature
  | gps
  | meterReading
  | header
  | paragraph
  | divider
  | multiInput
  deriving DecidableEq, Repr, Inhabited

namespace ElementType

def all : List ElementType :=
  [text, number, email, phone, textarea, date, time, select, radio, checkbox,
    photo, signature, gps, meterReading, header, paragraph, divider, multiInput]

/-- The stored name of an element type. -/
def name :
    ElementType →
    String
  | text => "text"
  | number => "number"
  | email => "email"
  | phone => "phone"
  | textarea => "textarea"
  | date => "date"
  | time => "time"
  | select => "select"
  | radio => "radio"
  | checkbox => "checkbox"
  | photo => "photo"
  | signature => "signature"
  | gps => "gps"
  | meterReading => "meter_reading"
  | header => "header"
  | paragraph => "paragraph"
  | divider => "divider"
  | multiInput => "multi_input"

/-- The element type with a stored name. -/
def ofName?
    (stored : String) :
    Option ElementType :=
  all.find? fun type => type.name = stored

/-- An element type is found again under its name. -/
theorem ofName?_name
    (type : ElementType) :
    ofName? type.name = some type := by
  cases type <;> rfl

/-- Whether an element picks from a list of options. -/
def isChoice
    (type : ElementType) :
    Bool :=
  type == select || type == radio

/-- Whether an element is layout and never holds a value. -/
def isLayout
    (type : ElementType) :
    Bool :=
  type == header || type == paragraph || type == divider

/-- Whether the values of an element are numeric. -/
def isNumeric
    (type : ElementType) :
    Bool :=
  type == number || type == meterReading

end ElementType

/-- Limits on the value of an element. -/
structure Limits where
  least : Option Binary64 := none
  greatest : Option Binary64 := none
  leastLength : Option UInt64 := none
  greatestLength : Option UInt64 := none
  pattern : Option String := none
  deriving DecidableEq, Repr, Inhabited

/-- What satisfied conditions do to an element. -/
inductive VisibilityAction where
  | shown
  | hidden
  deriving DecidableEq, Repr, Inhabited

namespace VisibilityAction

def name :
    VisibilityAction →
    String
  | shown => "show"
  | hidden => "hide"

def ofName? :
    String →
    Option VisibilityAction
  | "show" => some shown
  | "hide" => some hidden
  | _ => none

end VisibilityAction

/-- When an element is visible: conditions that all have to hold, or not. -/
structure VisibilityRule where
  enabled : Bool := false
  action : VisibilityAction := .shown
  conditions : List Condition := []
  deriving Repr, Inhabited

/-- A field or a piece of layout. -/
structure Element where
  id : String
  type : ElementType
  name : String
  label : String := ""
  required : Bool := false
  options : List String := []
  limits : Option Limits := none
  rule : Option VisibilityRule := none
  placeholder : Option String := none
  helpText : Option String := none
  deriving Repr, Inhabited

namespace Element

/-- Whether an element holds a value. -/
def carriesValue
    (element : Element) :
    Bool :=
  !element.type.isLayout

/-- Whether a visible element has to have a value. -/
def isRequired
    (element : Element) :
    Bool :=
  element.required && element.carriesValue

/-- The conditions of an element, whether its rule is enabled or not. -/
def conditions
    (element : Element) :
    List Condition :=
  match element.rule with
  | some rule => rule.conditions
  | none => []

end Element

structure FormSettings where
  requireGpsLocation : Bool := false
  allowOffline : Bool := false
  submitLabel : Option String := none
  deriving DecidableEq, Repr, Inhabited

/-- A form as authored, before it is checked. -/
structure FormDraft where
  elements : List Element := []
  settings : FormSettings := {}
  deriving Repr, Inhabited

end Fieldwork
