import Fieldwork.Form.Schema
import Fieldwork.Form.Visibility

namespace Fieldwork

/-!
# Filling in a form

A form session holds the values entered so far and the elements that are
visible for them.  The visible set is computed anew after every edit.  An edit
either succeeds or leaves the session as it was; replacing all values is such
an edit too.
-/

/-- The values of a form that is being filled in. -/
structure FormSession where
  schema : Schema
  values : FieldValues
  visible : List String

namespace FormSession

def withEntries
    (schema : Schema)
    (values : FieldValues) :
    FormSession :=
  ⟨schema, values, Visibility.visibleIds schema.elements values⟩

def start
    (schema : Schema) :
    FormSession :=
  withEntries schema .empty

/-- The element that holds the value of a name. -/
def valueElement
    (session : FormSession)
    (name : String) :
    Except FormFault Element :=
  match session.schema.element? name with
  | none => .error (.noSuchField name)
  | some element =>
      if element.carriesValue then .ok element
      else .error (.holdsNoValue element.type name)

/-- A change of the values of a session. -/
inductive Edit where
  /-- Set a value; null clears it. -/
  | set (name : String) (value : Json)
  | clear (name : String)
  /-- Put given values in the place of all values; null sets none. -/
  | replace (values : FieldValues)

/-- Set one value, or clear it by null. -/
def setValue
    (session : FormSession)
    (name : String)
    (value : Json) :
    Except FormFault FormSession :=
  (session.valueElement name).map fun _ =>
    withEntries session.schema
      (match value with
        | .null => session.values.erase name
        | value => session.values.insert name value)

/-- Whether a field has a value other than null. -/
def hasValue
    (field : String × Json) :
    Bool :=
  match field.2 with
  | .null => false
  | _ => true

/-- Put given values in the place of all values. -/
def replaceValues
    (session : FormSession)
    (values : FieldValues) :
    Except FormFault FormSession :=
  (values.names.forM fun name => (session.valueElement name).map fun _ => ()).map
    fun _ => withEntries session.schema (values.filter hasValue)

def edit
    (session : FormSession) :
    Edit →
    Except FormFault FormSession
  | .set name value => session.setValue name value
  | .clear name => session.setValue name .null
  | .replace values => session.replaceValues values

/-- A session that begins with saved values. -/
def withValues
    (schema : Schema)
    (values : FieldValues) :
    Except FormFault FormSession :=
  (start schema).replaceValues values

/-- The visible elements, in the order of the form. -/
def visibleElements
    (session : FormSession) :
    List Element :=
  session.schema.elements.filter fun element => session.visible.contains element.id

/-- Whether the element with a name is visible. -/
def isVisible
    (session : FormSession)
    (name : String) :
    Bool :=
  (session.schema.element? name).any fun element => session.visible.contains element.id

/-- The visible elements that hold values, in the order of the form. -/
def visibleFields
    (session : FormSession) :
    List Element :=
  session.visibleElements.filter Element.carriesValue

end FormSession

end Fieldwork
