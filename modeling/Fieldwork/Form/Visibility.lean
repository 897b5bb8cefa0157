import Fieldwork.Form.Element

namespace Fieldwork

/-!
# Visibility

Which elements of a form are visible for given values.  Visibility is computed
for all elements at once, since one element's rule may look at any other
element's value.  A condition on a field that no element is named after does
not hold, whatever its operator.
-/

namespace Visibility

/--
Put an identifier at its place in ascending order, unless it is there already.
-/
def insertId
    (id : String) :
    List String →
    List String
  | [] =>
      [id]
  | other :: rest =>
      if id < other then id :: other :: rest
      else if id = other then other :: rest
      else other :: insertId id rest

/-- Identifiers in ascending order, each once. -/
def sortIds
    (ids : List String) :
    List String :=
  ids.foldr insertId []

/-- Whether all conditions of a rule hold. -/
def conditionsHold
    (rule : VisibilityRule)
    (names : List String)
    (values : FieldValues) :
    Bool :=
  rule.conditions.all fun condition =>
    names.contains condition.field && condition.holds values

/-- Whether an element is visible beside elements with the given names. -/
def isVisible
    (names : List String)
    (values : FieldValues)
    (element : Element) :
    Bool :=
  match element.rule with
  | none => true
  | some rule =>
      if rule.enabled then
        match rule.action with
        | .shown => conditionsHold rule names values
        | .hidden => !conditionsHold rule names values
      else
        true

/-- The identifiers of the visible elements, in ascending order. -/
def visibleIds
    (elements : List Element)
    (values : FieldValues) :
    List String :=
  sortIds
    ((elements.filter (isVisible (elements.map Element.name) values)).map Element.id)

end Visibility

end Fieldwork
