import Fieldwork.FieldValues
import Fieldwork.Json.Printer
import Fieldwork.Text.Blank

namespace Fieldwork

/-!
# Conditions on field values

A condition compares the value of a field with an operand.  Evaluation always
has an answer: an operator that is not known and an ordering of values that are
not numeric do not hold, and a field without a value counts as unset.
-/

inductive Operator where
  | equals
  | notEquals
  | contains
  | notContains
  | greaterThan
  | lessThan
  | isEmpty
  | isNotEmpty
  /-- An operator that is not known; it never holds. -/
  | unknown
  deriving DecidableEq, Repr, Inhabited

namespace Operator

def name :
    Operator →
    String
  | equals => "equals"
  | notEquals => "not_equals"
  | contains => "contains"
  | notContains => "not_contains"
  | greaterThan => "greater_than"
  | lessThan => "less_than"
  | isEmpty => "is_empty"
  | isNotEmpty => "is_not_empty"
  | unknown => "unknown"

def ofName :
    String →
    Operator
  | "equals" => equals
  | "not_equals" => notEquals
  | "contains" => contains
  | "not_contains" => notContains
  | "greater_than" => greaterThan
  | "less_than" => lessThan
  | "is_empty" => isEmpty
  | "is_not_empty" => isNotEmpty
  | _ => unknown

/-- An operator is found again under its name. -/
theorem ofName_name
    (operator : Operator) :
    ofName operator.name = operator := by
  cases operator <;> rfl

end Operator

/-- A comparison of one field's value with an operand. -/
structure Condition where
  field : String
  operator : Operator
  operand : Json
  deriving Repr, Inhabited

namespace Json

/-- Whether a value is unset, null or the empty text. -/
def isUnset :
    Option Json →
    Bool
  | none => true
  | some .null => true
  | some (.string content) => content.isEmpty
  | some _ => false

/--
The finite real that a value stands for: that of a number, or of a text that
writes one between optional blanks.
-/
def numeric? :
    Json →
    Option Binary64
  | .number value => value.real?
  | .string content => readReal (Text.trimChars content.toList)
  | _ => none

/--
The text that comparisons see: nothing for an unset value and for null, a text
itself, and the written form of every other value.
-/
def comparable :
    Option Json →
    String
  | none => ""
  | some .null => ""
  | some (.string content) => content
  | some value => value.render

end Json

namespace Condition

/-- Numerical equality of two numeric values, and equal texts of others. -/
def valuesEqual
    (value : Option Json)
    (operand : Json) :
    Bool :=
  match value.bind Json.numeric?, operand.numeric? with
  | some left, some right => left.same right
  | _, _ => Json.comparable value == Json.comparable (some operand)

/-- A list holds the operand as an item, and another value inside its text. -/
def valueContains
    (value : Option Json)
    (operand : Json) :
    Bool :=
  let needle := Json.comparable (some operand)
  match value with
  | some (.array items) =>
      items.any fun item => Json.comparable (some item) == needle
  | other => Text.contains (Json.comparable other) needle

/-- Whether two numeric values stand in an order. -/
def numbersOrdered
    (order : Binary64 → Binary64 → Bool)
    (value : Option Json)
    (operand : Json) :
    Bool :=
  match value.bind Json.numeric?, operand.numeric? with
  | some left, some right => order left right
  | _, _ => false

/-- Whether an operator holds between a field's value and an operand. -/
def compare
    (operator : Operator)
    (value : Option Json)
    (operand : Json) :
    Bool :=
  match operator with
  | .equals => valuesEqual value operand
  | .notEquals => !valuesEqual value operand
  | .contains => valueContains value operand
  | .notContains => !valueContains value operand
  | .greaterThan =>
      numbersOrdered (fun left right => right.below left) value operand
  | .lessThan => numbersOrdered Binary64.below value operand
  | .isEmpty => Json.isUnset value
  | .isNotEmpty => !Json.isUnset value
  | .unknown => false

/-- Whether a condition holds for the values of a form. -/
def holds
    (condition : Condition)
    (values : FieldValues) :
    Bool :=
  compare condition.operator (values.get? condition.field) condition.operand

end Condition

end Fieldwork
