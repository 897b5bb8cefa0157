import Fieldwork.FailureKind
import Fieldwork.Form.Element
import Fieldwork.Pattern.Reader

namespace Fieldwork

/-!
# What can be wrong with forms

The causes for which a form or one of its answers is refused, and their
wording.
-/

/-- What is wrong with the value of a field. -/
inductive FieldDefect where
  | missing
  | notNumeric
  | below (least : Binary64)
  | above (greatest : Binary64)
  | unchecked
  | notChecked
  | notListed
  | notEmail
  | tooShort (least : Nat)
  | tooLong (greatest : Nat)
  | badFormat
  deriving DecidableEq, Repr

namespace FieldDefect

/-- The wording of a defect, behind the label of its field. -/
def wording :
    FieldDefect →
    String
  | missing => " is required"
  | notNumeric => " must be a number"
  | below least => " must be at least " ++ least.messageText
  | above greatest => " must be at most " ++ greatest.messageText
  | unchecked => " must be checked"
  | notChecked => " must be checked or unchecked"
  | notListed => " must be one of the listed options"
  | notEmail => " must be an email address"
  | tooShort least => " must be at least " ++ integerText least ++ " characters"
  | tooLong greatest => " must be at most " ++ integerText greatest ++ " characters"
  | badFormat => " has an invalid format"

end FieldDefect

structure FieldProblem where
  field : String
  label : String
  defect : FieldDefect
  deriving DecidableEq, Repr

namespace FieldProblem

/-- The wording of a problem for the person who fills in the field. -/
def message
    (problem : FieldProblem) :
    String :=
  problem.label ++ problem.defect.wording

/-- The wording of a problem beside the name of its field. -/
def display
    (problem : FieldProblem) :
    String :=
  problem.field ++ ": " ++ problem.message

end FieldProblem

/-- Why a form, or something done with it, is refused. -/
inductive FormFault where
  | unknownElementType (stored : String)
  | leastAboveGreatest (element : String) (least greatest : Binary64)
  | leastLengthAboveGreatest (element : String) (least greatest : UInt64)
  | badPattern (element : String) (fault : Pattern.Fault)
  | missingId (position : Nat)
  | duplicateId (id : String)
  | missingName (id : String)
  | reservedName (name : String)
  | duplicateName (name : String)
  | missingOptions (type : ElementType) (name : String)
  | unknownConditionField (element field : String)
  | unreadable
  | noSuchField (name : String)
  | holdsNoValue (type : ElementType) (name : String)
  | invalidFields (problems : List FieldProblem)
  | offline (form : String)
  deriving DecidableEq, Repr

namespace FormFault

def kind :
    FormFault →
    FailureKind
  | noSuchField _ => .notFound
  | _ => .validation

def detail :
    FormFault →
    String
  | unknownElementType stored => "unknown form element type '" ++ stored ++ "'"
  | leastAboveGreatest element least greatest =>
      "element '" ++ element ++ "' has validation min " ++ least.messageText ++
        " greater than max " ++ greatest.messageText
  | leastLengthAboveGreatest element least greatest =>
      "element '" ++ element ++ "' has validation minLength " ++
        integerText least.toNat ++ " greater than maxLength " ++
        integerText greatest.toNat
  | badPattern element fault =>
      "element '" ++ element ++ "' has invalid validation pattern: " ++ fault.message
  | missingId position =>
      "element at position " ++ integerText position ++ " requires an id"
  | duplicateId id => "duplicate element id '" ++ id ++ "'"
  | missingName id => "element '" ++ id ++ "' requires a name"
  | reservedName name =>
      "element name '" ++ name ++ "' is reserved for submission metadata"
  | duplicateName name => "duplicate element name '" ++ name ++ "'"
  | missingOptions type name =>
      type.name ++ " element '" ++ name ++ "' requires at least one option"
  | unknownConditionField element field =>
      "element '" ++ element ++ "' has a condition referencing unknown field '" ++
        field ++ "'"
  | unreadable => "invalid form schema document: it does not hold a form"
  | noSuchField name => "form has no field named '" ++ name ++ "'"
  | holdsNoValue type name =>
      type.name ++ " element '" ++ name ++ "' does not hold a value"
  | invalidFields problems =>
      String.intercalate "; " (problems.map FieldProblem.display)
  | offline form => "form '" ++ form ++ "' cannot be submitted offline"

end FormFault

end Fieldwork
