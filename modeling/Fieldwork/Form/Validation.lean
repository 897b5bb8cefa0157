import Fieldwork.Form.Session
import Fieldwork.Pattern.Matching

namespace Fieldwork

/-!
# Validation of answers

Every visible field is checked against its type and its limits; hidden fields
never have a problem.  A field has one problem at most: the first that is
found.
-/

namespace Element

/-- Whether a value counts as no answer: unset, or an empty list. -/
def isBlankAnswer :
    Option Json →
    Bool
  | some (.array items) => items.isEmpty
  | value => Json.isUnset value

/--
Whether a text has the shape of an address: one at sign with something before
it, no blank character, and behind it a point that is neither the first nor the
last character, the first point having something behind it.
-/
def looksLikeEmail
    (text : String) :
    Bool :=
  match Text.splitFirst (· == '@') text.toList with
  | none => false
  | some (user, domain) =>
      !user.isEmpty && !domain.contains '@' &&
        !text.toList.any Text.isBlankChar &&
        match Text.splitFirst (· == '.') domain with
        | none => false
        | some (host, rest) =>
            !host.isEmpty && !rest.isEmpty && rest.getLast? != some '.'

/-- The defect of a value that has to be numeric. -/
def numberDefect?
    (element : Element)
    (value : Json) :
    Option FieldDefect :=
  match value.numeric? with
  | none => some .notNumeric
  | some number =>
      element.limits.bind fun limits =>
        (boundDefect? limits.least (fun least => number.below least) .below).or
          (boundDefect? limits.greatest (fun greatest => greatest.below number) .above)
where
  /-- The defect of a number on the wrong side of a bound. -/
  boundDefect?
      (bound : Option Binary64)
      (isBeyond : Binary64 → Bool)
      (defect : Binary64 → FieldDefect) :
      Option FieldDefect :=
    bound.bind fun bound => if isBeyond bound then some (defect bound) else none

/-- The defect of a value that has to keep the limits of a text. -/
def textDefect?
    (element : Element)
    (pattern : Option Pattern)
    (value : Json) :
    Option FieldDefect :=
  match element.limits, value with
  | some limits, .string content =>
      let tooShort := limits.leastLength.bind fun least =>
        if content.length < least.toNat then some (.tooShort least.toNat) else none
      let tooLong := limits.greatestLength.bind fun greatest =>
        if greatest.toNat < content.length then some (.tooLong greatest.toNat) else none
      let badFormat := pattern.bind fun pattern =>
        if pattern.isMatch content then none else some FieldDefect.badFormat
      (tooShort.or tooLong).or badFormat
  | _, _ => none

/-- The defect of a value that is ticked or not. -/
def checkboxDefect?
    (element : Element) :
    Json →
    Option FieldDefect
  | .bool true => none
  | .bool false => if element.isRequired then some .unchecked else none
  | _ => some .notChecked

/-- The defect of a value that picks an option. -/
def choiceDefect?
    (element : Element)
    (value : Json) :
    Option FieldDefect :=
  let selected :=
    match value with
    | .string content => content
    | _ => ""
  if element.options.contains selected then none else some .notListed

/-- The defect of a value that is an address. -/
def emailDefect? :
    Json →
    Option FieldDefect
  | .string content => if looksLikeEmail content then none else some .notEmail
  | _ => none

/-- The defect of an element's value, if it has one. -/
def defect?
    (element : Element)
    (pattern : Option Pattern)
    (value : Option Json) :
    Option FieldDefect :=
  if isBlankAnswer value then
    if element.isRequired then some .missing else none
  else
    value.bind fun value =>
      if element.type.isNumeric then element.numberDefect? value
      else if element.type = .checkbox then element.checkboxDefect? value
      else if element.type.isChoice then element.choiceDefect? value
      else if element.type = .email then
        (element.textDefect? pattern value).or (emailDefect? value)
      else element.textDefect? pattern value

end Element

namespace FormSession

/-- The problem of a field, if it has one. -/
def problem?
    (session : FormSession)
    (element : Element) :
    Option FieldProblem :=
  (element.defect? (session.schema.pattern? element.name)
    (session.values.get? element.name)).map
      fun defect => ⟨element.name, element.label, defect⟩

/-- The problems of the visible fields, in the order of the form. -/
def validate
    (session : FormSession) :
    List FieldProblem :=
  session.visibleFields.filterMap session.problem?

end FormSession

end Fieldwork
