import Fieldwork.FieldValues
import Fieldwork.Task.Inputs
import Fieldwork.Task.Progress

namespace Fieldwork

/-!
# Outcomes of a step

How a step asks for its outcome, and what the inputs of the user come to: the
values to record and what happens next.  A step asks in one of four ways, and
the first that applies is used: the question whether a call was answered,
nothing at all, the authored outcomes, or plain success and failure.
-/

/-- How a step asks for its outcome. -/
inductive OutcomeKind where
  | immediate
  | callOutcome
  | authored
  | generic
  deriving DecidableEq, Repr, Inhabited

/-- How a step asks for its outcome. -/
def Step.outcomeKind
    (step : Step) :
    OutcomeKind :=
  if step.isCallOutcomeStep then .callOutcome
  else if !step.plan.isConditional then .immediate
  else if step.plan.outcomes.isEmpty then .generic
  else .authored

/-- The outcome of a call that was answered. -/
def callAnswered : String :=
  "answered"

/-- The outcome of a call that was not answered. -/
def callNotAnswered : String :=
  "did_not_answer"

/-- What is recorded for a call that was not answered. -/
def callRepeated : String :=
  "repeat"

/-- The plain outcome of a step that succeeded. -/
def genericSuccess : String :=
  "success"

/-- The plain outcome of a step that failed. -/
def genericFailure : String :=
  "failure"

/-- The name under which the chosen outcome is recorded. -/
def selectedName : String :=
  "selected_option"

/-- The name under which a text is recorded. -/
def textName : String :=
  "text_value"

/-- The name under which a number is recorded. -/
def numberName : String :=
  "number_value"

/-- The name under which a tick is recorded. -/
def checkName : String :=
  "checkbox_value"

/-- An outcome that is offered to the user. -/
structure OfferedOutcome where
  value : String
  label : String
  deriving DecidableEq, Repr

def Step.offered
    (step : Step) :
    List OfferedOutcome :=
  match step.outcomeKind with
  | .immediate => []
  | .callOutcome =>
      [⟨callAnswered, "Answered"⟩, ⟨callNotAnswered, "Did not answer"⟩]
  | .authored =>
      step.plan.outcomes.map fun outcome => ⟨outcome.id, outcome.shownLabel⟩
  | .generic => [⟨genericSuccess, "Success"⟩, ⟨genericFailure, "Failure"⟩]

inductive OutcomeFault where
  | foreignStep (step task : Int64)
  | foreignInputs (step : String)
  | nothingSelected (step : String)
  | notCallOutcome (step selected : String)
  | notAuthored (step selected : String)
  | jumpWithoutTarget (step outcome : String)
  | notGeneric (step selected : String)
  | target (fault : TargetFault)
  | noteMissing (step : String)
  | numberMissing (step : String)
  | notNumeric (step entered : String)
  | checkMissing (step : String)
  deriving DecidableEq, Repr

namespace OutcomeFault

def kind :
    OutcomeFault →
    FailureKind
  | foreignStep _ _ => .notFound
  | foreignInputs _ => .conflict
  | jumpWithoutTarget _ _ => .configuration
  | target fault => fault.kind
  | _ => .validation

def detail :
    OutcomeFault →
    String
  | foreignStep step task =>
      "step " ++ integerText step.toInt ++ " is not part of task " ++
        integerText task.toInt
  | foreignInputs step =>
      "collected inputs belong to another step than '" ++ step ++ "'"
  | nothingSelected step => "select an outcome for step '" ++ step ++ "'"
  | notCallOutcome step selected =>
      "step '" ++ step ++ "' needs 'answered' or 'did not answer', got '" ++
        selected ++ "'"
  | notAuthored step selected =>
      "'" ++ selected ++ "' is not an outcome of step '" ++ step ++ "'"
  | jumpWithoutTarget step outcome =>
      "outcome '" ++ outcome ++ "' of step '" ++ step ++
        "' jumps without a target step"
  | notGeneric step selected =>
      "step '" ++ step ++ "' needs 'success' or 'failure', got '" ++ selected ++ "'"
  | target fault => fault.detail
  | noteMissing step => "enter a note for step '" ++ step ++ "'"
  | numberMissing step => "enter a number for step '" ++ step ++ "'"
  | notNumeric step entered =>
      "'" ++ entered ++ "' is not a valid number for step '" ++ step ++ "'"
  | checkMissing step => "confirm the checkbox for step '" ++ step ++ "'"

end OutcomeFault

/-- What the inputs for a step come to. -/
structure ResolvedOutcome where
  step : Int64
  fieldValues : FieldValues
  action : ControlAction

namespace StepInputs

/-- An entry without blanks around it, if anything is left of it. -/
def solidEntry
    (entry : Option String) :
    Option String :=
  (entry.map Text.trim).filter fun trimmed => !trimmed.isEmpty

/-- The selected outcome, which has to be there. -/
def requiredSelection
    (inputs : StepInputs)
    (step : Step) :
    Except OutcomeFault String :=
  match solidEntry inputs.selected with
  | some selected => .ok selected
  | none => .error (.nothingSelected step.name)

/--
A selection in the form that is compared: its words joined by low lines, with
the ASCII capital letters made small.
-/
def normalized
    (selected : String) :
    String :=
  Text.lowerAscii (String.intercalate "_" (Text.words selected))

/--
The number that a text writes: an integer where it is one of 64 bits with a
sign, and a finite real elsewhere.
-/
def readNumber
    (entered : String) :
    Option Json.Number :=
  match readInteger leastInt64 greatestInt64 entered.toList with
  | .ok value => Json.Number.ofInt? value
  | .error _ => (readReal entered.toList).map .real

end StepInputs

namespace Step

/-- What is recorded for a choice, if anything, and what happens next. -/
abbrev Choice : Type :=
  Option String × ControlAction

def callChoice
    (step : Step)
    (inputs : StepInputs) :
    Except OutcomeFault Choice :=
  (inputs.requiredSelection step).bind fun selected =>
    let normalized := StepInputs.normalized selected
    if normalized = callAnswered then .ok (some callAnswered, .advance)
    else if normalized = callNotAnswered then .ok (some callRepeated, .again)
    else .error (.notCallOutcome step.name selected)

/-- What happens next after an authored outcome. -/
def authoredAction
    (step : Step)
    (outcome : AuthoredOutcome) :
    Except OutcomeFault ControlAction :=
  match outcome.action with
  | .next => .ok .advance
  | .again => .ok .again
  | .jump (some order) => .ok (.jump order)
  | .jump none => .error (.jumpWithoutTarget step.name outcome.id)

def authoredChoice
    (step : Step)
    (inputs : StepInputs) :
    Except OutcomeFault Choice :=
  (inputs.requiredSelection step).bind fun selected =>
    match step.outcome? selected with
    | none => .error (.notAuthored step.name selected)
    | some outcome =>
        (step.authoredAction outcome).map fun action => (some outcome.id, action)

/-- Plain success or failure as selected. -/
def genericValue
    (step : Step)
    (selected : String) :
    Except OutcomeFault String :=
  let normalized := StepInputs.normalized selected
  if normalized = genericSuccess then .ok genericSuccess
  else if normalized = genericFailure then .ok genericFailure
  else .error (.notGeneric step.name selected)

/--
The choice between success and failure.  It may be left open where the step
records something freely.
-/
def genericChoice
    (step : Step)
    (inputs : StepInputs) :
    Except OutcomeFault Choice :=
  if step.plan.recordKind.isFreeform then
    match inputs.selected.filter fun selected => !Text.isBlank selected with
    | none => .ok (none, .advance)
    | some selected =>
        (step.genericValue selected).map fun value => (some value, .advance)
  else
    (inputs.requiredSelection step).bind fun selected =>
      (step.genericValue selected).map fun value => (some value, .advance)

/-- What a step records beside its outcome, under its name. -/
def freeformRecord
    (step : Step)
    (inputs : StepInputs) :
    Except OutcomeFault (Option (String × Json)) :=
  match step.plan.recordKind with
  | .none | .dropdown => .ok none
  | .text =>
      match StepInputs.solidEntry inputs.text with
      | some note => .ok (some (textName, .string note))
      | none => .error (.noteMissing step.name)
  | .number =>
      match StepInputs.solidEntry inputs.number with
      | none => .error (.numberMissing step.name)
      | some entered =>
          match StepInputs.readNumber entered with
          | some number => .ok (some (numberName, .number number))
          | none => .error (.notNumeric step.name entered)
  | .checkbox =>
      match inputs.check with
      | some checked => .ok (some (checkName, .bool checked))
      | none => .error (.checkMissing step.name)

/-- The values recorded for a choice and a free record. -/
def recordedValues
    (selected : Option String)
    (record : Option (String × Json)) :
    FieldValues :=
  let chosen :=
    match selected with
    | some value => FieldValues.empty.insert selectedName (.string value)
    | none => .empty
  match record with
  | some (name, value) => chosen.insert name value
  | none => chosen

end Step

namespace FieldTask

/-- What a choice for a step comes to, its target and free record checked. -/
def resolveChoice
    (task : FieldTask)
    (step : Step)
    (inputs : StepInputs)
    (choice : Step.Choice) :
    Except OutcomeFault ResolvedOutcome :=
  match task.target step choice.2 with
  | .error fault => .error (.target fault)
  | .ok _ =>
      (step.freeformRecord inputs).map fun record =>
        ⟨step.id, Step.recordedValues choice.1 record, choice.2⟩

/--
What the inputs for a step of the task come to.  The step has to belong to the
task and the inputs to the step; then the choice is checked, then where it
leads, then what is recorded freely.
-/
def resolve
    (task : FieldTask)
    (step : Step)
    (inputs : StepInputs) :
    Except OutcomeFault ResolvedOutcome :=
  if (task.step? step.id).isNone then
    .error (.foreignStep step.id task.id)
  else if inputs.step.any fun owner => owner ≠ step.id then
    .error (.foreignInputs step.name)
  else
    match step.outcomeKind with
    | .immediate => .ok ⟨step.id, .empty, .advance⟩
    | .callOutcome =>
        (step.callChoice inputs).bind (task.resolveChoice step inputs)
    | .authored =>
        (step.authoredChoice inputs).bind (task.resolveChoice step inputs)
    | .generic =>
        (step.genericChoice inputs).bind (task.resolveChoice step inputs)

end FieldTask

end Fieldwork
