import Fieldwork.Workflow.Session

namespace Fieldwork

/-!
# The screen

What the runner shows of a session: the task with its steps, where it stands,
what can be done with the step in focus and what is entered for it, and what is
known about the latest completion.  Every part is a list of lines.
-/

namespace Screen

def listed
    (items : List String) :
    String :=
  String.intercalate ", " items

def stepLine
    (step : Step) :
    String :=
  "  " ++ Text.alignRight 3 (integerText step.order.toInt) ++ ". " ++
    Text.alignLeft 32 step.name ++ " " ++ step.status.name

def taskLines
    (task : FieldTask) :
    List String :=
  ("task " ++ integerText task.id.toInt ++ " (" ++ task.percentage.value.wholeText ++
    "% complete)") ::
      task.steps.map stepLine

/-- The lines of the step in focus and of the one behind it. -/
def focusLines
    (session : WorkSession) :
    List String :=
  (match session.activeStep? with
    | some step =>
        ["active: " ++ step.name,
          "allowed: " ++ listed (step.allowedActions.map StepAction.name)]
    | none => []) ++
  (match session.task.upcomingStep? with
    | some step => ["next: " ++ step.name]
    | none => [])

/-- The line of the offered outcomes, if there are any. -/
def outcomeLines
    (outcomes : List OfferedOutcome) :
    List String :=
  if outcomes.isEmpty then []
  else
    ["outcomes: " ++
      listed (outcomes.map fun outcome => outcome.value ++ " (" ++ outcome.label ++ ")")]

/-- The line of the entries, with a dash for each that is missing. -/
def inputLine
    (inputs : StepInputs) :
    String :=
  let check :=
    match inputs.check with
    | some true => "true"
    | some false => "false"
    | none => "-"
  "inputs: outcome=" ++ inputs.selected.getD "-" ++ " text=" ++ inputs.text.getD "-" ++
    " number=" ++ inputs.number.getD "-" ++ " check=" ++ check

/-- The lines that tell where a task stands. -/
def progressLines
    (session : WorkSession) :
    List String :=
  match session.task.progress with
  | .complete => ["workflow complete"]
  | .stalled =>
      ["workflow stalled: no step can be worked on, refresh or contact dispatch"]
  | .active _ =>
      focusLines session ++ outcomeLines session.offered ++ [inputLine session.inputs]

/-- The line about the latest completion, if there is something to tell. -/
def confirmationLines :
    Confirmation →
    List String
  | .idle => []
  | .pending _ => ["completion pending confirmation, use 'refresh'"]
  | .failed _ failure =>
      ["last completion failed: " ++ failure.message ++ "; use 'submit' to retry"]

def lines
    (session : WorkSession) :
    List String :=
  taskLines session.task ++ progressLines session ++
    confirmationLines session.confirmation

def joined
    (lines : List String) :
    String :=
  String.join (lines.map fun line => line ++ "\n")

def render
    (session : WorkSession) :
    String :=
  joined (lines session)

end Screen

end Fieldwork
