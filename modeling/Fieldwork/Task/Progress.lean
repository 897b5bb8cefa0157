import Fieldwork.Task.Basic

namespace Fieldwork

/-!
# Where a task stands

The step in focus is the first pending one, or else the first one in progress.
A task is complete when all its steps are in a final state, and stalled when
no step can be worked on although one of them is not.
-/

/-- What happens after a step is resolved. -/
inductive ControlAction where
  | advance
  | again
  | jump (order : Int32)
  deriving DecidableEq, Repr, Inhabited

inductive Progress where
  | active (step : Int64)
  | complete
  | stalled
  deriving DecidableEq, Repr, Inhabited

/-- What a user may do with a step. -/
inductive StepAction where
  | start
  | complete
  | fail
  | skip
  deriving DecidableEq, Repr, Inhabited

def StepAction.name :
    StepAction →
    String
  | start => "start"
  | complete => "complete"
  | fail => "fail"
  | skip => "skip"

/-- Why a step has no successor under an action. -/
inductive TargetFault where
  | foreignStep (step : Int64)
  | missingOrder (step : String) (order : Int32)
  deriving DecidableEq, Repr

namespace TargetFault

def kind :
    TargetFault →
    FailureKind
  | foreignStep _ => .notFound
  | missingOrder _ _ => .configuration

def detail :
    TargetFault →
    String
  | foreignStep step =>
      "step " ++ integerText step.toInt ++ " is not part of this task"
  | missingOrder step order =>
      "step '" ++ step ++ "' jumps to step order " ++ integerText order.toInt ++
        ", which does not exist"

end TargetFault

/-- The actions that a user may take on a step in its present status. -/
def Step.allowedActions
    (step : Step) :
    List StepAction :=
  match step.status with
  | .pending => [.start, .complete]
  | .inProgress => [.complete, .fail, .skip]
  | .completed | .failed | .skipped | .unrecognized => []

namespace FieldTask

def activeStep?
    (task : FieldTask) :
    Option Step :=
  (task.steps.find? fun step => step.status = .pending).or
    (task.steps.find? fun step => step.status = .inProgress)

def progress
    (task : FieldTask) :
    Progress :=
  match task.activeStep? with
  | some step => .active step.id
  | none => if task.isTerminal then .complete else .stalled

/-- The step behind the one with an identifier. -/
def stepAfter?
    (task : FieldTask)
    (id : Int64) :
    Option Step :=
  (task.steps.dropWhile fun step => step.id ≠ id)[1]?

/-- The step behind the one in focus. -/
def upcomingStep?
    (task : FieldTask) :
    Option Step :=
  task.activeStep?.bind fun step => task.stepAfter? step.id

/--
The step that comes after `step` under an action, or none where the work ends
with it.
-/
def target
    (task : FieldTask)
    (step : Step) :
    ControlAction →
    Except TargetFault (Option Step)
  | .advance => .ok (task.stepAfter? step.id)
  | .again =>
      match task.step? step.id with
      | some same => .ok (some same)
      | none => .error (.foreignStep step.id)
  | .jump order =>
      match task.steps.find? fun candidate => candidate.order = order with
      | some found => .ok (some found)
      | none => .error (.missingOrder step.name order)

end FieldTask

end Fieldwork
