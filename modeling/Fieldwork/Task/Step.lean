import Fieldwork.FailureKind
import Fieldwork.Number.Decimal
import Fieldwork.Text.Blank
import Fieldwork.Timestamp

namespace Fieldwork

/-!
# Steps of a task

A step has a plan, which is authored and never changes, and a record of what
became of it.  Forward moves of its status go from pending to in progress and
from there to one of the three resolved states; setting a step back to pending
is not a forward move.
-/

inductive StepStatus where
  | pending
  | inProgress
  | completed
  | failed
  | skipped
  /-- A state that is not known here. -/
  | unrecognized
  deriving DecidableEq, Repr, Inhabited

namespace StepStatus

def name :
    StepStatus →
    String
  | pending => "pending"
  | inProgress => "in_progress"
  | completed => "completed"
  | failed => "failed"
  | skipped => "skipped"
  | unrecognized => "unrecognized"

def ofName :
    String →
    StepStatus
  | "pending" => pending
  | "in_progress" => inProgress
  | "completed" => completed
  | "failed" => failed
  | "skipped" => skipped
  | _ => unrecognized

/-- A status is found again under its name. -/
theorem ofName_name
    (status : StepStatus) :
    ofName status.name = status := by
  cases status <;> rfl

/-- Whether a status is final: completed, failed or skipped. -/
def isTerminal :
    StepStatus →
    Bool
  | completed | failed | skipped => true
  | _ => false

/-- Whether a forward move leads from one status to another. -/
def canMoveTo :
    StepStatus →
    StepStatus →
    Bool
  | pending, inProgress => true
  | inProgress, completed => true
  | inProgress, failed => true
  | inProgress, skipped => true
  | _, _ => false

end StepStatus

/-- What is recorded when a step succeeds, beside its outcome. -/
inductive RecordKind where
  | none
  | checkbox
  | dropdown
  | text
  | number
  deriving DecidableEq, Repr, Inhabited

namespace RecordKind

/-- The stored name of a record kind. -/
def name :
    RecordKind →
    String
  | none => "none"
  | checkbox => "checkbox"
  | dropdown => "dropdown"
  | text => "text"
  | number => "number"

/-- The record kind with a stored name. -/
def ofName? :
    String →
    Option RecordKind
  | "none" => some none
  | "checkbox" => some checkbox
  | "dropdown" => some dropdown
  | "text" => some text
  | "number" => some number
  | _ => Option.none

/-- A record kind is found again under its name. -/
theorem ofName?_name
    (kind : RecordKind) :
    ofName? kind.name = some kind := by
  cases kind <;> rfl

/-- Whether a record is entered freely. -/
def isFreeform :
    RecordKind →
    Bool
  | checkbox | text | number => true
  | _ => false

end RecordKind

/-- What follows an authored outcome. -/
inductive OutcomeAction where
  | next
  | again
  /-- Continue at the step with an order, if one is named. -/
  | jump (target : Option Int32)
  deriving DecidableEq, Repr, Inhabited

namespace OutcomeAction

def name :
    OutcomeAction →
    String
  | next => "next"
  | again => "repeat"
  | jump _ => "jump"

/-- The target order of a jump that names one. -/
def target? :
    OutcomeAction →
    Option Int32
  | jump target => target
  | _ => none

/-- Whether an action jumps without naming a target. -/
def isUntargetedJump :
    OutcomeAction →
    Bool
  | jump none => true
  | _ => false

end OutcomeAction

/-- Why tasks and their steps are refused. -/
inductive TaskFault where
  | blankText
  | blankOutcomeId
  | stepWithoutName (step : Int64)
  | duplicateOutcome (step outcome : String)
  | percentageOutOfRange (task : Int64)
  | duplicateStepId (task step : Int64)
  | duplicateStepOrder (task : Int64) (order : Int32)
  | forbiddenMove (step : Int64) (present next : StepStatus)
  deriving DecidableEq, Repr

namespace TaskFault

def kind :
    TaskFault →
    FailureKind
  | forbiddenMove _ _ _ => .conflict
  | _ => .validation

def detail :
    TaskFault →
    String
  | blankText => "value must not be empty or whitespace"
  | blankOutcomeId => "success option id must not be empty"
  | stepWithoutName step => "step " ++ integerText step.toInt ++ " requires a name"
  | duplicateOutcome step outcome =>
      "step '" ++ step ++ "' has duplicate success option '" ++ outcome ++ "'"
  | percentageOutOfRange task =>
      "task " ++ integerText task.toInt ++
        " completion_percentage must be between 0 and 100"
  | duplicateStepId task step =>
      "task " ++ integerText task.toInt ++ " has duplicate step id " ++
        integerText step.toInt
  | duplicateStepOrder task order =>
      "task " ++ integerText task.toInt ++ " has duplicate step_order " ++
        integerText order.toInt
  | forbiddenMove step present next =>
      "step " ++ integerText step.toInt ++ " cannot move from '" ++ present.name ++
        "' to '" ++ next.name ++ "'"

end TaskFault

/-- A text that holds more than blank characters. -/
structure SolidText where
  text : String
  solid : Text.isBlank text = false
  deriving DecidableEq, Repr

namespace SolidText

/-- A text, if it holds more than blank characters. -/
def ofString
    (text : String) :
    Except TaskFault SolidText :=
  match blank : Text.isBlank text with
  | false => .ok ⟨text, blank⟩
  | true => .error .blankText

end SolidText

structure AuthoredOutcome where
  id : String
  label : String
  action : OutcomeAction
  solidId : Text.isBlank id = false
  deriving DecidableEq, Repr

namespace AuthoredOutcome

/-- An outcome whose identifier is checked. -/
def build
    (id label : String)
    (action : OutcomeAction) :
    Except TaskFault AuthoredOutcome :=
  match blank : Text.isBlank id with
  | false => .ok ⟨id, label, action, blank⟩
  | true => .error .blankOutcomeId

/-- The label that is shown: the identifier where the label is blank. -/
def shownLabel
    (outcome : AuthoredOutcome) :
    String :=
  if Text.isBlank outcome.label then outcome.id else outcome.label

end AuthoredOutcome

/-- The authored part of a step. -/
structure StepPlan where
  id : Int64
  templateStepId : Option Int64
  name : String
  order : Int32
  isConditional : Bool
  forcedConditional : Bool
  recordKind : RecordKind
  outcomes : List AuthoredOutcome
  solidName : Text.isBlank name = false
  distinctOutcomes : (outcomes.map AuthoredOutcome.id).Nodup
  deriving DecidableEq, Repr

/-- What became of a step so far. -/
structure StepRecord where
  status : StepStatus := .pending
  completedAt : Option Timestamp := none
  performedBy : Option String := none
  deriving DecidableEq, Repr, Inhabited

/-- A step: its plan and its record. -/
structure Step where
  plan : StepPlan
  record : StepRecord
  deriving DecidableEq, Repr

/-- The parts from which a step is built. -/
structure StepParts where
  id : Int64
  name : String
  order : Int32
  templateStepId : Option Int64 := none
  isConditional : Bool := false
  forcedConditional : Bool := false
  recordKind : RecordKind := .none
  outcomes : List AuthoredOutcome := []
  record : StepRecord := {}

/-- The first identifier of a list that stands in it before. -/
def firstRepeated?
    (earlier : List String) :
    List String →
    Option String
  | [] => none
  | id :: rest =>
      if earlier.contains id then some id
      else firstRepeated? (id :: earlier) rest

/-- A list without a repeated identifier has distinct ones. -/
theorem nodup_of_firstRepeated?_eq_none
    {earlier ids : List String}
    (noneRepeated : firstRepeated? earlier ids = none) :
    ids.Nodup ∧ ∀ id ∈ ids, id ∉ earlier := by
  induction ids generalizing earlier with
  | nil =>
      simp
  | cons id rest inductionHypothesis =>
      unfold firstRepeated? at noneRepeated
      split at noneRepeated
      · cases noneRepeated
      · rename_i fresh
        obtain ⟨distinct, apart⟩ := inductionHypothesis noneRepeated
        have fresh : id ∉ earlier := by simpa using fresh
        refine ⟨List.nodup_cons.mpr ⟨?_, distinct⟩, ?_⟩
        · intro member
          exact apart id member (by simp)
        · intro other member
          rcases List.mem_cons.mp member with same | later
          · exact same ▸ fresh
          · exact fun inEarlier => apart other later (List.mem_cons_of_mem _ inEarlier)

/-- A list of distinct identifiers has none that is repeated. -/
theorem firstRepeated?_eq_none_of_nodup
    {earlier ids : List String}
    (distinct : ids.Nodup)
    (apart : ∀ id ∈ ids, id ∉ earlier) :
    firstRepeated? earlier ids = none := by
  induction ids generalizing earlier with
  | nil =>
      rfl
  | cons id rest inductionHypothesis =>
      unfold firstRepeated?
      have fresh : id ∉ earlier := apart id (by simp)
      rw [List.nodup_cons] at distinct
      simp only [List.contains_eq_mem, fresh, decide_false, Bool.false_eq_true,
        ↓reduceIte]
      apply inductionHypothesis distinct.2
      intro other member inEarlier
      rcases List.mem_cons.mp inEarlier with same | inOld
      · exact distinct.1 (same ▸ member)
      · exact apart other (List.mem_cons_of_mem _ member) inOld

/-- The name of the step that always asks whether a call was answered. -/
def callOutcomeName : String :=
  "Call Homeowner"

namespace Step

/-- Build a step: the name is checked first, then the outcomes. -/
def build
    (parts : StepParts) :
    Except TaskFault Step :=
  match blank : Text.isBlank parts.name with
  | true => .error (.stepWithoutName parts.id)
  | false =>
      match repeated :
          firstRepeated? [] (parts.outcomes.map AuthoredOutcome.id) with
      | some outcome => .error (.duplicateOutcome parts.name outcome)
      | none =>
          .ok {
            plan := {
              id := parts.id
              templateStepId := parts.templateStepId
              name := parts.name
              order := parts.order
              isConditional := parts.isConditional
              forcedConditional := parts.forcedConditional
              recordKind := parts.recordKind
              outcomes := parts.outcomes
              solidName := blank
              distinctOutcomes := (nodup_of_firstRepeated?_eq_none repeated).1 }
            record := parts.record }

def id
    (step : Step) :
    Int64 :=
  step.plan.id

def name
    (step : Step) :
    String :=
  step.plan.name

/-- The place of a step in the default sequence. -/
def order
    (step : Step) :
    Int32 :=
  step.plan.order

def status
    (step : Step) :
    StepStatus :=
  step.record.status

def withRecord
    (step : Step)
    (record : StepRecord) :
    Step :=
  { step with record := record }

/--
Whether a step always asks whether a call was answered: by its flag, or by its
name, whose words are compared without regard to ASCII case.
-/
def isCallOutcomeStep
    (step : Step) :
    Bool :=
  step.plan.forcedConditional ||
    (Text.words step.name).map Text.lowerAscii ==
      (Text.words callOutcomeName).map Text.lowerAscii

/-- The authored outcome that a text selects: by identifier, else by label. -/
def outcome?
    (step : Step)
    (selected : String) :
    Option AuthoredOutcome :=
  (step.plan.outcomes.find? fun outcome => outcome.id = selected).or
    (step.plan.outcomes.find? fun outcome => outcome.shownLabel = selected)

/--
The record of a step after a forward move.  A final status records the time
and the performer.
-/
def moveTo
    (step : Step)
    (next : StepStatus)
    (time : Timestamp)
    (performer : Option String) :
    Except TaskFault StepRecord :=
  if step.status.canMoveTo next then
    if next.isTerminal then
      .ok ⟨next, some time, performer⟩
    else
      .ok { step.record with status := next }
  else
    .error (.forbiddenMove step.id step.status next)

/-- The record of a step that is to be done again. -/
def reopened : StepRecord :=
  {}

end Step

end Fieldwork
