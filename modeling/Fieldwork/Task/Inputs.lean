namespace Fieldwork

/-!
# Inputs for a step

What the user has entered for the step in focus.  Inputs belong to one step;
moving them to another step clears them.
-/

/-- Entries for one step, or for none. -/
structure StepInputs where
  step : Option Int64 := none
  selected : Option String := none
  text : Option String := none
  number : Option String := none
  check : Option Bool := none
  deriving DecidableEq, Repr, Inhabited

namespace StepInputs

def forStep
    (step : Option Int64) :
    StepInputs :=
  { step := step }

/-- Inputs for a step: the present ones if they are for it, else blank ones. -/
def scopedTo
    (inputs : StepInputs)
    (step : Option Int64) :
    StepInputs :=
  if inputs.step = step then inputs else forStep step

/-- The inputs of the same step without entries. -/
def cleared
    (inputs : StepInputs) :
    StepInputs :=
  forStep inputs.step

def isBlank
    (inputs : StepInputs) :
    Bool :=
  inputs.selected.isNone && inputs.text.isNone && inputs.number.isNone &&
    inputs.check.isNone

inductive Entry where
  | select (value : String)
  | text (value : String)
  | number (value : String)
  | check (value : Bool)
  deriving DecidableEq, Repr

def enter
    (inputs : StepInputs) :
    Entry →
    StepInputs
  | .select value => { inputs with selected := some value }
  | .text value => { inputs with text := some value }
  | .number value => { inputs with number := some value }
  | .check value => { inputs with check := some value }

end StepInputs

end Fieldwork
