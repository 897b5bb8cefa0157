import Mathlib.Data.List.Forall2
import Fieldwork.Proofs.Store.Journal
import Fieldwork.Proofs.Store.Order

namespace Fieldwork

/-!
# Which steps a completion changes

Each action of a request selects steps by their order, and gives the selected
ones one record: the current step alone, a range that ends at it, or the
unresolved steps on the way to a later one.  Everything else of the task stays
as it is, the percentage aside.
-/

namespace Step

/-- The selected steps get a record, and all others stay, each step in its place. -/
def OnlyChange
    (selected : Step → Prop)
    (record : StepRecord)
    (before after : List Step) :
    Prop :=
  List.Forall₂
    (fun old new =>
      (selected old → new = old.withRecord record) ∧ (¬ selected old → new = old))
    before after

/-- New records change the selected steps only, where only these get another one. -/
theorem onlyChange_map
    {selected : Step → Prop}
    {record : StepRecord}
    {steps : List Step}
    {newRecord : Step → StepRecord}
    (given : ∀ step ∈ steps, selected step → newRecord step = record)
    (kept : ∀ step ∈ steps, ¬ selected step → newRecord step = step.record) :
    OnlyChange selected record steps
      (steps.map fun step => step.withRecord (newRecord step)) := by
  rw [OnlyChange, List.forall₂_map_right_iff, List.forall₂_same]
  intro step member
  constructor
  · intro isSelected
    rw [given step member isSelected]
  · intro notSelected
    rw [kept step member notSelected]
    rfl

end Step

namespace CompletionRequest

/-- What the values of a request say of its step: it failed only where they say so. -/
inductive Reports
    (request : CompletionRequest) :
    StepStatus →
    Prop
  | failure
      (said :
        request.fieldValues.get? selectedName = some (.string genericFailure)) :
      Reports request .failed
  | success
      (unsaid :
        request.fieldValues.get? selectedName ≠ some (.string genericFailure)) :
      Reports request .completed

/--
What a request on the step `current` is meant to do to the steps of its task.  A
jump ahead has two effects, the first of which is that of going on.
-/
inductive Effect
    (request : CompletionRequest)
    (current : Step)
    (time : Timestamp)
    (performer : String)
    (before after : List Step) :
    Prop
  | goOn {status : StepStatus}
      (action : request.action = .advance)
      (reports : request.Reports status)
      (resolves :
        Step.OnlyChange (· = current) ⟨status, some time, some performer⟩ before after)
  | doAgain
      (action : request.action = .again)
      (reopens : Step.OnlyChange (· = current) ⟨.pending, none, none⟩ before after)
  | jumpBack {target : Int32}
      (action : request.action = .jump target)
      (notAbove : target ≤ current.order)
      (reopens :
        Step.OnlyChange (fun step => target ≤ step.order ∧ step.order ≤ current.order)
          ⟨.pending, none, none⟩ before after)
  | jumpAhead {target : Int32} {status : StepStatus} {midway : List Step}
      (action : request.action = .jump target)
      (above : current.order < target)
      (reports : request.Reports status)
      (resolves :
        Step.OnlyChange (· = current) ⟨status, some time, some performer⟩ before midway)
      (skips :
        Step.OnlyChange
          (fun step =>
            current.order < step.order ∧ step.order < target ∧
              step.status.isTerminal = false)
          ⟨.skipped, some time, some performer⟩ midway after)

/--
Two states of a task between which a request on the step `current` did what it is
meant to do: the plans stay, the steps get their records by the action, a jump
ahead spares what is resolved on its way and what is not on it, and a step that
became final is noted with the time and the performer.
-/
structure ChangesAsIntended
    (request : CompletionRequest)
    (current : Step)
    (time : Timestamp)
    (performer : String)
    (before after : FieldTask) :
    Prop where
  sameId : after.id = before.id
  sameTemplate : after.templateId = before.templateId
  samePlans : after.steps.map Step.plan = before.steps.map Step.plan
  effect : request.Effect current time performer before.steps after.steps
  spares :
    ∀ target, request.action = .jump target → current.order < target →
      List.Forall₂
        (fun old new =>
          old.order < current.order ∨ target ≤ old.order ∨
              old.status.isTerminal = true →
            new = old)
        before.steps after.steps
  notes :
    List.Forall₂
      (fun old new =>
        old.status.isTerminal = false → new.status.isTerminal = true →
          new.record.performedBy = some performer ∧ new.record.completedAt = some time)
      before.steps after.steps

variable {request : CompletionRequest} {task updated : FieldTask} {current : Step}
  {time : Timestamp} {performer : String}

theorem reports_outcomeStatus
    (request : CompletionRequest) :
    request.Reports request.outcomeStatus := by
  unfold outcomeStatus
  split
  · rename_i selected said
    split
    · rename_i isFailure
      exact .failure (isFailure ▸ said)
    · rename_i notFailure
      refine .success fun isFailure => notFailure ?_
      rw [said] at isFailure
      exact Json.string.inj (Option.some.inj isFailure)
  · rename_i notText
    exact .success (notText genericFailure)

/-- The records that a request gives have the effect that it is meant to have. -/
theorem effect_newRecord
    (request : CompletionRequest)
    (member : current ∈ task.steps)
    (time : Timestamp)
    (performer : String) :
    request.Effect current time performer task.steps
      (task.withRecords (request.newRecord current time performer)).steps := by
  have reports := request.reports_outcomeStatus
  have elsewhere : ∀ step ∈ task.steps, step ≠ current → step.order ≠ current.order :=
    fun step inTask other same => other (FieldTask.eq_of_order_eq inTask member same)
  cases action : request.action with
  | advance =>
      refine .goOn action reports (Step.onlyChange_map ?_ ?_)
      · rintro step _ rfl
        simp [newRecord, action]
      · intro step inTask other
        simp [newRecord, action, elsewhere step inTask other]
  | again =>
      refine .doAgain action (Step.onlyChange_map ?_ ?_)
      · rintro step _ rfl
        simp [newRecord, action, Step.reopened]
      · intro step inTask other
        simp [newRecord, action, elsewhere step inTask other]
  | jump target =>
      by_cases notAbove : target ≤ current.order
      · refine .jumpBack action notAbove (Step.onlyChange_map ?_ ?_)
        · intro step _ inRange
          simp [newRecord, action, notAbove, inRange, Step.reopened]
        · intro step _ outside
          simp [newRecord, action, notAbove, outside]
      · -- What is given at once is given in two rounds, the steps in between being midway.
        have ahead : current.order < target := by grind
        have asTwo :=
          FieldTask.withRecords_at_between task current.order target
            ⟨request.outcomeStatus, some time, some performer⟩
            ⟨.skipped, some time, some performer⟩
        have isNew :
            request.newRecord current time performer = fun step =>
              if step.order = current.order then
                ⟨request.outcomeStatus, some time, some performer⟩
              else if step.LiesUnresolved current.order target then
                ⟨.skipped, some time, some performer⟩
              else step.record := by
          funext step
          simp [newRecord, action, notAbove]
        rw [isNew, ← asTwo]
        refine .jumpAhead action ahead reports (Step.onlyChange_map ?_ ?_)
          (Step.onlyChange_map ?_ ?_)
        · rintro step _ rfl
          simp
        · intro step inTask other
          simp [elsewhere step inTask other]
        · intro step _ lies
          exact if_pos lies
        · intro step _ passedOver
          exact if_neg passedOver

/-- A jump ahead leaves alone what is not on its way, and what is resolved there. -/
theorem newRecord_of_spared
    {target : Int32}
    {step : Step}
    (action : request.action = .jump target)
    (above : current.order < target)
    (unresolved : current.status.isTerminal = false)
    (member : current ∈ task.steps)
    (inTask : step ∈ task.steps)
    (spared :
      step.order < current.order ∨ target ≤ step.order ∨ step.status.isTerminal = true) :
    request.newRecord current time performer step = step.record := by
  have notAbove : ¬ target ≤ current.order := by grind
  have elsewhere : step.order ≠ current.order := by
    intro same
    rw [FieldTask.eq_of_order_eq inTask member same] at spared
    grind
  have notSkipped : ¬ step.LiesUnresolved current.order target := by
    unfold Step.LiesUnresolved
    grind
  simp [newRecord, action, notAbove, elsewhere, notSkipped]

/-- A step that a request makes final is noted with the time and the performer. -/
theorem noted_of_newRecord
    {step : Step}
    (unresolved : step.status.isTerminal = false)
    (final :
      (request.newRecord current time performer step).status.isTerminal = true) :
    (request.newRecord current time performer step).performedBy = some performer ∧
      (request.newRecord current time performer step).completedAt = some time := by
  rcases request.newRecord_cases current time performer step with
    kept | reopened | ⟨status, _, noted⟩
  · rw [kept, Step.status_record, unresolved] at final
    cases final
  · rw [reopened] at final
    cases final
  · rw [noted]
    exact ⟨rfl, rfl⟩

/-- A request that applies changes its task as it is meant to. -/
theorem changesAsIntended_of_applyTo
    (applied : request.applyTo task time performer = .ok updated)
    (member : current ∈ task.steps)
    (concerns : current.id = request.step) :
    request.ChangesAsIntended current time performer task updated := by
  obtain ⟨sameId, samePlans⟩ := plans_of_applyTo applied
  obtain ⟨unresolved, _, rfl⟩ := (applyTo_eq_ok_iff_of_concerns member concerns).mp applied
  refine
    { sameId := sameId
      sameTemplate := rfl
      samePlans := samePlans
      effect := request.effect_newRecord member time performer
      spares := ?spares
      notes := ?notes }
  case spares =>
    intro target action above
    rw [FieldTask.steps_recomputed, FieldTask.withRecords, List.forall₂_map_right_iff,
      List.forall₂_same]
    intro step inSteps spared
    rw [newRecord_of_spared action above unresolved member inSteps spared]
    rfl
  case notes =>
    rw [FieldTask.steps_recomputed, FieldTask.withRecords, List.forall₂_map_right_iff,
      List.forall₂_same]
    intro step _ wasOpen final
    exact noted_of_newRecord wasOpen final

/-- A jump from a step to its own place does what doing the step again does. -/
theorem applyTo_again_of_jump_own
    (applied : request.applyTo task time performer = .ok updated)
    (member : current ∈ task.steps)
    (concerns : current.id = request.step)
    (action : request.action = .jump current.order) :
    { request with action := .again }.applyTo task time performer = .ok updated := by
  obtain ⟨unresolved, _, rfl⟩ := (applyTo_eq_ok_iff_of_concerns member concerns).mp applied
  refine applyTo_eq_ok_iff.mpr ⟨current, member, concerns, unresolved, trivial, ?_⟩
  have sameRecord :
      request.newRecord current time performer =
        { request with action := .again }.newRecord current time performer := by
    funext step
    have onlyThere :
        current.order ≤ step.order ∧ step.order ≤ current.order ↔
          step.order = current.order := by
      grind
    simp [newRecord, action, onlyThere]
  rw [sameRecord]

end CompletionRequest

namespace TaskStore

variable {store updated : TaskStore} {request : CompletionRequest} {task : FieldTask}
  {time : Timestamp}

/--
A completion recorded under a new key changes the task that it names and no
other one, and of this task exactly the steps that its action is meant to
change.  A jump to the step's own place is doing the step again.
-/
theorem exactly_intended_steps_change
    (held : store.task? request.task = some task)
    (fresh : request.key ∉ store.keys)
    (recorded : store.complete request time = .ok updated) :
    ∃ current ∈ task.steps, ∃ after,
      current.id = request.step ∧
      updated.task? request.task = some after ∧
      (∀ other, other ≠ request.task → updated.task? other = store.task? other) ∧
      request.ChangesAsIntended current time store.performer task after ∧
      (request.action = .jump current.order →
        ∃ again,
          store.complete { request with action := .again } time = .ok again ∧
            again.tasks = updated.tasks) := by
  rw [complete_of_held fresh held] at recorded
  obtain ⟨after, applied, rfl⟩ := Except.map_eq_ok_iff.mp recorded
  obtain ⟨current, member, concerns, _⟩ := CompletionRequest.applyTo_eq_ok_iff.mp applied
  have intended :=
    CompletionRequest.changesAsIntended_of_applyTo applied member concerns
  have ofTask : after.id = request.task := intended.sameId.trans (id_of_task? held)
  refine ⟨current, member, after, concerns, ?_, ?_, intended, ?_⟩
  · rw [task?_recorded, if_pos ofTask]
  · intro other different
    rw [task?_recorded, if_neg fun same => different (same.symm.trans ofTask)]
  · intro ownPlace
    have again := CompletionRequest.applyTo_again_of_jump_own applied member concerns ownPlace
    refine ⟨store.recorded { request with action := .again } after, ?_, rfl⟩
    exact complete_eq_ok_iff.mpr (.inr ⟨fresh, task, after, held, again, rfl⟩)

/-- The first step of some repair work, which is to come out badly. -/
def tryingOut : Step :=
  Step.plain 31 (-5) "Try it out" (by decide)

/-- A step that was done before its turn. -/
def ordering : Step :=
  (Step.plain 32 10 "Order a part" (by decide)).withRecord
    ⟨.completed, some atNoon, some "Grace"⟩

def repairing : FieldTask where
  id := 5
  templateId := some 2
  steps := [tryingOut, ordering, Step.plain 33 11 "Clean it" (by decide),
    Step.plain 34 40 "Hand it back" (by decide)]
  percentage := .zero
  wellOrdered := by simp [WellOrdered, tryingOut, ordering, Step.plain, Step.withRecord]

def handedBackBroken : CompletionRequest :=
  ⟨5, 31, FieldValues.empty.insert selectedName (.string "failure"), .jump 40, "first"⟩

/--
A jump ahead from a step that failed: the step that was done before is passed
over, the other one on the way is skipped, and the target stays.
-/
theorem exactly_intended_steps_change_repairing :
    ∃ updated after,
      (ofTasks [repairing] "Ada").complete handedBackBroken atNoon = .ok updated ∧
      updated.task? 5 = some after ∧
      after.steps.map Step.record =
        [⟨.failed, some atNoon, some "Ada"⟩, ⟨.completed, some atNoon, some "Grace"⟩,
          ⟨.skipped, some atNoon, some "Ada"⟩, {}] ∧
      handedBackBroken.ChangesAsIntended tryingOut atNoon "Ada" repairing after := by
  have recorded :
      ∃ updated, (ofTasks [repairing] "Ada").complete handedBackBroken atNoon = .ok updated :=
    ⟨_, rfl⟩
  obtain ⟨updated, recorded⟩ := recorded
  obtain ⟨current, member, after, concerns, isAfter, _, intended, _⟩ :=
    exactly_intended_steps_change (by rfl) (by decide) recorded
  obtain rfl : current = tryingOut :=
    FieldTask.eq_of_id_eq member (by simp [repairing]) concerns
  refine ⟨updated, after, recorded, isAfter, ?_, intended⟩
  cases recorded
  cases isAfter
  rfl

end TaskStore

end Fieldwork
