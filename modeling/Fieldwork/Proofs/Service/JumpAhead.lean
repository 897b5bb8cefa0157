import Fieldwork.Proofs.Service.Exchange
import Fieldwork.Proofs.Store.Effect
import Fieldwork.Proofs.Store.Landing
import Fieldwork.Proofs.Store.Reentry

namespace Fieldwork

/-!
# Where a jump ahead continues

A jump ahead resolves its step and what is unresolved up to the target, and it
leaves the target and everything behind it as they are.  So the work continues at
the target only where this can come into focus by itself: where it is pending, or
in progress with nothing left that goes first.
-/

namespace FieldTask

/--
Whether a step comes into focus when the ones from an earlier step up to it are
resolved: a pending one does, and one in progress does where no step behind it is
pending and none before the earlier one is in progress.
-/
def ContinuesAt
    (task : FieldTask)
    (origin target : Step) :
    Prop :=
  target.status = .pending ∨
    (target.status = .inProgress ∧
      (∀ step ∈ task.steps, target.order < step.order → step.status ≠ .pending) ∧
      ∀ step ∈ task.steps, step.order < origin.order → step.status ≠ .inProgress)

instance
    (task : FieldTask)
    (origin target : Step) :
    Decidable (task.ContinuesAt origin target) :=
  inferInstanceAs (Decidable (_ ∨ _ ∧ (∀ step ∈ task.steps, _ → _) ∧ ∀ step ∈ task.steps, _ → _))

end FieldTask

namespace CompletionRequest

variable {request : CompletionRequest} {task : FieldTask} {current target : Step}
  {time : Timestamp} {performer : String}

/-- A jump ahead leaves no step unresolved from its own up to the target. -/
theorem isTerminal_newRecord_of_jumpAhead
    {step : Step}
    (member : current ∈ task.steps)
    (inTask : step ∈ task.steps)
    (jumps : request.action = .jump target.order)
    (ahead : current.order < target.order)
    (notBefore : current.order ≤ step.order)
    (before : step.order < target.order) :
    (request.newRecord current time performer step).status.isTerminal = true := by
  by_cases isCurrent : step.order = current.order
  · obtain rfl := FieldTask.eq_of_order_eq inTask member isCurrent
    have notBack : ¬ target.order ≤ step.order := Int32.not_le.mpr ahead
    simpa [newRecord, jumps, notBack] using request.outcomeStatus_isTerminal
  · have behind : current.order < step.order :=
      Std.lt_of_le_of_ne notBefore (Ne.symm isCurrent)
    exact isTerminal_newRecord_of_passes ⟨target.order, jumps, behind, before⟩

/-- A jump ahead leaves alone what stands before its step, the target and what is behind it. -/
theorem withRecord_of_jumpAhead
    {step : Step}
    (focus : task.activeStep? = some current)
    (inTask : step ∈ task.steps)
    (jumps : request.action = .jump target.order)
    (ahead : current.order < target.order)
    (apart : step.order < current.order ∨ target.order ≤ step.order) :
    step.withRecord (request.newRecord current time performer step) = step := by
  have unresolved := (WorkSession.isOpen_of_activeStep? focus).unresolved
  have spared :
      step.order < current.order ∨ target.order ≤ step.order ∨
        step.status.isTerminal = true :=
    apart.imp_right .inl
  rw [newRecord_of_spared jumps ahead unresolved (FieldTask.mem_of_activeStep? focus)
    inTask spared]
  rfl

theorem mem_withRecords_of_jumpAhead
    {step : Step}
    (focus : task.activeStep? = some current)
    (inTask : step ∈ task.steps)
    (jumps : request.action = .jump target.order)
    (ahead : current.order < target.order)
    (apart : step.order < current.order ∨ target.order ≤ step.order) :
    step ∈ (task.withRecords (request.newRecord current time performer)).steps :=
  FieldTask.mem_withRecords_iff.mpr
    ⟨step, inTask, withRecord_of_jumpAhead focus inTask jumps ahead apart⟩

/-- After a jump ahead, what is not resolved before the target stood before the step in focus. -/
theorem isTerminal_or_mem_of_jumpAhead
    {step : Step}
    (focus : task.activeStep? = some current)
    (jumps : request.action = .jump target.order)
    (ahead : current.order < target.order)
    (member : step ∈ (task.withRecords (request.newRecord current time performer)).steps)
    (before : step.order < target.order) :
    step.status.isTerminal = true ∨ step ∈ task.steps ∧ step.order < current.order := by
  obtain ⟨old, inTask, rfl⟩ := FieldTask.mem_withRecords_iff.mp member
  by_cases first : old.order < current.order
  · right
    rw [withRecord_of_jumpAhead focus inTask jumps ahead (.inl first)]
    exact ⟨inTask, first⟩
  · left
    exact isTerminal_newRecord_of_jumpAhead (FieldTask.mem_of_activeStep? focus) inTask
      jumps ahead (Int32.not_lt.mp first) before

/--
After a jump ahead from the step in focus, the target is in focus exactly where it
could come into focus by itself.
-/
theorem activeStep?_of_jumpAhead_iff
    (focus : task.activeStep? = some current)
    (member : target ∈ task.steps)
    (jumps : request.action = .jump target.order)
    (ahead : current.order < target.order) :
    (task.withRecords (request.newRecord current time performer)).activeStep? =
        some target ↔
      task.ContinuesAt current target := by
  have targetStays :
      target ∈ (task.withRecords (request.newRecord current time performer)).steps :=
    mem_withRecords_of_jumpAhead focus member jumps ahead (.inr (Int32.le_refl target.order))
  rw [FieldTask.activeStep?_eq_some_iff, and_iff_right targetStays]
  constructor
  · rintro (⟨pending, _⟩ | ⟨started, nonePending, noneStarted⟩)
    · exact .inl pending
    · refine .inr ⟨started, ?_, ?_⟩
      · intro step inTask behind
        exact nonePending step (mem_withRecords_of_jumpAhead focus inTask jumps ahead
          (.inr (Int32.le_of_lt behind)))
      · intro step inTask before
        exact noneStarted step
          (mem_withRecords_of_jumpAhead focus inTask jumps ahead (.inl before))
          (Int32.lt_trans before ahead)
  · intro continues
    have nonePendingBefore :
        ∀ step ∈ (task.withRecords (request.newRecord current time performer)).steps,
          step.order < target.order → step.status ≠ .pending := by
      intro step inNew before
      rcases isTerminal_or_mem_of_jumpAhead focus jumps ahead inNew before with
        final | ⟨inTask, first⟩
      · exact (StepStatus.settled_of_isTerminal final).1
      · exact FieldTask.not_pending_of_before_focus focus inTask first
    rcases continues with pending | ⟨started, nonePending, noneStarted⟩
    · exact .inl ⟨pending, nonePendingBefore⟩
    · refine .inr ⟨started, ?_, ?_⟩
      · intro step inNew
        by_cases before : step.order < target.order
        · exact nonePendingBefore step inNew before
        · obtain ⟨old, inTask, rfl⟩ := FieldTask.mem_withRecords_iff.mp inNew
          rw [Step.order_withRecord, Int32.not_lt] at before
          rw [withRecord_of_jumpAhead focus inTask jumps ahead (.inr before)]
          by_cases isTarget : old.order = target.order
          · rw [FieldTask.eq_of_order_eq inTask member isTarget, started]
            decide
          · exact nonePending old inTask (Std.lt_of_le_of_ne before (Ne.symm isTarget))
      · intro step inNew before
        rcases isTerminal_or_mem_of_jumpAhead focus jumps ahead inNew before with
          final | ⟨inTask, first⟩
        · exact (StepStatus.settled_of_isTerminal final).2
        · exact noneStarted step inTask first

end CompletionRequest

namespace WorkSession

/--
A session that works on the task as the store holds it submits a jump ahead, and
the submission succeeds.  Then the step with the order of the jump exists, and it
is the one in focus afterwards exactly where the jump is recorded now, and not
known from before, and the work continues at this step.
-/
theorem jump_ahead_continues_at_target
    {task : FieldTask}
    {calls : List SessionCall}
    {session pending : WorkSession}
    {store : TaskStore}
    {request : CompletionRequest}
    {key : String}
    {current : Step}
    {order : Int32}
    {time : Timestamp}
    {transition : StepTransition}
    (reached : session = (start task).run calls)
    (upToDate : store.task? session.task.id = some session.task)
    (focus : session.activeStep? = some current)
    (prepared : session.prepare key = .ok (pending, request))
    (jumps : request.action = .jump order)
    (ahead : current.order < order)
    (succeeded :
      ((TaskStore.gateway time).submit key session store).result = .ok transition) :
    ∃ target ∈ session.task.steps, target.order = order ∧
      (transition.active = some target.id ↔
        request.key ∉ store.keys ∧ session.task.ContinuesAt current target) := by
  have inStep : session.InStep task.id := reached ▸ (InStep.start task).run calls
  obtain ⟨step, outcome, focus', outcomeOfStep, addressed, sameStep, sameAction, _⟩ :=
    carries_of_prepare inStep prepared
  obtain rfl : step = current := Option.some.inj (focus'.symm.trans focus)
  have member := FieldTask.mem_of_activeStep? focus
  have concerns : step.id = request.step :=
    (FieldTask.step_of_resolve outcomeOfStep).symm.trans sameStep.symm
  obtain ⟨next, leads⟩ := FieldTask.target_of_resolve outcomeOfStep
  rw [← sameAction, jumps] at leads
  obtain ⟨target, inTask, rfl, rfl⟩ := FieldTask.target_jump_eq_ok_iff.mp leads
  have held : store.task? request.task = some session.task := by rw [addressed, upToDate]
  refine ⟨target, inTask, rfl, ?_⟩
  obtain ⟨updated, refreshed, _, completes, loads, rfl⟩ :=
    Gateway.exists_loaded_of_submit prepared succeeded
  have recorded := TaskStore.complete_of_gateway_ok completes
  have found := TaskStore.task?_of_gateway_ok loads
  rcases TaskStore.complete_eq_ok_iff.mp recorded with
    ⟨known, rfl⟩ | ⟨fresh, _, after, held', applied, rfl⟩
  · -- A known request changes nothing, so the step in focus is the one before the jump.
    rw [held] at found
    cases found
    have elsewhere : step ≠ target := by
      rintro rfl
      exact Int32.lt_irrefl ahead
    have notTarget : activeId session.task ≠ some target.id := by
      rw [ne_eq, activeId_eq_some_iff inTask]
      exact fun focus' => elsewhere (Option.some.inj (focus.symm.trans focus'))
    simp [notTarget, known]
  · rw [held] at held'
    cases held'
    have sameId := (CompletionRequest.plans_of_applyTo applied).1
    rw [TaskStore.task?_recorded, if_pos (sameId.trans addressed.symm)] at found
    cases found
    obtain ⟨_, _, rfl⟩ :=
      (CompletionRequest.applyTo_eq_ok_iff_of_concerns member concerns).mp applied
    rw [and_iff_right fresh,
      ← CompletionRequest.activeStep?_of_jumpAhead_iff focus inTask jumps ahead]
    exact activeId_eq_some_iff
      (CompletionRequest.mem_withRecords_of_jumpAhead focus inTask jumps ahead
        (.inr (Int32.le_refl target.order)))

/-- A step that asks what was found and knows one answer, a jump over the next step. -/
def opening : Step :=
  ⟨⟨11, none, "Open the tank", 1, true, false, .none, [⟨"dry", "", .jump (some 3), by decide⟩],
    by decide, by simp⟩, {}⟩

/-- Four steps, the first of which jumps to the third, with a status for the last two. -/
def refilling
    (target last : StepStatus) :
    FieldTask where
  id := 7
  templateId := none
  steps := [opening, Step.plain 12 2 "Drain" (by decide),
    (Step.plain 13 3 "Refill" (by decide)).withRecord { status := target },
    (Step.plain 14 4 "Close" (by decide)).withRecord { status := last }]
  percentage := .zero
  wellOrdered := by simp [WellOrdered, opening, Step.plain, Step.withRecord]

/-- The session in which the jump to the third step is selected. -/
def foundDry
    (target last : StepStatus) :
    WorkSession :=
  (start (refilling target last)).run [.enter (.select "dry")]

/-- The request for the jump to the third step. -/
def refillRequest : CompletionRequest :=
  ⟨7, 11, FieldValues.empty.insert selectedName (.string "dry"), .jump 3, "first"⟩

/-- The work continues at a target in progress where the step behind it is done. -/
theorem jump_ahead_continues_at_target_refilling :
    let session := foundDry .inProgress .completed
    let store := TaskStore.ofTasks [refilling .inProgress .completed] "Ada"
    let served := (TaskStore.gateway TaskStore.inTheEvening).submit "first" session store
    store.task? session.task.id = some session.task ∧
      session.activeStep? = some opening ∧
      session.prepare "first" =
        .ok ({ session with confirmation := .pending refillRequest }, refillRequest) ∧
      ∃ transition, served.result = .ok transition ∧ transition.active = some 13 := by
  intro session store served
  have upToDate : store.task? session.task.id = some session.task := rfl
  have focus : session.activeStep? = some opening := rfl
  have prepared :
      session.prepare "first" =
        .ok ({ session with confirmation := .pending refillRequest }, refillRequest) :=
    rfl
  have succeeded : ∃ transition, served.result = .ok transition := ⟨_, rfl⟩
  obtain ⟨transition, succeeded⟩ := succeeded
  obtain ⟨target, inTask, atThree, continues⟩ :=
    jump_ahead_continues_at_target rfl upToDate focus prepared rfl (by decide) succeeded
  have onlyThird :
      ∀ step ∈ session.task.steps, step.order = 3 →
        step.id = 13 ∧ session.task.ContinuesAt opening step := by
    decide
  obtain ⟨isThirteen, continuesThere⟩ := onlyThird target inTask atThree
  rw [isThirteen] at continues
  exact ⟨upToDate, focus, prepared, transition, succeeded,
    continues.mpr ⟨by decide, continuesThere⟩⟩

/--
A jump ahead does not always continue at its target: where the target is in progress
and the step behind it is pending, the submission succeeds and the latter is in focus.
-/
theorem jump_ahead_passes_its_target :
    let session := foundDry .inProgress .pending
    let store := TaskStore.ofTasks [refilling .inProgress .pending] "Ada"
    store.task? session.task.id = some session.task ∧
      session.activeStep? = some opening ∧
      session.prepare "first" =
        .ok ({ session with confirmation := .pending refillRequest }, refillRequest) ∧
      refillRequest.key ∉ store.keys ∧
      refillRequest.action = .jump 3 ∧
      (session.task.stepAt? 3).map Step.id = some 13 ∧
      ((TaskStore.gateway TaskStore.inTheEvening).submit "first" session store).result =
        .ok ⟨11, some 14, .active 14⟩ := by
  refine ⟨rfl, rfl, rfl, by decide, rfl, by decide, ?_⟩
  with_unfolding_all rfl

end WorkSession

end Fieldwork
