import Fieldwork.Proofs.Store.Journal
import Fieldwork.Proofs.Store.Order

namespace Fieldwork

/-!
# Steps that are entered again

A completion that leads on resolves its step, and a jump ahead passes the steps
on its way, so that all of these are in a final state.  A store records nothing
for such a step, and a completion leaves it final unless it sets the step back:
by having it done again, or by a jump back over it.  So whatever the log says of
a step that was resolved or passed before, it tells of such a completion in
between.
-/

namespace CompletionRequest

/-- Whether a request on one step sets another one, or the same, back to pending. -/
def SetsBack
    (request : CompletionRequest)
    (origin step : Step) :
    Prop :=
  match request.action with
  | .advance => False
  | .again => step.id = origin.id
  | .jump order =>
      order ≤ origin.order ∧ order ≤ step.order ∧ step.order ≤ origin.order

/-- Whether a request on one step jumps ahead over another one. -/
def Passes
    (request : CompletionRequest)
    (origin step : Step) :
    Prop :=
  ∃ order, request.action = .jump order ∧ origin.order < step.order ∧ step.order < order

/-- A completion by which a step of a task is entered again. -/
def Reenters
    (request : CompletionRequest)
    (task : FieldTask)
    (step : Step) :
    Prop :=
  request.task = task.id ∧
    ∃ origin ∈ task.steps, origin.id = request.step ∧ request.SetsBack origin step

/-- A completion of a step of a task that goes on behind it. -/
def Resolves
    (request : CompletionRequest)
    (task : FieldTask)
    (step : Step) :
    Prop :=
  request.task = task.id ∧ request.step = step.id ∧ request.LeadsOn step

/-- A completion that jumps ahead over a step of a task. -/
def Skips
    (request : CompletionRequest)
    (task : FieldTask)
    (step : Step) :
    Prop :=
  request.task = task.id ∧
    ∃ origin ∈ task.steps, origin.id = request.step ∧ request.Passes origin step

variable {request : CompletionRequest} {task updated : FieldTask}
  {current step origin : Step} {time : Timestamp} {performer : String}

/-- A step that is final stays so unless it is set back. -/
theorem isTerminal_newRecord
    (member : current ∈ task.steps)
    (inTask : step ∈ task.steps)
    (final : step.status.isTerminal = true)
    (kept : ¬ request.SetsBack current step) :
    (request.newRecord current time performer step).status.isTerminal = true := by
  have outcome := request.outcomeStatus_isTerminal
  unfold SetsBack at kept
  unfold newRecord
  cases action : request.action with
  | advance =>
      simp only
      split
      · exact outcome
      · exact final
  | again =>
      rw [action] at kept
      have elsewhere : step.order ≠ current.order := fun same =>
        kept (congrArg Step.id (FieldTask.eq_of_order_eq inTask member same))
      simp only [if_neg elsewhere]
      exact final
  | jump order =>
      rw [action] at kept
      simp only
      split
      · rename_i back
        rw [if_neg fun within => kept ⟨back, within⟩]
        exact final
      · split
        · exact outcome
        · split
          · rfl
          · exact final

/-- A step that a request passes comes to a final state, or is in one already. -/
theorem isTerminal_newRecord_of_passes
    (passes : request.Passes current step) :
    (request.newRecord current time performer step).status.isTerminal = true := by
  obtain ⟨order, action, behind, before⟩ := passes
  have ahead : ¬ order ≤ current.order := by grind
  have elsewhere : step.order ≠ current.order := by grind
  rw [newRecord, action]
  simp only [if_neg ahead, if_neg elsewhere]
  by_cases unresolved : step.status.isTerminal = false
  · rw [if_pos ⟨behind, before, unresolved⟩]
    rfl
  · rw [if_neg fun lies => unresolved lies.2.2]
    simpa using unresolved

theorem setsBack_of_plan_eq
    {origin' step' : Step}
    (setsBack : request.SetsBack origin step)
    (sameOrigin : origin.plan = origin'.plan)
    (samePlan : step.plan = step'.plan) :
    request.SetsBack origin' step' := by
  have sameOriginId : origin.id = origin'.id := congrArg StepPlan.id sameOrigin
  have sameOriginOrder : origin.order = origin'.order := congrArg StepPlan.order sameOrigin
  have sameId : step.id = step'.id := congrArg StepPlan.id samePlan
  have sameOrder : step.order = step'.order := congrArg StepPlan.order samePlan
  unfold SetsBack at setsBack ⊢
  rwa [sameOriginId, sameOriginOrder, sameId, sameOrder] at setsBack

theorem passes_of_plan_eq
    {origin' step' : Step}
    (passes : request.Passes origin step)
    (sameOrigin : origin.plan = origin'.plan)
    (samePlan : step.plan = step'.plan) :
    request.Passes origin' step' := by
  have sameOriginOrder : origin.order = origin'.order := congrArg StepPlan.order sameOrigin
  have sameOrder : step.order = step'.order := congrArg StepPlan.order samePlan
  unfold Passes at passes ⊢
  rwa [sameOriginOrder, sameOrder] at passes

end CompletionRequest

namespace TaskStore

variable {tasks rebuilt : List FieldTask} {task stored concerned updated : FieldTask}
  {step : Step} {request : CompletionRequest} {time : Timestamp} {performer : String}

/-! ## One recorded completion -/

/-- What stands among some tasks for a task, with the same plans. -/
def StandsFor
    (tasks : List FieldTask)
    (task stored : FieldTask) :
    Prop :=
  (tasks.find? fun other => other.id = task.id) = some stored ∧
    stored.steps.map Step.plan = task.steps.map Step.plan

/-- A step of a task is in a final state as it is among some tasks. -/
def IsClosed
    (tasks : List FieldTask)
    (task : FieldTask)
    (step : Step) :
    Prop :=
  ∃ stored, StandsFor tasks task stored ∧
    ∃ now ∈ stored.steps, now.plan = step.plan ∧ now.status.isTerminal = true

/-- A request changes what stands for its own task, and nothing else. -/
theorem standsFor_put
    (stands : StandsFor tasks task stored)
    (found : (tasks.find? fun other => other.id = request.task) = some concerned)
    (applied : request.applyTo concerned time performer = .ok updated) :
    (request.task ≠ task.id ∧ StandsFor (put updated tasks) task stored) ∨
      (request.task = task.id ∧ concerned = stored ∧
        StandsFor (put updated tasks) task updated) := by
  obtain ⟨isStored, samePlans⟩ := stands
  obtain ⟨sameId, samePlansAfter⟩ := CompletionRequest.plans_of_applyTo applied
  have concernedId : concerned.id = request.task := by
    simpa using List.find?_some found
  have updatedId : updated.id = request.task := sameId.trans concernedId
  unfold StandsFor
  rw [find?_put]
  by_cases same : request.task = task.id
  · rw [same, isStored] at found
    obtain rfl := Option.some.inj found
    rw [if_pos (updatedId.trans same)]
    exact .inr ⟨same, rfl, rfl, samePlansAfter.trans samePlans⟩
  · rw [if_neg fun sameTask => same (updatedId.symm.trans sameTask)]
    exact .inl ⟨same, isStored, samePlans⟩

/-- A recorded completion closes the step that it resolves and the steps that it skips. -/
theorem isClosed_put
    (stands : StandsFor tasks task stored)
    (inTask : step ∈ task.steps)
    (settles : request.Resolves task step ∨ request.Skips task step)
    (found : (tasks.find? fun other => other.id = request.task) = some concerned)
    (applied : request.applyTo concerned time performer = .ok updated) :
    IsClosed (put updated tasks) task step := by
  have sameTask : request.task = task.id := by
    rcases settles with resolves | skips
    · exact resolves.1
    · exact skips.1
  rcases standsFor_put stands found applied with ⟨other, _⟩ | ⟨_, rfl, standsAfter⟩
  · exact (other sameTask).elim
  · obtain ⟨now, nowInTask, samePlan⟩ := FieldTask.exists_alike stands.2.symm inTask
    obtain ⟨current, member, concerns, _, _, rfl⟩ :=
      CompletionRequest.applyTo_eq_ok_iff.mp applied
    refine ⟨_, standsAfter, now.withRecord (request.newRecord current time performer now),
      FieldTask.mem_withRecords_iff.mpr ⟨now, nowInTask, rfl⟩, samePlan, ?_⟩
    rw [Step.status_withRecord]
    rcases settles with ⟨_, ofStep, leadsOn⟩ | ⟨_, origin, originInTask, ofOrigin, passes⟩
    · have nowId : now.id = step.id := congrArg StepPlan.id samePlan
      obtain rfl : current = now :=
        FieldTask.eq_of_id_eq member nowInTask
          (concerns.trans (ofStep.trans nowId.symm))
      exact (CompletionRequest.newRecord_of_leadsOn
        (CompletionRequest.leadsOn_of_plan_eq leadsOn samePlan.symm) time performer).1
    · have originPlan : origin.plan = current.plan :=
        FieldTask.plan_eq_of_id_eq stands.2.symm originInTask member
          (ofOrigin.trans concerns.symm)
      exact CompletionRequest.isTerminal_newRecord_of_passes
        (CompletionRequest.passes_of_plan_eq passes originPlan samePlan.symm)

/-- A closed step stays closed by a recorded completion unless this enters it again. -/
theorem IsClosed.put
    (closed : IsClosed tasks task step)
    (found : (tasks.find? fun other => other.id = request.task) = some concerned)
    (applied : request.applyTo concerned time performer = .ok updated) :
    IsClosed (put updated tasks) task step ∨ request.Reenters task step := by
  obtain ⟨stored, stands, now, nowInTask, samePlan, final⟩ := closed
  rcases standsFor_put stands found applied with ⟨_, standsAfter⟩ | ⟨same, rfl, standsAfter⟩
  · exact .inl ⟨stored, standsAfter, now, nowInTask, samePlan, final⟩
  · obtain ⟨current, member, concerns, _, _, rfl⟩ :=
      CompletionRequest.applyTo_eq_ok_iff.mp applied
    by_cases setsBack : request.SetsBack current now
    · obtain ⟨origin, originInTask, originPlan⟩ := FieldTask.exists_alike stands.2 member
      have originId : origin.id = current.id := congrArg StepPlan.id originPlan
      exact .inr ⟨same, origin, originInTask, originId.trans concerns,
        CompletionRequest.setsBack_of_plan_eq setsBack originPlan.symm samePlan⟩
    · refine .inl ⟨_, standsAfter,
        now.withRecord (request.newRecord current time performer now),
        FieldTask.mem_withRecords_iff.mpr ⟨now, nowInTask, rfl⟩, samePlan, ?_⟩
      rw [Step.status_withRecord]
      exact CompletionRequest.isTerminal_newRecord member nowInTask final setsBack

/-- No completion of a closed step applies. -/
theorem IsClosed.not_applyTo
    (closed : IsClosed tasks task step)
    (ofTask : request.task = task.id)
    (ofStep : request.step = step.id)
    (found : (tasks.find? fun other => other.id = request.task) = some concerned) :
    request.applyTo concerned time performer ≠ .ok updated := by
  intro applied
  obtain ⟨stored, ⟨isStored, _⟩, now, nowInTask, samePlan, final⟩ := closed
  rw [ofTask, isStored] at found
  obtain rfl := Option.some.inj found
  have nowId : now.id = step.id := congrArg StepPlan.id samePlan
  obtain ⟨unresolved, _⟩ :=
    (CompletionRequest.applyTo_eq_ok_iff_of_concerns nowInTask
      (nowId.trans ofStep.symm)).mp applied
  rw [final] at unresolved
  cases unresolved

/-! ## All recorded completions -/

theorem replay_cons_eq_ok_iff
    {call : StoreCall}
    {rest : List StoreCall} :
    replay performer tasks (call :: rest) = .ok rebuilt ↔
      ∃ concerned updated,
        (tasks.find? fun other => other.id = call.request.task) = some concerned ∧
          call.request.applyTo concerned call.time performer = .ok updated ∧
          replay performer (put updated tasks) rest = .ok rebuilt := by
  rw [replay]
  cases tasks.find? fun other => other.id = call.request.task with
  | none => simp
  | some concerned => simp [Except.bind_eq_ok_iff]

theorem replay_append_eq_ok_iff
    {earlier later : List StoreCall} :
    replay performer tasks (earlier ++ later) = .ok rebuilt ↔
      ∃ midway,
        replay performer tasks earlier = .ok midway ∧
          replay performer midway later = .ok rebuilt := by
  induction earlier generalizing tasks with
  | nil =>
      simp [replay]
  | cons call rest inductionHypothesis =>
      simp only [List.cons_append, replay_cons_eq_ok_iff, inductionHypothesis]
      constructor
      · rintro ⟨concerned, updated, found, applied, midway, goesOn, ends⟩
        exact ⟨midway, ⟨concerned, updated, found, applied, goesOn⟩, ends⟩
      · rintro ⟨midway, ⟨concerned, updated, found, applied, goesOn⟩, ends⟩
        exact ⟨concerned, updated, found, applied, midway, goesOn, ends⟩

/-- Something stands for a task as long as completions are recorded. -/
theorem standsFor_replay
    {calls : List StoreCall}
    (stands : StandsFor tasks task stored)
    (replays : replay performer tasks calls = .ok rebuilt) :
    ∃ stored, StandsFor rebuilt task stored := by
  induction calls generalizing tasks stored with
  | nil =>
      cases replays
      exact ⟨stored, stands⟩
  | cons call rest inductionHypothesis =>
      obtain ⟨concerned, updated, found, applied, goesOn⟩ :=
        replay_cons_eq_ok_iff.mp replays
      rcases standsFor_put stands found applied with ⟨_, standsAfter⟩ | ⟨_, _, standsAfter⟩
      · exact inductionHypothesis standsAfter goesOn
      · exact inductionHypothesis standsAfter goesOn

/-- A closed step stays closed as long as no recorded completion enters it again. -/
theorem IsClosed.replay
    {calls : List StoreCall}
    (closed : IsClosed tasks task step)
    (replays : TaskStore.replay performer tasks calls = .ok rebuilt) :
    IsClosed rebuilt task step ∨ ∃ call ∈ calls, call.request.Reenters task step := by
  induction calls generalizing tasks with
  | nil =>
      cases replays
      exact .inl closed
  | cons call rest inductionHypothesis =>
      obtain ⟨concerned, updated, found, applied, goesOn⟩ :=
        replay_cons_eq_ok_iff.mp replays
      rcases closed.put found applied with closedAfter | reenters
      · refine (inductionHypothesis closedAfter goesOn).imp_right ?_
        rintro ⟨later, inRest, reenters⟩
        exact ⟨later, List.mem_cons_of_mem call inRest, reenters⟩
      · exact .inr ⟨call, List.mem_cons_self, reenters⟩

/--
In every run of calls on a store of any tasks, a step that a recorded completion
resolves or skips is entered again before the log tells of another completion of
it: between the two stands one that has the step done again, or a jump back over
it.
-/
theorem completed_again_only_after_reentry
    (tasks : List FieldTask)
    (performer : String)
    (calls : List StoreCall)
    {task : FieldTask}
    {step : Step}
    {earlier between later : List CompletionRequest}
    {settling next : CompletionRequest}
    (held : (ofTasks tasks performer).task? task.id = some task)
    (inTask : step ∈ task.steps)
    (log :
      ((ofTasks tasks performer).run calls).completions =
        earlier ++ settling :: between ++ next :: later)
    (settles : settling.Resolves task step ∨ settling.Skips task step)
    (ofTask : next.task = task.id)
    (ofStep : next.step = step.id) :
    ∃ reentry ∈ between, reentry.Reenters task step := by
  obtain ⟨noted, isLog, replays⟩ := replay_run (ofTasks tasks performer) calls
  have requests : noted.map StoreCall.request = earlier ++ settling :: between ++ next :: later :=
    isLog.symm.trans log
  obtain ⟨front, back, rfl, frontLog, backLog⟩ := List.map_eq_append_iff.mp requests
  obtain ⟨before, rest, rfl, _, restLog⟩ := List.map_eq_append_iff.mp frontLog
  obtain ⟨settlingCall, middle, rfl, rfl, rfl⟩ := List.map_eq_cons_iff.mp restLog
  obtain ⟨nextCall, _, rfl, rfl, _⟩ := List.map_eq_cons_iff.mp backLog
  obtain ⟨atNext, replaysFront, replaysBack⟩ := replay_append_eq_ok_iff.mp replays
  obtain ⟨atSettling, replaysBefore, replaysRest⟩ := replay_append_eq_ok_iff.mp replaysFront
  obtain ⟨stored, stands⟩ := standsFor_replay ⟨held, rfl⟩ replaysBefore
  obtain ⟨concerned, updated, found, applied, replaysMiddle⟩ :=
    replay_cons_eq_ok_iff.mp replaysRest
  have closed : IsClosed (put updated atSettling) task step :=
    isClosed_put stands inTask settles found applied
  rcases closed.replay replaysMiddle with stillClosed | ⟨call, inMiddle, reenters⟩
  · obtain ⟨_, _, foundNext, appliedNext, _⟩ := replay_cons_eq_ok_iff.mp replaysBack
    exact (stillClosed.not_applyTo ofTask ofStep foundNext appliedNext).elim
  · exact ⟨call.request, List.mem_map_of_mem inMiddle, reenters⟩

def opening : Step :=
  Step.plain 21 1 "Open the windows" (by decide)

def waiting : Step :=
  Step.plain 22 2 "Wait" (by decide)

def airing : FieldTask where
  id := 9
  templateId := none
  steps := [opening, waiting, Step.plain 23 3 "Close the windows" (by decide)]
  percentage := .zero
  wellOrdered := by simp [WellOrdered, opening, waiting, Step.plain]

def withoutWaiting : CompletionRequest :=
  ⟨9, 21, FieldValues.empty, .jump 3, "first"⟩

/-- A completion of the step that was skipped, which is refused. -/
def waitedNevertheless : CompletionRequest :=
  ⟨9, 22, FieldValues.empty, .advance, "second"⟩

def fromTheStart : CompletionRequest :=
  ⟨9, 23, FieldValues.empty, .jump 1, "third"⟩

def openedAgain : CompletionRequest :=
  ⟨9, 21, FieldValues.empty, .advance, "fourth"⟩

def waitedThen : CompletionRequest :=
  ⟨9, 22, FieldValues.empty, .advance, "fifth"⟩

/--
A jump ahead resolves the first step and skips the second.  Both are completed
later, and what lets them is the jump back that the log has in between.
-/
theorem completed_again_only_after_reentry_airing :
    let calls := [withoutWaiting, waitedNevertheless, withoutWaiting, fromTheStart,
      openedAgain, waitedThen].map fun request => (⟨request, atNoon⟩ : StoreCall)
    ((ofTasks [airing] "Ada").run calls).completions =
        [withoutWaiting, fromTheStart, openedAgain, waitedThen] ∧
      (∃ reentry ∈ [fromTheStart], reentry.Reenters airing opening) ∧
      ∃ reentry ∈ [fromTheStart, openedAgain], reentry.Reenters airing waiting := by
  intro calls
  let log := ((ofTasks [airing] "Ada").run calls).completions
  have twiceOpened :
      log = [] ++ withoutWaiting :: [fromTheStart] ++ openedAgain :: [waitedThen] :=
    rfl
  have skippedThenDone :
      log = [] ++ withoutWaiting :: [fromTheStart, openedAgain] ++ waitedThen :: [] :=
    rfl
  have resolves : withoutWaiting.Resolves airing opening :=
    ⟨rfl, rfl, (by decide : (1 : Int32) < 3)⟩
  have skips : withoutWaiting.Skips airing waiting :=
    ⟨rfl, opening, by simp [airing], rfl, 3, rfl,
      (by decide : (1 : Int32) < 2 ∧ (2 : Int32) < 3)⟩
  refine ⟨twiceOpened, ?_, ?_⟩
  · exact
      completed_again_only_after_reentry [airing] "Ada" calls rfl (by simp [airing])
        twiceOpened (.inl resolves) rfl rfl
  · exact
      completed_again_only_after_reentry [airing] "Ada" calls rfl (by simp [airing])
        skippedThenDone (.inr skips) rfl rfl

end TaskStore

end Fieldwork
