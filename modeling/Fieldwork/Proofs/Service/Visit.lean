import Fieldwork.Proofs.Service.Exchange
import Fieldwork.Proofs.Session.Keys
import Fieldwork.Proofs.Store.Moving

namespace Fieldwork

/-!
# One session against its store

A visit is a session together with the store that it works against, and nobody
else works there.  Two answers to the question what is done next meet in it: the
session names the target of an action on its own copy of the task, and the
store rewrites its copy, in which the first pending step is then in focus.
-/

/-- What the user of a session does in one go. -/
inductive Turn where
  | enter (entry : StepInputs.Entry)
  | clear
  /-- The key is the one that is drawn where a new one is needed. -/
  | submit (key : String) (time : Timestamp)
  | refresh (time : Timestamp)

/-- A session and the store that it works against. -/
structure Visit where
  session : WorkSession
  store : TaskStore

namespace Visit

/-- The visit that a turn leaves behind. -/
def perform
    (visit : Visit) :
    Turn →
    Visit
  | .enter entry => { visit with session := visit.session.perform (.enter entry) }
  | .clear => { visit with session := visit.session.perform .clear }
  | .submit key time =>
      let served := (TaskStore.gateway time).submit key visit.session visit.store
      ⟨served.session, served.state⟩
  | .refresh time =>
      let served := (TaskStore.gateway time).refresh visit.session visit.store
      ⟨served.session, served.state⟩

/-- The visit after some turns. -/
def run
    (visit : Visit)
    (turns : List Turn) :
    Visit :=
  turns.foldl perform visit

/-- The key that a turn draws. -/
def drawnKey?
    (visit : Visit) :
    Turn →
    Option String
  | .submit key _ => visit.session.drawnKey? (.prepare key)
  | _ => none

/-- The keys that some turns draw, in the order of their drawing. -/
def drawnKeys
    (visit : Visit)
    (turns : List Turn) :
    List String :=
  drawnAlong perform drawnKey? visit turns

/--
The session works on the task as the store holds it, the task is worked on in
sequence, nothing is left of earlier completions, and the keys of the log are
among those that were drawn.
-/
structure UpToDate
    (opened : Int64)
    (drawn : List String)
    (visit : Visit) :
    Prop where
  inStep : visit.session.InStep opened
  idle : visit.session.confirmation = .idle
  stored : visit.store.task? opened = some visit.session.task
  sequence : visit.session.task.InSequence
  keysDrawn : ∀ key ∈ visit.store.keys, key ∈ drawn

/-- The visit that starts with a session on a task of a store. -/
def opening
    (task : FieldTask)
    (store : TaskStore) :
    Visit :=
  ⟨WorkSession.start task, store⟩

/--
A transition resolves the step in focus and leads to the target of its action
on the task as it was before, which for an advance is the upcoming step.
-/
def Follows
    (visit : Visit)
    (transition : StepTransition) :
    Prop :=
  ∃ step outcome next,
    visit.session.activeStep? = some step ∧
      visit.session.task.resolve step visit.session.inputs = .ok outcome ∧
      visit.session.task.target step outcome.action = .ok next ∧
      transition.resolved = step.id ∧
      transition.active = next.map Step.id ∧
      transition.progress = next.elim .complete (fun target => .active target.id) ∧
      (outcome.action = .advance → next = visit.session.task.upcomingStep?)

/-- What a submission comes to that is prepared in an up-to-date visit. -/
structure Submits
    (visit : Visit)
    (time : Timestamp)
    (request : CompletionRequest)
    (step : Step)
    (next : Option Step)
    (updated : FieldTask) :
    Prop where
  focus : visit.session.activeStep? = some step
  resolves :
    ∃ outcome,
      visit.session.task.resolve step visit.session.inputs = .ok outcome ∧
        outcome.action = request.action
  leads : visit.session.task.target step request.action = .ok next
  recorded : visit.store.complete request time = .ok (visit.store.recorded request updated)
  sameTask : updated.id = visit.session.task.id
  stands : updated.StandsAt (next.map Step.plan)
  served :
    (TaskStore.gateway time).submit request.key visit.session visit.store =
      ⟨.ok ⟨step.id, next.map Step.id, updated.progress⟩, WorkSession.start updated,
        visit.store.recorded request updated⟩

theorem activeId_of_standsAt
    {task : FieldTask}
    {next : Option Step}
    (stands : task.StandsAt (next.map Step.plan)) :
    WorkSession.activeId task = next.map Step.id := by
  have focus := congrArg (Option.map StepPlan.id) stands.focusPlan?_eq
  rw [FieldTask.focusPlan?, Option.map_map, Option.map_map] at focus
  exact focus

namespace UpToDate

variable {opened : Int64} {drawn : List String} {visit : Visit}

/-- In an up-to-date visit, every completion that is prepared draws its key. -/
theorem draws
    (upToDate : UpToDate opened drawn visit)
    {key : String}
    {pending : WorkSession}
    {request : CompletionRequest}
    (prepared : visit.session.prepare key = .ok (pending, request)) :
    visit.session.drawnKey? (.prepare key) = some key := by
  rcases WorkSession.failed_or_drawn_of_prepare prepared with
    ⟨failure, failed⟩ | ⟨_, draws⟩
  · cases upToDate.idle.symm.trans failed
  · exact draws

/-- In an up-to-date visit, a request that is prepared under a new key is recorded. -/
theorem submits
    (upToDate : UpToDate opened drawn visit)
    {key : String}
    {pending : WorkSession}
    {request : CompletionRequest}
    (time : Timestamp)
    (fresh : key ∉ drawn)
    (prepared : visit.session.prepare key = .ok (pending, request)) :
    request.key = key ∧
      ∃ step next updated, visit.Submits time request step next updated := by
  obtain ⟨step, outcome, focus, outcomeOfStep, isRequest, isPending⟩ :=
    WorkSession.prepare_of_idle upToDate.idle prepared
  have sameKey : request.key = key := by rw [isRequest]; rfl
  have sameAction : request.action = outcome.action := by rw [isRequest]; rfl
  have addressed : request.task = visit.session.task.id := by rw [isRequest]; rfl
  have concerns : request.step = step.id := by
    rw [isRequest]
    exact FieldTask.step_of_resolve outcomeOfStep
  obtain ⟨next, leads⟩ := FieldTask.target_of_resolve outcomeOfStep
  rw [← sameAction] at leads
  obtain ⟨updated, applied, sameTask, stands⟩ :=
    CompletionRequest.applyTo_of_inSequence upToDate.sequence focus concerns leads
      time visit.store.performer
  -- The key is the drawn one, which is new and so not in the log.
  have unknown : request.key ∉ visit.store.keys :=
    fun known => fresh (sameKey ▸ upToDate.keysDrawn _ known)
  have found : visit.store.task? request.task = some visit.session.task := by
    rw [addressed, upToDate.inStep.sameTask]
    exact upToDate.stored
  have recorded :
      visit.store.complete request time = .ok (visit.store.recorded request updated) :=
    TaskStore.complete_eq_ok_iff.mpr (.inr ⟨unknown, _, updated, found, applied, rfl⟩)
  refine ⟨sameKey, step, next, updated, focus, ⟨outcome, outcomeOfStep, sameAction.symm⟩,
    leads, recorded, sameTask, stands, ?_⟩
  have foundAgain :
      (visit.store.recorded request updated).task? request.task = some updated := by
    rw [TaskStore.task?_recorded, if_pos (sameTask.trans addressed.symm)]
  rw [sameKey,
    Gateway.submit_of_completed prepared (TaskStore.gateway_complete_of_ok recorded),
    Gateway.settle_of_loaded (by rw [isPending])
      (TaskStore.gateway_load_of_task? foundAgain time)
      (by rw [isPending]; exact sameTask),
    concerns, activeId_of_standsAt stands]

theorem start
    {tasks : List FieldTask}
    {performer : String}
    {task : FieldTask}
    (held : (TaskStore.ofTasks tasks performer).task? task.id = some task)
    (allPending : ∀ step ∈ task.steps, step.status = .pending) :
    UpToDate task.id [] (opening task (TaskStore.ofTasks tasks performer)) where
  inStep := WorkSession.InStep.start task
  idle := rfl
  stored := held
  sequence := FieldTask.inSequence_of_pending allPending
  keysDrawn := by
    intro key known
    cases known

theorem withDrawn
    (upToDate : UpToDate opened drawn visit)
    (more : List String) :
    UpToDate opened (drawn ++ more) visit :=
  { upToDate with
    keysDrawn := fun key known =>
      List.mem_append_left more (upToDate.keysDrawn key known) }

/-- A call keeps a visit up to date where it leaves the task and the confirmation alone. -/
theorem performOnSession
    (upToDate : UpToDate opened drawn visit)
    {call : SessionCall}
    (leavesAlone :
      ∀ changed, WorkSession.Effect visit.session call changed →
        changed.task = visit.session.task ∧ changed.confirmation = .idle) :
    UpToDate opened drawn { visit with session := visit.session.perform call } := by
  cases attempted : visit.session.attempt call with
  | error failure =>
      rw [WorkSession.perform_of_error attempted]
      exact upToDate
  | ok changed =>
      rw [WorkSession.perform_of_ok attempted]
      have effect := WorkSession.effect_of_attempt attempted
      obtain ⟨sameTask, idle⟩ := leavesAlone changed effect
      exact {
        inStep := upToDate.inStep.effect effect
        idle := idle
        stored := by rw [sameTask]; exact upToDate.stored
        sequence := by rw [sameTask]; exact upToDate.sequence
        keysDrawn := upToDate.keysDrawn }

/-- A submission leaves a visit up to date, whether its completion can be prepared or not. -/
theorem performSubmit
    (upToDate : UpToDate opened drawn visit)
    (key : String)
    (time : Timestamp)
    (fresh : ∀ drawnKey, visit.session.drawnKey? (.prepare key) = some drawnKey →
      drawnKey ∉ drawn) :
    UpToDate opened (drawn ++ (visit.session.drawnKey? (.prepare key)).toList)
      (visit.perform (.submit key time)) := by
  simp only [Visit.perform]
  cases prepared : visit.session.prepare key with
  | error failure =>
      rw [Gateway.submit_of_unprepared prepared]
      exact upToDate.withDrawn _
  | ok made =>
      obtain ⟨pending, request⟩ := made
      have draws := upToDate.draws prepared
      obtain ⟨sameKey, step, next, updated, submits⟩ :=
        upToDate.submits time (fresh key draws) prepared
      have served := submits.served
      rw [sameKey] at served
      rw [served, draws]
      have opens : updated.id = opened :=
        submits.sameTask.trans upToDate.inStep.sameTask
      exact {
        inStep := opens ▸ WorkSession.InStep.start updated
        idle := rfl
        stored := by rw [TaskStore.task?_recorded, if_pos opens]; rfl
        sequence := submits.stands.inSequence
        keysDrawn := by
          intro known inLog
          rw [TaskStore.keys_recorded, List.mem_append, List.mem_singleton, sameKey] at inLog
          rw [Option.toList_some, List.mem_append, List.mem_singleton]
          exact inLog.imp_left (upToDate.keysDrawn known) }

theorem perform
    (upToDate : UpToDate opened drawn visit)
    (turn : Turn)
    (fresh : ∀ key, visit.drawnKey? turn = some key → key ∉ drawn) :
    UpToDate opened (drawn ++ (visit.drawnKey? turn).toList) (visit.perform turn) := by
  cases turn with
  | enter entry =>
      refine (upToDate.performOnSession ?_).withDrawn _
      rintro changed ⟨⟩
      exact ⟨rfl, upToDate.idle⟩
  | clear =>
      refine (upToDate.performOnSession ?_).withDrawn _
      rintro changed ⟨⟩
      exact ⟨rfl, upToDate.idle⟩
  | submit key time =>
      exact upToDate.performSubmit key time fresh
  | refresh time =>
      have stored := upToDate.stored
      rw [← upToDate.inStep.sameTask] at stored
      simp only [Visit.perform]
      rw [Gateway.refresh_of_settled (by rw [upToDate.idle]; rfl)
        (TaskStore.gateway_load_of_task? stored time) rfl]
      refine (upToDate.performOnSession ?_).withDrawn _
      rintro changed effect
      cases effect with
      | keepFocus =>
          exact ⟨rfl, upToDate.idle⟩
      | moveFocus =>
          exact ⟨rfl, rfl⟩

/-- In the middle of a run, a visit is up to date and the keys drawn from there on are new. -/
theorem midway
    (upToDate : UpToDate opened drawn visit)
    (earlier later : List Turn)
    (fresh : (drawn ++ visit.drawnKeys (earlier ++ later)).Nodup) :
    UpToDate opened (drawn ++ visit.drawnKeys earlier) (visit.run earlier) ∧
      ((drawn ++ visit.drawnKeys earlier) ++
        (visit.run earlier).drawnKeys later).Nodup :=
  invariant_midway (fun turn upToDate newKey => upToDate.perform turn newKey)
    earlier later upToDate fresh

end UpToDate

/-- A submission that is prepared succeeds with a transition that follows the target. -/
theorem Submits.follows
    {visit : Visit}
    {time : Timestamp}
    {request : CompletionRequest}
    {step : Step}
    {next : Option Step}
    {updated : FieldTask}
    (submits : visit.Submits time request step next updated) :
    visit.Follows ⟨step.id, next.map Step.id, updated.progress⟩ := by
  obtain ⟨outcome, outcomeOfStep, sameAction⟩ := submits.resolves
  refine ⟨step, outcome, next, submits.focus, outcomeOfStep, sameAction ▸ submits.leads,
    rfl, rfl, ?_, ?_⟩
  · rw [submits.stands.progress_eq]
    cases next <;> rfl
  · intro advances
    have leads := submits.leads
    rw [← sameAction, advances] at leads
    cases leads
    have focus := submits.focus
    unfold WorkSession.activeStep? at focus
    rw [FieldTask.upcomingStep?, focus]
    rfl

/--
In every run of one session on a task whose steps were all pending: the store
holds the task as the session sees it, resolved steps before pending ones and
never stalled; whatever request is prepared is recorded; and a submission that
succeeds leads to the target of its action.
-/
theorem every_visit_follows_targets
    {tasks : List FieldTask}
    {performer : String}
    {task : FieldTask}
    {turns : List Turn}
    (held : (TaskStore.ofTasks tasks performer).task? task.id = some task)
    (allPending : ∀ step ∈ task.steps, step.status = .pending)
    (fresh :
      ((opening task (TaskStore.ofTasks tasks performer)).drawnKeys turns).Nodup) :
    (∀ time,
      (TaskStore.gateway time).openSession (TaskStore.ofTasks tasks performer) task.id =
        (.ok (opening task (TaskStore.ofTasks tasks performer)).session,
          TaskStore.ofTasks tasks performer)) ∧
    (∀ earlier later visit,
      turns = earlier ++ later →
      visit = (opening task (TaskStore.ofTasks tasks performer)).run earlier →
      visit.store.task? task.id = some visit.session.task ∧
        visit.session.task.InSequence ∧
        visit.session.task.progress ≠ .stalled) ∧
    (∀ earlier key time later visit,
      turns = earlier ++ .submit key time :: later →
      visit = (opening task (TaskStore.ofTasks tasks performer)).run earlier →
      (∀ pending request,
        visit.session.prepare key = .ok (pending, request) →
        ∃ updated transition,
          visit.store.complete request time = .ok updated ∧
            updated.completions = visit.store.completions ++ [request] ∧
            ((TaskStore.gateway time).submit key visit.session visit.store).result =
              .ok transition) ∧
      ∀ transition,
        ((TaskStore.gateway time).submit key visit.session visit.store).result =
          .ok transition →
        visit.Follows transition) := by
  have atStart := UpToDate.start held allPending
  refine ⟨?_, ?_, ?_⟩
  · intro time
    exact Gateway.openSession_of_load (TaskStore.gateway_load_of_task? held time)
  · rintro earlier later visit rfl rfl
    obtain ⟨upToDate, _⟩ := atStart.midway earlier later fresh
    refine ⟨upToDate.stored, upToDate.sequence, ?_⟩
    rw [upToDate.sequence.standsAt.progress_eq]
    split <;> simp
  · rintro earlier key time later visit rfl reached
    obtain ⟨upToDate, distinct⟩ :=
      atStart.midway earlier (.submit key time :: later) fresh
    have newKey := not_mem_of_drawn distinct
    rw [← reached] at upToDate newKey
    constructor
    · intro pending request prepared
      have undrawn := newKey key (upToDate.draws prepared)
      obtain ⟨rfl, step, next, updated, submits⟩ := upToDate.submits time undrawn prepared
      exact ⟨_, _, submits.recorded, rfl, congrArg Served.result submits.served⟩
    · intro transition succeeded
      cases prepared : visit.session.prepare key with
      | error failure =>
          rw [Gateway.submit_of_unprepared prepared] at succeeded
          cases succeeded
      | ok made =>
          obtain ⟨pending, request⟩ := made
          have undrawn := newKey key (upToDate.draws prepared)
          obtain ⟨rfl, step, next, updated, submits⟩ :=
            upToDate.submits time undrawn prepared
          rw [submits.served] at succeeded
          cases succeeded
          exact submits.follows

/-- A step that asks which of its outcomes came about, each of them a jump. -/
def crossing
    (id : Int64)
    (order : Int32)
    (outcome : String)
    (solid : Text.isBlank outcome = false)
    (target : Int32) :
    Step :=
  ⟨⟨id, none, "Crossing", order, true, false, .none,
    [⟨outcome, "", .jump (some target), solid⟩], by decide, by simp⟩, {}⟩

/-- Three steps, the first of which jumps over the second and the last back to the first. -/
def crossings : FieldTask where
  id := 7
  templateId := none
  steps := [crossing 11 1 "ahead" (by decide) 3, crossing 12 2 "over" (by decide) 3,
    crossing 13 3 "back" (by decide) 1]
  percentage := .zero
  wellOrdered := by simp [WellOrdered, crossing]

/-- The time of the turns below. -/
def noon : Timestamp :=
  ⟨⟨2024, 1, 1⟩, 43200, 0⟩

/-- A jump ahead and a jump back to where it came from. -/
def aheadAndBack : List Turn :=
  [.enter (.select "ahead"), .submit "first" noon, .enter (.select "back"),
    .submit "second" noon]

/-- The jump back leads to the first step again, as every submission leads to its target. -/
theorem every_visit_follows_targets_back :
    let store := TaskStore.ofTasks [crossings] "Ada"
    let visit := (opening crossings store).run
      [.enter (.select "ahead"), .submit "first" noon, .enter (.select "back")]
    store.task? crossings.id = some crossings ∧
      (∀ step ∈ crossings.steps, step.status = .pending) ∧
      ((opening crossings store).drawnKeys aheadAndBack).Nodup ∧
      ((TaskStore.gateway noon).submit "second" visit.session visit.store).result =
        .ok ⟨13, some 11, .active 11⟩ ∧
      visit.Follows ⟨13, some 11, .active 11⟩ ∧
      visit.session.task.InSequence := by
  intro store visit
  have held : store.task? crossings.id = some crossings := rfl
  have allPending : ∀ step ∈ crossings.steps, step.status = .pending := by decide
  have fresh : ((opening crossings store).drawnKeys aheadAndBack).Nodup := by decide
  have succeeded :
      ((TaskStore.gateway noon).submit "second" visit.session visit.store).result =
        .ok ⟨13, some 11, .active 11⟩ := by
    with_unfolding_all rfl
  obtain ⟨_, inSequence, follows⟩ := every_visit_follows_targets held allPending fresh
  refine ⟨held, allPending, fresh, succeeded, ?_, ?_⟩
  · exact (follows _ "second" noon [] visit rfl rfl).2 _ succeeded
  · exact (inSequence _ [.submit "second" noon] visit rfl rfl).2.1

end Visit

end Fieldwork
