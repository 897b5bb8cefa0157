import Mathlib.Logic.IsEmpty.Basic
import Fieldwork.Proofs.Service.Copies
import Fieldwork.Proofs.Store.Order

namespace Fieldwork

/-!
# Completions that overtake a reopened step

Clients that work on one task may bring its steps out of order, as a store looks
at the step of a completion only, and not at the copy on which this was
prepared.  There is one way to do so.  A client holds a copy on which a step is
final; then this step is set back to pending, which the client does not see; and
then the store records a completion of the client that leads on from a later
step.  As long as no completion overtakes a reopened step in this way, no pending
step ever stands before a final one.
-/

/-- The status of a step of a stored task. -/
def TaskStore.statusOf?
    (store : TaskStore)
    (task step : Int64) :
    Option StepStatus :=
  (store.task? task).bind fun stored => (stored.step? step).map Step.status

theorem TaskStore.statusOf?_eq_some_iff
    {store : TaskStore}
    {task step : Int64}
    {status : StepStatus} :
    store.statusOf? task step = some status ↔
      ∃ stored, store.task? task = some stored ∧
        ∃ found ∈ stored.steps, found.id = step ∧ found.status = status := by
  simp [statusOf?, Option.bind_eq_some_iff, FieldTask.step?_eq_some_iff, and_assoc]

/-- A step of a stored task is in a final state. -/
def TaskStore.IsFinal
    (task step : Int64)
    (store : TaskStore) :
    Prop :=
  ∃ status, store.statusOf? task step = some status ∧ status.isTerminal = true

namespace World

/-- By a move the store records the request that a client sends. -/
structure Records
    (world : World)
    (move : Move)
    (name : Nat)
    (client : Client)
    (request : CompletionRequest) :
    Prop where
  present :
    world.clients name = some client
  sends :
    client.phase = .sending request ∧ ∃ action, move = .act name action
  applied :
    ∃ task updated time,
      world.store.task? request.task = some task ∧
        request.applyTo task time world.store.performer = .ok updated ∧
        (world.perform move).store = world.store.recorded request updated

/-- By a move a step of a stored task is set from a final state back to pending. -/
def Reopens
    (world : World)
    (move : Move)
    (task step : Int64) :
    Prop :=
  world.store.IsFinal task step ∧
    (world.perform move).store.statusOf? task step = some .pending

/--
A completion of a task that a run records although a step before its own was
reopened: the copy on which its client prepared it was in the store before that,
and has the step in a final state.
-/
structure Overtaking
    (first : World)
    (task : Int64)
    (moves : List Move) where
  /-- The moves at whose end the store held the copy. -/
  loaded : List Move
  since : List Move
  reopening : Move
  between : List Move
  recording : Move
  later : List Move
  sender : Nat
  client : Client
  request : CompletionRequest
  /-- The step that is completed, on the copy. -/
  current : Step
  /-- The step that is overtaken, on the copy. -/
  passed : Step
  inRun :
    moves = loaded ++ since ++ reopening :: between ++ recording :: later
  copied :
    (first.run loaded).store.task? task = some client.session.task
  focus :
    client.session.task.activeStep? = some current
  passedBefore :
    passed ∈ client.session.task.steps ∧ passed.order < current.order
  finalOnCopy :
    passed.status.isTerminal = true
  reopens :
    (first.run (loaded ++ since)).Reopens reopening task passed.id
  unseen :
    reopening.UnseenBy sender
  stillPending :
    (first.run (loaded ++ since ++ reopening :: between)).store.statusOf? task passed.id =
      some .pending
  concerns :
    request.task = task ∧ request.step = current.id
  leadsOn :
    request.LeadsOn current
  records :
    (first.run (loaded ++ since ++ reopening :: between)).Records recording sender client
      request

/-- What overtakes in a run does so in a longer one. -/
def Overtaking.extend
    {first : World}
    {task : Int64}
    {moves : List Move}
    (overtaking : Overtaking first task moves)
    (more : List Move) :
    Overtaking first task (moves ++ more) :=
  { overtaking with
    later := overtaking.later ++ more
    inRun := by
      have longer := congrArg (fun run => run ++ more) overtaking.inRun
      simpa using longer }

variable {world first : World} {move : Move} {name : Nat} {client : Client}
  {request : CompletionRequest} {id : Int64} {stored : FieldTask}

/-- A move changes the store only by having a request recorded. -/
theorem store_of_perform
    (world : World)
    (move : Move) :
    (world.perform move).store = world.store ∨
      ∃ name client request, world.Records move name client request := by
  cases move with
  | join name task channel =>
      left
      rcases perform_join_cases world name task channel with same | ⟨refreshed, started⟩
      · rw [same]
      · rw [started]
        rfl
  | act name action =>
      cases present : world.clients name with
      | none =>
          exact .inl (by rw [perform_act_of_absent present])
      | some client =>
          have after : (world.perform (.act name action)).store =
              (client.act world.store action).2 := by
            rw [perform_act present]
            rfl
          rcases Client.store_of_act world.store client action with
            same | ⟨request, time, sending, completed⟩
          · exact .inl (after.trans same)
          · rcases TaskStore.complete_eq_ok_iff.mp completed with
              ⟨_, same⟩ | ⟨_, task, updated, found, applied, recorded⟩
            · exact .inl (after.trans same)
            · exact .inr ⟨name, client, request, {
                present := present
                sends := ⟨sending, action, rfl⟩
                applied :=
                  ⟨task, updated, time, found, applied, after.trans recorded⟩ }⟩

/-- What a recorded request makes of the stored task that it concerns. -/
theorem Records.task?_perform
    (records : world.Records move name client request)
    (found : world.store.task? request.task = some stored) :
    ∃ updated time,
      request.applyTo stored time world.store.performer = .ok updated ∧
        (world.perform move).store.task? request.task = some updated := by
  obtain ⟨task, updated, time, foundTask, applied, recorded⟩ := records.applied
  obtain rfl := Option.some.inj (foundTask.symm.trans found)
  have sameId : updated.id = request.task :=
    (CompletionRequest.plans_of_applyTo applied).1.trans (TaskStore.id_of_task? found)
  refine ⟨updated, time, applied, ?_⟩
  rw [recorded, TaskStore.task?_recorded, if_pos sameId]

/-- A stored task changes only where a request on it is recorded. -/
theorem task?_perform
    (found : world.store.task? id = some stored)
    (move : Move) :
    (world.perform move).store.task? id = some stored ∨
      ∃ name client request updated time,
        world.Records move name client request ∧
          request.task = id ∧
          request.applyTo stored time world.store.performer = .ok updated ∧
          (world.perform move).store.task? id = some updated := by
  rcases store_of_perform world move with same | ⟨name, client, request, records⟩
  · rw [same]
    exact .inl found
  · by_cases concerns : request.task = id
    · subst concerns
      obtain ⟨updated, time, applied, foundAfter⟩ := records.task?_perform found
      exact .inr ⟨name, client, request, updated, time, records, rfl, applied, foundAfter⟩
    · obtain ⟨task, updated, _, foundTask, applied, recorded⟩ := records.applied
      have otherId : updated.id ≠ id := by
        rw [(CompletionRequest.plans_of_applyTo applied).1, TaskStore.id_of_task? foundTask]
        exact concerns
      rw [recorded, TaskStore.task?_recorded, if_neg otherId]
      exact .inl found

section

variable {task : FieldTask}
  (nobody : ∀ name, first.clients name = none)
  (held : first.store.task? task.id = some task)
  (allPending : ∀ step ∈ task.steps, step.status = .pending)

section

include held allPending

/-- In every run the task stays stored with its plans, and each step pending or final. -/
theorem settled_of_run
    (moves : List Move) :
    ∃ stored,
      (first.run moves).store.task? task.id = some stored ∧
        stored.Settled ∧
        stored.steps.map Step.plan = task.steps.map Step.plan := by
  induction moves using List.reverseRecOn with
  | nil =>
      exact ⟨task, held, FieldTask.settled_of_pending allPending, rfl⟩
  | append_singleton earlier move inductionHypothesis =>
      obtain ⟨stored, found, settled, samePlans⟩ := inductionHypothesis
      rw [run_append]
      rcases task?_perform found move with
        same | ⟨_, _, _, updated, _, _, _, applied, foundAfter⟩
      · exact ⟨stored, same, settled, samePlans⟩
      · exact ⟨updated, foundAfter,
          CompletionRequest.settled_of_applyTo settled applied,
          (CompletionRequest.plans_of_applyTo applied).2.trans samePlans⟩

/-- The stored task has the same plans at any two times. -/
theorem samePlans_of_run
    {moves moves' : List Move}
    {stored stored' : FieldTask}
    (found : (first.run moves).store.task? task.id = some stored)
    (found' : (first.run moves').store.task? task.id = some stored') :
    stored.steps.map Step.plan = stored'.steps.map Step.plan := by
  obtain ⟨_, isStored, _, samePlans⟩ := settled_of_run held allPending moves
  obtain ⟨_, isStored', _, samePlans'⟩ := settled_of_run held allPending moves'
  obtain rfl := Option.some.inj (found.symm.trans isStored)
  obtain rfl := Option.some.inj (found'.symm.trans isStored')
  exact samePlans.trans samePlans'.symm

/-- A step that was stored at some time is pending wherever it is not final. -/
theorem statusOf?_eq_pending
    {moves moves' : List Move}
    {stored : FieldTask}
    {step : Step}
    (found : (first.run moves).store.task? task.id = some stored)
    (member : step ∈ stored.steps)
    (notFinal : ¬ (first.run moves').store.IsFinal task.id step.id) :
    (first.run moves').store.statusOf? task.id step.id = some .pending := by
  obtain ⟨stored', found', settled, _⟩ := settled_of_run held allPending moves'
  obtain ⟨twin, inTask, samePlan⟩ :=
    FieldTask.exists_alike (samePlans_of_run held allPending found found') member
  have sameId : twin.id = step.id := congrArg StepPlan.id samePlan
  have status : (first.run moves').store.statusOf? task.id step.id = some twin.status :=
    TaskStore.statusOf?_eq_some_iff.mpr ⟨stored', found', twin, inTask, sameId, rfl⟩
  rcases settled twin inTask with pending | final
  · rwa [pending] at status
  · exact (notFinal ⟨twin.status, status, final⟩).elim

/--
A step that is final on a stored copy and pending later was reopened in between,
by a move that a client did not see where it saw no change.
-/
theorem exists_reopening
    {loaded since : List Move}
    {copy : FieldTask}
    {step : Step}
    (copied : (first.run loaded).store.task? task.id = some copy)
    (hidden : (first.run loaded).HiddenFrom name since)
    (member : step ∈ copy.steps)
    (final : step.status.isTerminal = true)
    (pending :
      (first.run (loaded ++ since)).store.statusOf? task.id step.id = some .pending) :
    ∃ earlier reopening between,
      since = earlier ++ reopening :: between ∧
        reopening.UnseenBy name ∧
        (first.run (loaded ++ earlier)).Reopens reopening task.id step.id := by
  have finalThen : (first.run loaded).store.IsFinal task.id step.id :=
    ⟨step.status, TaskStore.statusOf?_eq_some_iff.mpr
      ⟨copy, copied, step, member, rfl, rfl⟩, final⟩
  have notFinal : ¬ ((first.run loaded).run since).store.IsFinal task.id step.id := by
    rintro ⟨status, isStatus, isFinal⟩
    rw [← run_append, pending] at isStatus
    cases isStatus
    cases isFinal
  obtain ⟨earlier, reopening, between, shape, unseen, finalBefore, lost⟩ :=
    hidden.exists_loss (TaskStore.IsFinal task.id step.id) finalThen notFinal
  refine ⟨earlier, reopening, between, shape, unseen, ?_⟩
  have afterReopening :
      first.run (loaded ++ earlier ++ [reopening]) =
        (first.run (loaded ++ earlier)).perform reopening :=
    run_append first (loaded ++ earlier) [reopening]
  rw [← run_append, ← afterReopening] at lost
  rw [Reopens, ← afterReopening, run_append]
  exact ⟨finalBefore, statusOf?_eq_pending held allPending copied member lost⟩

end

include nobody held allPending

/--
A recorded request that leads on from a step behind a pending one overtakes it:
its client has worked on a copy on which this step is final.
-/
theorem overtaking_of_records
    {moves : List Move}
    {current passed : Step}
    (found : (first.run moves).store.task? task.id = some stored)
    (records : (first.run moves).Records move name client request)
    (concerns : request.task = task.id)
    (inTask : current ∈ stored.steps)
    (sameStep : current.id = request.step)
    (leadsOn : request.LeadsOn current)
    (passedInTask : passed ∈ stored.steps)
    (before : passed.order < current.order)
    (pending : passed.status = .pending) :
    Nonempty (Overtaking first task.id (moves ++ [move])) := by
  obtain ⟨loaded, since, onCopy, rfl, copied, focus, isStep, hidden⟩ :=
    (worksOnCopies_of_run nobody moves).sent_on_copy records.present records.sends.1
  rw [concerns] at copied
  obtain ⟨copy, isCopy, settled, _⟩ := settled_of_run held allPending loaded
  obtain rfl := Option.some.inj (copied.symm.trans isCopy)
  have samePlans := samePlans_of_run held allPending found copied
  have samePlan : current.plan = onCopy.plan :=
    FieldTask.plan_eq_of_id_eq samePlans inTask (FieldTask.mem_of_activeStep? focus)
      (sameStep.trans isStep.symm)
  obtain ⟨twin, twinOnCopy, twinPlan⟩ := FieldTask.exists_alike samePlans passedInTask
  have twinId : twin.id = passed.id := congrArg StepPlan.id twinPlan
  have twinBefore : twin.order < onCopy.order :=
    Step.before_of_plan_eq before twinPlan samePlan.symm
  -- What comes before the focus is final on the copy, so it was reopened since.
  have twinFinal :=
    FieldTask.isTerminal_of_before_focus settled focus twinOnCopy twinBefore
  have pendingNow :
      (first.run (loaded ++ since)).store.statusOf? task.id twin.id = some .pending :=
    TaskStore.statusOf?_eq_some_iff.mpr
      ⟨stored, found, passed, passedInTask, twinId.symm, pending⟩
  obtain ⟨earlier, reopening, between, rfl, unseen, reopens⟩ :=
    exists_reopening held allPending copied hidden twinOnCopy twinFinal pendingNow
  rw [← List.append_assoc] at pendingNow records
  exact ⟨{
    loaded, since := earlier, reopening, between, recording := move, later := []
    sender := name, client, request, current := onCopy, passed := twin
    inRun := by simp
    copied
    focus
    passedBefore := ⟨twinOnCopy, twinBefore⟩
    finalOnCopy := twinFinal
    reopens
    unseen
    stillPending := pendingNow
    concerns := ⟨concerns, isStep.symm⟩
    leadsOn := CompletionRequest.leadsOn_of_plan_eq leadsOn samePlan
    records }⟩

/-- As long as nothing overtakes, the stored task is in order. -/
theorem inOrder_of_run
    {moves : List Move}
    (nothingOvertakes : IsEmpty (Overtaking first task.id moves)) :
    ∃ stored,
      (first.run moves).store.task? task.id = some stored ∧ stored.InOrder := by
  induction moves using List.reverseRecOn with
  | nil =>
      exact ⟨task, held, FieldTask.inOrder_of_pending allPending⟩
  | append_singleton earlier move inductionHypothesis =>
      obtain ⟨stored, found, inOrder⟩ :=
        inductionHypothesis ⟨fun overtaking =>
          nothingOvertakes.false (overtaking.extend [move])⟩
      obtain ⟨_, isStored, settled, _⟩ := settled_of_run held allPending earlier
      obtain rfl := Option.some.inj (found.symm.trans isStored)
      rw [run_append]
      rcases task?_perform found move with
        same | ⟨name, client, request, updated, time, records, concerns, applied, foundAfter⟩
      · exact ⟨stored, same, inOrder⟩
      · rcases CompletionRequest.inOrder_of_applyTo settled inOrder applied with
          staysInOrder | ⟨current, inTask, passed, passedInTask, sameStep, leadsOn, before,
            pending⟩
        · exact ⟨updated, foundAfter, staysInOrder⟩
        · obtain ⟨overtaking⟩ :=
            overtaking_of_records nobody held allPending found records concerns inTask
              sameStep leadsOn passedInTask before pending
          exact (nothingOvertakes.false overtaking).elim

omit nobody in
/-- Where a completion overtakes, the stored task is out of order right after it. -/
theorem Overtaking.not_inOrder
    {moves : List Move}
    (overtaking : Overtaking first task.id moves) :
    ∃ earlier later stored,
      moves = earlier ++ later ∧
        (first.run earlier).store.task? task.id = some stored ∧
        ¬ stored.InOrder := by
  obtain ⟨loaded, since, reopening, between, recording, later, sender, client, request,
    current, passed, inRun, copied, focus, ⟨passedOnCopy, before⟩, _, _, _, stillPending,
    ⟨concerns, sameStep⟩, leadsOn, records⟩ := overtaking
  obtain ⟨stored, found, stands, inTask, standsId, pending⟩ :=
    TaskStore.statusOf?_eq_some_iff.mp stillPending
  have samePlans := samePlans_of_run held allPending found copied
  obtain ⟨twin, twinInTask, twinPlan⟩ :=
    FieldTask.exists_alike samePlans.symm (FieldTask.mem_of_activeStep? focus)
  have standsPlan : stands.plan = passed.plan :=
    FieldTask.plan_eq_of_id_eq samePlans inTask passedOnCopy standsId
  have standsBefore : stands.order < twin.order :=
    Step.before_of_plan_eq before standsPlan twinPlan
  rw [← concerns] at found
  obtain ⟨updated, time, applied, foundAfter⟩ := records.task?_perform found
  rw [concerns] at foundAfter
  refine ⟨loaded ++ since ++ reopening :: between ++ [recording], later, updated, ?_, ?_, ?_⟩
  · rw [inRun]
    simp
  · rw [run_append]
    exact foundAfter
  · exact CompletionRequest.not_inOrder_of_applyTo applied twinInTask
      ((congrArg StepPlan.id twinPlan).trans sameStep.symm)
      (CompletionRequest.leadsOn_of_plan_eq leadsOn twinPlan.symm) inTask standsBefore
      pending

end

/--
Of a task whose steps are all pending at first, in every run of any number of
clients, whatever gets lost: no pending step ever stands before one in a final
state, if and only if no completion overtakes a step that was reopened since its
client loaded the task.
-/
theorem in_order_iff_nothing_overtakes
    {tasks : List FieldTask}
    {performer : String}
    {task : FieldTask}
    (held : (TaskStore.ofTasks tasks performer).task? task.id = some task)
    (allPending : ∀ step ∈ task.steps, step.status = .pending)
    (moves : List Move) :
    (∀ earlier later,
        moves = earlier ++ later →
        ∃ stored,
          ((start tasks performer).run earlier).store.task? task.id = some stored ∧
            stored.InOrder) ↔
      IsEmpty (Overtaking (start tasks performer) task.id moves) := by
  have nobody : ∀ name, (start tasks performer).clients name = none := fun _ => rfl
  constructor
  · intro inOrder
    refine ⟨fun overtaking => ?_⟩
    obtain ⟨earlier, later, stored, shape, found, outOfOrder⟩ :=
      overtaking.not_inOrder held allPending
    obtain ⟨_, isStored, staysInOrder⟩ := inOrder earlier later shape
    obtain rfl := Option.some.inj (found.symm.trans isStored)
    exact outOfOrder staysInOrder
  · rintro nothingOvertakes earlier later rfl
    refine inOrder_of_run nobody held allPending ⟨fun overtaking => ?_⟩
    exact nothingOvertakes.false (overtaking.extend later)

/-- Three steps, the last of which shows whether all of them have to be done again. -/
def sealing : FieldTask where
  id := 7
  templateId := none
  steps := [
    Step.plain 11 1 "Fill" (by decide),
    Step.plain 12 2 "Seal" (by decide),
    ⟨⟨13, none, "Test", 3, true, false, .none,
      [⟨"tight", "", .next, by decide⟩, ⟨"leaks", "", .jump (some 1), by decide⟩],
      by decide, by simp⟩, {}⟩]
  percentage := .zero
  wellOrdered := by simp [WellOrdered, Step.plain]

/-- A channel on which everything arrives. -/
def lossless : Channel where
  time := ⟨⟨2024, 1, 1⟩, 43200, 0⟩

/-- A client completes its step in focus and takes over the task as it is then. -/
def completing
    (name : Nat)
    (key : String) :
    List Move :=
  [.act name (.submit key), .act name (.proceed lossless), .act name (.proceed lossless),
    .act name (.proceed lossless)]

/--
Two clients test at once.  One of them finds a leak, so that all steps are open
again, while the other has a tight seal on its way to the store.
-/
def crossedTests : List Move :=
  .join 0 7 lossless :: (completing 0 "first" ++ completing 0 "second") ++
    [.join 1 7 lossless, .act 1 (.enter (.select "tight")), .act 1 (.submit "third"),
      .act 0 (.enter (.select "leaks"))] ++ completing 0 "fourth" ++
    [.act 1 (.proceed lossless)]

/-- In the crossed tests a completion overtakes. -/
theorem in_order_iff_nothing_overtakes_crossed :
    (TaskStore.ofTasks [sealing] "Ada").task? sealing.id = some sealing ∧
      (∀ step ∈ sealing.steps, step.status = .pending) ∧
      Nonempty (Overtaking (start [sealing] "Ada") sealing.id crossedTests) := by
  have held : (TaskStore.ofTasks [sealing] "Ada").task? sealing.id = some sealing := rfl
  have allPending : ∀ step ∈ sealing.steps, step.status = .pending := by decide
  refine ⟨held, allPending, not_isEmpty_iff.mp fun nothingOvertakes => ?_⟩
  obtain ⟨stored, found, inOrder⟩ :=
    (in_order_iff_nothing_overtakes held allPending crossedTests).mpr nothingOvertakes
      crossedTests [] (by simp)
  cases found
  exact absurd inOrder (by decide)

/--
Two clients may bring the stored steps out of order: the test is completed before a
pending step.
-/
theorem crossed_tests_out_of_order :
    (TaskStore.ofTasks [sealing] "Ada").task? sealing.id = some sealing ∧
      (∀ step ∈ sealing.steps, step.status = .pending) ∧
      ∃ stored,
        ((start [sealing] "Ada").run crossedTests).store.task? sealing.id = some stored ∧
          ¬ stored.InOrder :=
  ⟨rfl, by decide, _, rfl, by decide⟩

end World

end Fieldwork
