import Fieldwork.Proofs.Store.Moving

namespace Fieldwork

/-!
# Completions and the order of the steps

A store checks a completion against the step that it concerns, and not against
the steps before it.  A completion that sets steps back to pending always leaves
the steps in order.  One that leads on does so as well, unless a step before its
own is pending.
-/

namespace FieldTask

/-- Every step is pending or in a final state. -/
def Settled
    (task : FieldTask) :
    Prop :=
  ∀ step ∈ task.steps, step.status = .pending ∨ step.status.isTerminal = true

/-- No pending step stands before one in a final state. -/
def InOrder
    (task : FieldTask) :
    Prop :=
  ∀ earlier ∈ task.steps, ∀ later ∈ task.steps,
    earlier.order < later.order →
    later.status.isTerminal = true →
    earlier.status ≠ .pending

instance
    (task : FieldTask) :
    Decidable task.InOrder :=
  inferInstanceAs (Decidable (∀ earlier ∈ task.steps, ∀ later ∈ task.steps, _ → _ → _))

variable {task : FieldTask} {current : Step}

theorem settled_of_pending
    (allPending : ∀ step ∈ task.steps, step.status = .pending) :
    task.Settled :=
  fun step member => .inl (allPending step member)

theorem inOrder_of_pending
    (allPending : ∀ step ∈ task.steps, step.status = .pending) :
    task.InOrder := by
  intro earlier _ later inTask _ final
  rw [allPending later inTask] at final
  cases final

/-- On a settled task, what comes before the step in focus is final. -/
theorem isTerminal_of_before_focus
    {step : Step}
    (settled : task.Settled)
    (focus : task.activeStep? = some current)
    (member : step ∈ task.steps)
    (before : step.order < current.order) :
    step.status.isTerminal = true := by
  refine (settled step member).resolve_left ?_
  rcases activeStep?_cases focus with ⟨_, noneBefore⟩ | ⟨_, noPending, _⟩
  · exact noneBefore step member before
  · exact noPending step member

/-- A settled task in order stands at a pending step that has no pending one before it. -/
theorem standsAt_of_inOrder
    (settled : task.Settled)
    (inOrder : task.InOrder)
    (member : current ∈ task.steps)
    (pending : current.status = .pending)
    (first : ∀ step ∈ task.steps, step.order < current.order → step.status ≠ .pending) :
    task.StandsAt (some current.plan) := by
  refine ⟨⟨current, member, rfl⟩, ?_, ?_⟩
  · intro step inTask before
    exact (settled step inTask).resolve_left (first step inTask before)
  · intro step inTask notBefore
    rcases settled step inTask with isPending | final
    · exact isPending
    · by_cases same : step.order = current.order
      · rwa [eq_of_order_eq inTask member same]
      · have notBefore : current.order ≤ step.order := notBefore
        have before : current.order < step.order := by grind
        exact (inOrder current member step inTask before final pending).elim

namespace StandsAt

/-- A task that stands at a place is in order. -/
theorem inOrder
    {place : Option StepPlan}
    (stands : task.StandsAt place) :
    task.InOrder := by
  intro earlier inTask later laterInTask before final pending
  cases place with
  | none =>
      exact (StepStatus.settled_of_isTerminal (stands earlier inTask)).1 pending
  | some plan =>
      obtain ⟨_, resolved, unresolved⟩ := stands
      by_cases beforePlace : earlier.order < plan.order
      · exact (StepStatus.settled_of_isTerminal
          (resolved earlier inTask beforePlace)).1 pending
      · have behindPlace : plan.order ≤ later.order := by grind
        exact (StepStatus.settled_of_isTerminal final).1
          (unresolved later laterInTask behindPlace)

end StandsAt

/-- Setting the steps up to a pending one back to pending keeps a task in order. -/
theorem inOrder_of_reopened
    (inOrder : task.InOrder)
    (member : current ∈ task.steps)
    (pending : current.status = .pending)
    {record : Step → StepRecord}
    {first : Int32}
    (reopens :
      ∀ step, record step =
        if first ≤ step.order ∧ step.order ≤ current.order then Step.reopened
        else step.record) :
    (task.withRecords record).InOrder := by
  have statusOf :
      ∀ step : Step,
        (step.withRecord (record step)).status =
          if first ≤ step.order ∧ step.order ≤ current.order then .pending
          else step.status := by
    intro step
    rw [Step.status_withRecord, reopens]
    split <;> rfl
  intro _ inNew _ laterInNew before final isPending
  obtain ⟨earlier, inTask, rfl⟩ := mem_withRecords_iff.mp inNew
  obtain ⟨later, laterInTask, rfl⟩ := mem_withRecords_iff.mp laterInNew
  rw [Step.order_withRecord, Step.order_withRecord] at before
  rw [statusOf] at final isPending
  split at final
  · cases final
  · rename_i laterKept
    split at isPending
    · -- The later step is behind the range, and so behind the pending step itself.
      exact inOrder current member later laterInTask (by grind) final pending
    · exact inOrder earlier inTask later laterInTask before final isPending

end FieldTask

namespace CompletionRequest

variable {request : CompletionRequest} {task updated : FieldTask} {current : Step}
  {time : Timestamp} {performer : String}

/-- A request resolves its step and goes on behind it. -/
def LeadsOn
    (request : CompletionRequest)
    (current : Step) :
    Prop :=
  match request.action with
  | .advance => True
  | .again => False
  | .jump order => current.order < order

/-- Whether a request leads on depends on the plan of its step. -/
theorem leadsOn_of_plan_eq
    {step step' : Step}
    (leadsOn : request.LeadsOn step)
    (samePlan : step.plan = step'.plan) :
    request.LeadsOn step' := by
  have sameOrder : step.order = step'.order := congrArg StepPlan.order samePlan
  unfold LeadsOn at leadsOn ⊢
  rwa [sameOrder] at leadsOn

/-- A request that does not lead on sets a range of steps up to its own back to pending. -/
theorem newRecord_of_not_leadsOn
    (staysBehind : ¬ request.LeadsOn current)
    (time : Timestamp)
    (performer : String) :
    ∃ first, ∀ step,
      request.newRecord current time performer step =
        if first ≤ step.order ∧ step.order ≤ current.order then Step.reopened
        else step.record := by
  unfold LeadsOn at staysBehind
  unfold newRecord
  cases action : request.action with
  | advance =>
      rw [action] at staysBehind
      exact (staysBehind trivial).elim
  | again =>
      refine ⟨current.order, fun step => ?_⟩
      exact if_congr (by grind) rfl rfl
  | jump order =>
      rw [action] at staysBehind
      have back : order ≤ current.order := by grind
      exact ⟨order, fun step => if_pos back⟩

/-- A request that leads on resolves its own step and leaves the ones before it alone. -/
theorem newRecord_of_leadsOn
    (leadsOn : request.LeadsOn current)
    (time : Timestamp)
    (performer : String) :
    (request.newRecord current time performer current).status.isTerminal = true ∧
      ∀ step : Step, step.order < current.order →
        request.newRecord current time performer step = step.record := by
  have final := request.outcomeStatus_isTerminal
  unfold LeadsOn at leadsOn
  unfold newRecord
  cases action : request.action with
  | advance =>
      refine ⟨by simpa using final, fun step before => ?_⟩
      exact if_neg (by grind)
  | again =>
      rw [action] at leadsOn
      exact leadsOn.elim
  | jump order =>
      rw [action] at leadsOn
      have notBack : ¬ order ≤ current.order := by grind
      refine ⟨by simpa [notBack] using final, fun step before => ?_⟩
      have notBetween : ¬ step.LiesUnresolved current.order order :=
        fun lies => Int32.lt_asymm before lies.1
      have elsewhere : step.order ≠ current.order := by grind
      simp [notBack, notBetween, elsewhere]

/-- Where a request is permitted, its action has a target. -/
theorem leads_of_permitted
    (member : current ∈ task.steps)
    (permitted : request.Permitted task current) :
    ∃ next, task.target current request.action = .ok next := by
  refine (FieldTask.exists_target_iff ⟨current, member, rfl⟩).mpr fun order action => ?_
  rw [Permitted, action] at permitted
  exact permitted.1

/-- A request makes steps pending or final, and leaves others as they are. -/
theorem settled_of_applyTo
    (settled : task.Settled)
    (applied : request.applyTo task time performer = .ok updated) :
    updated.Settled := by
  obtain ⟨current, _, _, _, _, rfl⟩ := applyTo_eq_ok_iff.mp applied
  intro _ inNew
  obtain ⟨step, inTask, rfl⟩ := FieldTask.mem_withRecords_iff.mp inNew
  rw [Step.status_withRecord]
  rcases request.newRecord_cases current time performer step with
    kept | reopened | ⟨status, final, noted⟩
  · rw [kept]
    exact settled step inTask
  · rw [reopened]
    exact .inl rfl
  · rw [noted]
    exact .inr final

/-- A request leaves the plans of the steps alone. -/
theorem plans_of_applyTo
    (applied : request.applyTo task time performer = .ok updated) :
    updated.id = task.id ∧ updated.steps.map Step.plan = task.steps.map Step.plan := by
  obtain ⟨current, _, _, _, _, rfl⟩ := applyTo_eq_ok_iff.mp applied
  refine ⟨rfl, ?_⟩
  simp [FieldTask.withRecords, Step.withRecord]

/--
A request that applies to a settled task in order keeps it in order, unless it
leads on from a step with a pending one before it.
-/
theorem inOrder_of_applyTo
    (settled : task.Settled)
    (inOrder : task.InOrder)
    (applied : request.applyTo task time performer = .ok updated) :
    updated.InOrder ∨
      ∃ current ∈ task.steps, ∃ passed ∈ task.steps,
        current.id = request.step ∧
          request.LeadsOn current ∧
          passed.order < current.order ∧
          passed.status = .pending := by
  obtain ⟨current, member, concerns, unresolved, permitted, rfl⟩ :=
    applyTo_eq_ok_iff.mp applied
  have pending : current.status = .pending :=
    (settled current member).resolve_right (by simp [unresolved])
  by_cases leadsOn : request.LeadsOn current
  · by_cases passes :
        ∃ passed ∈ task.steps, passed.order < current.order ∧ passed.status = .pending
    · obtain ⟨passed, inTask, before, isPending⟩ := passes
      exact .inr ⟨current, member, passed, inTask, concerns, leadsOn, before, isPending⟩
    · left
      have stands : task.StandsAt (some current.plan) :=
        FieldTask.standsAt_of_inOrder settled inOrder member pending
          fun step inTask before isPending => passes ⟨step, inTask, before, isPending⟩
      obtain ⟨next, leads⟩ := leads_of_permitted member permitted
      exact (standsAt_of_newRecord stands member leads).inOrder
  · left
    obtain ⟨first, reopens⟩ := newRecord_of_not_leadsOn leadsOn time performer
    exact FieldTask.inOrder_of_reopened inOrder member pending reopens

/-- A request that leads on from a step breaks the order where a step before it is pending. -/
theorem not_inOrder_of_applyTo
    {passed : Step}
    (applied : request.applyTo task time performer = .ok updated)
    (member : current ∈ task.steps)
    (concerns : current.id = request.step)
    (leadsOn : request.LeadsOn current)
    (inTask : passed ∈ task.steps)
    (before : passed.order < current.order)
    (pending : passed.status = .pending) :
    ¬ updated.InOrder := by
  obtain ⟨_, _, rfl⟩ := (applyTo_eq_ok_iff_of_concerns member concerns).mp applied
  obtain ⟨final, kept⟩ := newRecord_of_leadsOn leadsOn time performer
  intro inOrder
  refine inOrder _ (FieldTask.mem_withRecords_iff.mpr ⟨passed, inTask, rfl⟩) _
    (FieldTask.mem_withRecords_iff.mpr ⟨current, member, rfl⟩) before final ?_
  rw [kept passed before]
  exact pending

end CompletionRequest

end Fieldwork
