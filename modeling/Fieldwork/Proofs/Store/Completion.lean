import Fieldwork.Proofs.Task.Moves
import Fieldwork.Workflow.Store

namespace Fieldwork

/-!
# What a completion does to a task

A request gives every step of its task a record that depends on this step and
on the one that is resolved.  The record is a function here, and what a request
needs in order to act is a proposition; the functions of the store are proved
to come to these two.
-/

namespace Step

/-- A step that can be resolved. -/
def IsOpen
    (step : Step) :
    Prop :=
  step.status = .pending ∨ step.status = .inProgress

instance
    (step : Step) :
    Decidable step.IsOpen :=
  inferInstanceAs (Decidable (_ ∨ _))

/-- A forward move ends in a final state only from a step in progress. -/
theorem moveTo_final_eq_ok_iff
    {step : Step}
    {status : StepStatus}
    {time : Timestamp}
    {performer : Option String}
    {record : StepRecord}
    (final : status.isTerminal = true) :
    step.moveTo status time performer = .ok record ↔
      step.status = .inProgress ∧ record = ⟨status, some time, performer⟩ := by
  rw [moveTo_eq_ok_iff]
  constructor
  · rintro (⟨_, rfl, _⟩ | ⟨begun, _, rfl⟩)
    · cases final
    · exact ⟨begun, rfl⟩
  · rintro ⟨begun, rfl⟩
    exact .inr ⟨begun, final, rfl⟩

/-- Only an open step is resolved, whatever its record was. -/
theorem finish_eq_ok_iff
    {step : Step}
    {status : StepStatus}
    {time : Timestamp}
    {performer : String}
    {record : StepRecord}
    (final : status.isTerminal = true) :
    step.finish status time performer = .ok record ↔
      step.IsOpen ∧ record = ⟨status, some time, some performer⟩ := by
  unfold finish IsOpen
  by_cases pending : step.status = .pending
  · have begun :
        step.moveTo .inProgress time none =
          .ok { step.record with status := .inProgress } := by
      unfold moveTo
      rw [pending]
      rfl
    rw [if_pos pending, begun]
    simp [Except.bind, moveTo_final_eq_ok_iff final, pending]
  · rw [if_neg pending, moveTo_final_eq_ok_iff final]
    simp [pending]

/-- A step is resolved where it is open; else it names the move that it forbids. -/
theorem finish_eq
    {step : Step}
    {status : StepStatus}
    {time : Timestamp}
    {performer : String}
    (final : status.isTerminal = true) :
    step.finish status time performer =
      if step.IsOpen then .ok ⟨status, some time, some performer⟩
      else .error (.forbiddenMove step.id step.status status) := by
  split
  · rename_i isOpen
    exact (finish_eq_ok_iff final).mpr ⟨isOpen, rfl⟩
  · rename_i notOpen
    have notPending : step.status ≠ .pending := fun pending => notOpen (.inl pending)
    rw [finish, if_neg notPending]
    cases moved : step.moveTo status time (some performer) with
    | ok record =>
        exact (notOpen (.inr ((moveTo_final_eq_ok_iff final).mp moved).1)).elim
    | error fault =>
        rw [moveTo_error moved]

/-- A step between two orders that is not in a final state. -/
def LiesUnresolved
    (after before : Int32)
    (step : Step) :
    Prop :=
  after < step.order ∧ step.order < before ∧ step.status.isTerminal = false

instance
    (after before : Int32)
    (step : Step) :
    Decidable (step.LiesUnresolved after before) :=
  inferInstanceAs (Decidable (_ ∧ _ ∧ _))

/-- A step behind an order keeps its record when the step at this order gets one. -/
theorem withRecord_elsewhere
    {step : Step}
    {after : Int32}
    {record : StepRecord}
    (behind : after < step.order) :
    step.withRecord (if step.order = after then record else step.record) = step := by
  have elsewhere : step.order ≠ after := by grind
  simp [elsewhere, withRecord]

theorem liesUnresolved_withRecord_at
    {step : Step}
    {after before : Int32}
    {record : StepRecord} :
    (step.withRecord
        (if step.order = after then record else step.record)).LiesUnresolved
          after before ↔
      step.LiesUnresolved after before := by
  by_cases behind : after < step.order
  · rw [withRecord_elsewhere behind]
  · simp [LiesUnresolved, behind]

end Step

namespace FieldTask

variable {task updated : FieldTask} {time : Timestamp} {performer : String}

theorem reopenRange_eq
    (task : FieldTask)
    (first last : Int32) :
    task.reopenRange first last =
      task.withRecords fun step =>
        if first ≤ step.order ∧ step.order ≤ last then Step.reopened
        else step.record := by
  simp [reopenRange]

/-- The selected steps are resolved where they are open. -/
theorem finishSelected_eq_ok_iff
    {status : StepStatus}
    (selected : Step → Prop)
    [DecidablePred selected]
    (final : status.isTerminal = true) :
    (task.withRecords? fun step =>
        if selected step then step.finish status time performer
        else .ok step.record) =
          .ok updated ↔
      (∀ step ∈ task.steps, selected step → step.IsOpen) ∧
        updated =
          task.withRecords fun step =>
            if selected step then ⟨status, some time, some performer⟩
            else step.record := by
  rw [withRecords?_eq_ok_iff fun step =>
    if selected step then ⟨status, some time, some performer⟩ else step.record]
  · refine and_congr_left fun _ => forall₂_congr fun step _ => ?_
    by_cases isSelected : selected step
    · simp [isSelected, Step.finish_eq_ok_iff final]
    · simp [isSelected]
  · intro step kept given
    by_cases isSelected : selected step
    · rw [if_pos isSelected, Step.finish_eq_ok_iff final] at given
      rw [if_pos isSelected]
      exact given.2
    · rw [if_neg isSelected] at given ⊢
      exact (Except.ok.inj given).symm

theorem finishStep_eq_ok_iff
    {order : Int32}
    {status : StepStatus}
    (final : status.isTerminal = true) :
    task.finishStep order status time performer = .ok updated ↔
      (∀ step ∈ task.steps, step.order = order → step.IsOpen) ∧
        updated =
          task.withRecords fun step =>
            if step.order = order then ⟨status, some time, some performer⟩
            else step.record :=
  finishSelected_eq_ok_iff (fun step => step.order = order) final

/-- The unresolved steps between two orders are skipped where they are open. -/
theorem skipBetween_eq_ok_iff
    {after before : Int32} :
    task.skipBetween after before time performer = .ok updated ↔
      (∀ step ∈ task.steps, step.LiesUnresolved after before → step.IsOpen) ∧
        updated =
          task.withRecords fun step =>
            if step.LiesUnresolved after before then
              ⟨.skipped, some time, some performer⟩
            else step.record := by
  have final : StepStatus.isTerminal .skipped = true := rfl
  have selects :
      task.skipBetween after before time performer =
        task.withRecords? fun step =>
          if step.LiesUnresolved after before then
            step.finish .skipped time performer
          else .ok step.record := by
    refine congrArg task.withRecords? (funext fun step => ?_)
    exact if_congr (by simp [Step.LiesUnresolved, and_assoc]) rfl rfl
  rw [selects,
    finishSelected_eq_ok_iff (fun step => step.LiesUnresolved after before) final]

/--
A record for the step at an order, and then another one for the unresolved
steps behind it, are given at once: the step itself is not behind its order.
-/
theorem withRecords_at_between
    (task : FieldTask)
    (after before : Int32)
    (first second : StepRecord) :
    ((task.withRecords fun step =>
        if step.order = after then first else step.record).withRecords fun step =>
          if step.LiesUnresolved after before then second else step.record) =
      task.withRecords fun step =>
        if step.order = after then first
        else if step.LiesUnresolved after before then second
        else step.record := by
  rw [withRecords_withRecords]
  refine congrArg task.withRecords (funext fun step => ?_)
  simp only [Step.liesUnresolved_withRecord_at, Step.record_withRecord]
  by_cases atFirst : step.order = after
  · have notBehind : ¬ step.LiesUnresolved after before := by
      intro lies
      exact Int32.lt_irrefl (atFirst ▸ lies.1)
    simp [atFirst, notBehind]
  · simp [atFirst]

/--
A step is resolved and the ones up to a later order are skipped.  The step at
the first order is not between the two, so it does not matter that it is
resolved before.
-/
theorem finishThenSkip_eq_ok_iff
    {after before : Int32}
    {status : StepStatus}
    (final : status.isTerminal = true) :
    ((task.finishStep after status time performer).bind fun finished =>
        finished.skipBetween after before time performer) =
          .ok updated ↔
      ((∀ step ∈ task.steps, step.order = after → step.IsOpen) ∧
          ∀ step ∈ task.steps, step.LiesUnresolved after before → step.IsOpen) ∧
        updated =
          task.withRecords fun step =>
            if step.order = after then ⟨status, some time, some performer⟩
            else if step.LiesUnresolved after before then
              ⟨.skipped, some time, some performer⟩
            else step.record := by
  have skippedAreOpen :
      (∀ step ∈ (task.withRecords fun step =>
          if step.order = after then ⟨status, some time, some performer⟩
          else step.record).steps,
        step.LiesUnresolved after before → step.IsOpen) ↔
          ∀ step ∈ task.steps, step.LiesUnresolved after before → step.IsOpen := by
    simp only [mem_withRecords_iff, forall_exists_index, and_imp,
      forall_apply_eq_imp_iff₂, Step.liesUnresolved_withRecord_at]
    refine forall₂_congr fun step _ => forall_congr' fun lies => ?_
    rw [Step.withRecord_elsewhere lies.1]
  rw [Except.bind_eq_ok_iff]
  constructor
  · rintro ⟨finished, isFinished, isSkipped⟩
    obtain ⟨openAtFirst, rfl⟩ := (finishStep_eq_ok_iff final).mp isFinished
    obtain ⟨openBetween, rfl⟩ := skipBetween_eq_ok_iff.mp isSkipped
    exact ⟨⟨openAtFirst, skippedAreOpen.mp openBetween⟩, withRecords_at_between ..⟩
  · rintro ⟨⟨openAtFirst, openBetween⟩, rfl⟩
    refine ⟨_, (finishStep_eq_ok_iff final).mpr ⟨openAtFirst, rfl⟩, ?_⟩
    exact skipBetween_eq_ok_iff.mpr
      ⟨skippedAreOpen.mpr openBetween, (withRecords_at_between ..).symm⟩

end FieldTask

namespace CompletionRequest

variable {request : CompletionRequest} {task updated : FieldTask} {current : Step}
  {time : Timestamp} {performer : String}

theorem outcomeStatus_isTerminal
    (request : CompletionRequest) :
    request.outcomeStatus.isTerminal = true := by
  unfold outcomeStatus
  split
  · split <;> rfl
  · rfl

/-- What a request on the step `current` needs in order to act. -/
def Permitted
    (request : CompletionRequest)
    (task : FieldTask)
    (current : Step) :
    Prop :=
  match request.action with
  | .advance => current.IsOpen
  | .again => True
  | .jump order =>
      (∃ target ∈ task.steps, target.order = order) ∧
        (current.order < order →
          current.IsOpen ∧
            ∀ step ∈ task.steps, step.LiesUnresolved current.order order → step.IsOpen)

/-- The record of a step after a request on the step `current` has acted. -/
def newRecord
    (request : CompletionRequest)
    (current : Step)
    (time : Timestamp)
    (performer : String)
    (step : Step) :
    StepRecord :=
  match request.action with
  | .advance =>
      if step.order = current.order then
        ⟨request.outcomeStatus, some time, some performer⟩
      else step.record
  | .again =>
      if step.order = current.order then Step.reopened else step.record
  | .jump order =>
      if order ≤ current.order then
        if order ≤ step.order ∧ step.order ≤ current.order then Step.reopened
        else step.record
      else if step.order = current.order then
        ⟨request.outcomeStatus, some time, some performer⟩
      else if step.LiesUnresolved current.order order then
        ⟨.skipped, some time, some performer⟩
      else step.record

/-- A step keeps its record, is set back to pending, or is noted in a final state. -/
theorem newRecord_cases
    (request : CompletionRequest)
    (current : Step)
    (time : Timestamp)
    (performer : String)
    (step : Step) :
    request.newRecord current time performer step = step.record ∨
      request.newRecord current time performer step = Step.reopened ∨
      ∃ status, status.isTerminal = true ∧
        request.newRecord current time performer step =
          ⟨status, some time, some performer⟩ := by
  have final := request.outcomeStatus_isTerminal
  unfold newRecord
  cases request.action with
  | advance =>
      simp only
      split
      · exact .inr (.inr ⟨_, final, rfl⟩)
      · exact .inl rfl
  | again =>
      simp only
      split
      · exact .inr (.inl rfl)
      · exact .inl rfl
  | jump order =>
      simp only
      split
      · split
        · exact .inr (.inl rfl)
        · exact .inl rfl
      · split
        · exact .inr (.inr ⟨_, final, rfl⟩)
        · split
          · exact .inr (.inr ⟨.skipped, rfl, rfl⟩)
          · exact .inl rfl

/-- A step of the task is the only one with its order, so that it may stand for it. -/
theorem forall_order_eq_iff
    {property : Step → Prop}
    (member : current ∈ task.steps) :
    (∀ step ∈ task.steps, step.order = current.order → property step) ↔
      property current := by
  constructor
  · intro all
    exact all current member rfl
  · intro holds step inTask same
    rwa [FieldTask.eq_of_order_eq inTask member same]

/-- A request acts on a step where it is permitted, and by its records. -/
theorem actOn_eq_ok_iff
    (member : current ∈ task.steps) :
    request.actOn task current time performer = .ok updated ↔
      request.Permitted task current ∧
        updated = task.withRecords (request.newRecord current time performer) := by
  have final := request.outcomeStatus_isTerminal
  unfold actOn Permitted newRecord
  cases request.action with
  | advance =>
      simp only
      rw [Except.mapError_eq_ok_iff, FieldTask.finishStep_eq_ok_iff final,
        forall_order_eq_iff member]
  | again =>
      have onlyCurrent :
          ∀ step : Step,
            (current.order ≤ step.order ∧ step.order ≤ current.order) =
              (step.order = current.order) := by
        grind
      simp only [FieldTask.reopenRange_eq, Except.ok.injEq, true_and, onlyCurrent]
      exact eq_comm
  | jump order =>
      have targeted :
          (task.stepAt? order).isNone = false ↔
            ∃ target ∈ task.steps, target.order = order := by
        rw [← Bool.not_eq_true, FieldTask.isNone_stepAt?_iff]
        simp
      simp only
      cases missing : (task.stepAt? order).isNone with
      | true =>
          rw [missing] at targeted
          simp [← targeted]
      | false =>
          have found := targeted.mp missing
          by_cases back : order ≤ current.order
          · have notAhead : ¬ current.order < order := by grind
            simp only [Bool.false_eq_true, ↓reduceIte, back, FieldTask.reopenRange_eq,
              Except.ok.injEq, found, notAhead, false_implies, and_self, true_and]
            exact eq_comm
          · have ahead : current.order < order := by grind
            simp only [Bool.false_eq_true, ↓reduceIte, back, found, ahead, true_and,
              forall_const]
            rw [Except.mapError_eq_ok_iff, FieldTask.finishThenSkip_eq_ok_iff final,
              forall_order_eq_iff member, and_assoc]

/-- A request is applied where its step is unresolved and the request permitted. -/
theorem applyTo_eq_ok_iff :
    request.applyTo task time performer = .ok updated ↔
      ∃ current ∈ task.steps,
        current.id = request.step ∧
          current.status.isTerminal = false ∧
          request.Permitted task current ∧
          updated =
            (task.withRecords (request.newRecord current time performer)).recomputed := by
  unfold applyTo
  cases found : task.step? request.step with
  | none =>
      simp only [reduceCtorEq, false_iff]
      rintro ⟨current, member, same, _⟩
      rw [FieldTask.step?_eq_some_iff.mpr ⟨member, same⟩] at found
      cases found
  | some current =>
      obtain ⟨member, same⟩ := FieldTask.step?_eq_some_iff.mp found
      have onlyCurrent :
          ∀ other ∈ task.steps, other.id = request.step → other = current :=
        fun other inTask sameId =>
          FieldTask.eq_of_id_eq inTask member (sameId.trans same.symm)
      constructor
      · intro applied
        simp only at applied
        split at applied
        · cases applied
        · rename_i unresolved
          obtain ⟨inner, acted, rfl⟩ := Except.map_eq_ok_iff.mp applied
          obtain ⟨permitted, rfl⟩ := (actOn_eq_ok_iff member).mp acted
          exact ⟨current, member, same, by simpa using unresolved, permitted, rfl⟩
      · rintro ⟨other, inTask, sameId, unresolved, permitted, rfl⟩
        rw [onlyCurrent other inTask sameId] at unresolved permitted ⊢
        simp only [unresolved, Bool.false_eq_true, ↓reduceIte]
        rw [(actOn_eq_ok_iff member).mpr ⟨permitted, rfl⟩]
        rfl

/-- Of the step that a request names, which is the only one, it is known what applying takes. -/
theorem applyTo_eq_ok_iff_of_concerns
    (member : current ∈ task.steps)
    (concerns : current.id = request.step) :
    request.applyTo task time performer = .ok updated ↔
      current.status.isTerminal = false ∧
        request.Permitted task current ∧
        updated =
          (task.withRecords (request.newRecord current time performer)).recomputed := by
  rw [applyTo_eq_ok_iff]
  constructor
  · rintro ⟨other, inTask, sameStep, applied⟩
    obtain rfl := FieldTask.eq_of_id_eq inTask member (sameStep.trans concerns.symm)
    exact applied
  · exact fun applied => ⟨current, member, concerns, applied⟩

end CompletionRequest

namespace TaskStore

variable {store updated : TaskStore} {request : CompletionRequest} {time : Timestamp}

/-- The store after a completion was recorded that brought a task into a new state. -/
def recorded
    (store : TaskStore)
    (request : CompletionRequest)
    (task : FieldTask) :
    TaskStore :=
  { store with
    tasks := put task store.tasks
    completions := store.completions ++ [request] }

/-- Under a new key, a completion of a missing task fails. -/
theorem complete_of_missing
    (unknown : request.key ∉ store.keys)
    (missing : store.task? request.task = none) :
    store.complete request time = .error (.store (.taskMissing request.task)) := by
  simp [complete, unknown, missing]

/-- Under a new key, a completion comes to what its request does to the task. -/
theorem complete_of_held
    {task : FieldTask}
    (unknown : request.key ∉ store.keys)
    (held : store.task? request.task = some task) :
    store.complete request time =
      (request.applyTo task time store.performer).map (store.recorded request) := by
  simp only [complete, List.contains_eq_mem, unknown, decide_false, Bool.false_eq_true,
    ↓reduceIte, held]
  rfl

/--
A completion succeeds without effect under a known key, and is recorded under a
new one where its task is there and the request applies to it.
-/
theorem complete_eq_ok_iff :
    store.complete request time = .ok updated ↔
      (request.key ∈ store.keys ∧ updated = store) ∨
        (request.key ∉ store.keys ∧
          ∃ task new,
            store.task? request.task = some task ∧
              request.applyTo task time store.performer = .ok new ∧
              updated = store.recorded request new) := by
  by_cases known : request.key ∈ store.keys
  · simp [complete_of_mem_keys time known, known, eq_comm]
  · cases held : store.task? request.task with
    | none =>
        simp [complete_of_missing known held, known]
    | some task =>
        simp [complete_of_held known held, known, Except.map_eq_ok_iff, @eq_comm _ updated]

@[simp] theorem keys_recorded
    (store : TaskStore)
    (request : CompletionRequest)
    (task : FieldTask) :
    (store.recorded request task).keys = store.keys ++ [request.key] := by
  simp [recorded, keys]

@[simp] theorem completions_recorded
    (store : TaskStore)
    (request : CompletionRequest)
    (task : FieldTask) :
    (store.recorded request task).completions = store.completions ++ [request] :=
  rfl

/-- A task is stored under its own identifier. -/
theorem id_of_task?
    {id : Int64}
    {task : FieldTask}
    (held : store.task? id = some task) :
    task.id = id := by
  simpa using List.find?_some held

/-- The task of a completion is found in its new state, and others as before. -/
theorem task?_recorded
    (store : TaskStore)
    (request : CompletionRequest)
    (task : FieldTask)
    (id : Int64) :
    (store.recorded request task).task? id =
      if task.id = id then some task else store.task? id :=
  find?_put task id store.tasks

end TaskStore

end Fieldwork
