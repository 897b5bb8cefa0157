import Fieldwork.Proofs.Session.Calls
import Fieldwork.Workflow.Service

namespace Fieldwork

/-!
# How submissions and refreshes go

What a submission and a refresh come to, by the answers of the gateway.  Every
answer that matters is a hypothesis here, so that nothing beyond this module
opens the two functions again.
-/

theorem TaskStore.gateway_complete_of_ok
    {store updated : TaskStore}
    {request : CompletionRequest}
    {time : Timestamp}
    (recorded : store.complete request time = .ok updated) :
    (TaskStore.gateway time).complete store request = (.ok (), updated) := by
  simp [TaskStore.gateway, recorded]

theorem TaskStore.gateway_load_of_task?
    {store : TaskStore}
    {id : Int64}
    {task : FieldTask}
    (held : store.task? id = some task)
    (time : Timestamp) :
    (TaskStore.gateway time).load store id = (.ok task, store) := by
  simp [TaskStore.gateway, TaskStore.load, held]

/-- A store that answers well has recorded the completion, now or before. -/
theorem TaskStore.complete_of_gateway_ok
    {store answered : TaskStore}
    {request : CompletionRequest}
    {time : Timestamp}
    (completed : (TaskStore.gateway time).complete store request = (.ok (), answered)) :
    store.complete request time = .ok answered := by
  simp only [TaskStore.gateway] at completed
  split at completed <;> cases completed
  assumption

/-- A store loads what it holds. -/
theorem TaskStore.task?_of_gateway_ok
    {store answered : TaskStore}
    {id : Int64}
    {task : FieldTask}
    {time : Timestamp}
    (loaded : (TaskStore.gateway time).load store id = (.ok task, answered)) :
    store.task? id = some task := by
  simp only [TaskStore.gateway, TaskStore.load, Prod.mk.injEq] at loaded
  obtain ⟨found, _⟩ := loaded
  split at found <;> cases found
  assumption

namespace Gateway

variable {σ : Type} {gateway : Gateway σ} {state answered : σ}
  {session pending : WorkSession} {request : CompletionRequest} {refreshed : FieldTask}
  {key : String} {failure : Failure}

theorem openSession_of_load
    {task : Int64}
    {loaded : Except Failure FieldTask}
    (loads : gateway.load state task = (loaded, answered)) :
    gateway.openSession state task = (loaded.map WorkSession.start, answered) := by
  simp [openSession, loads]

/-- Nothing is called where the completion cannot be prepared. -/
theorem submit_of_unprepared
    (failed : session.prepare key = .error failure) :
    gateway.submit key session state = ⟨.error failure, session, state⟩ := by
  simp [submit, failed]

/-- A completion that fails is noted with its request. -/
theorem submit_of_refused
    (prepared : session.prepare key = .ok (pending, request))
    (refused : gateway.complete state request = (.error failure, answered)) :
    gateway.submit key session state =
      ⟨.error failure, { session with confirmation := .failed request failure },
        answered⟩ := by
  obtain ⟨outcome, _, _, rfl⟩ := WorkSession.prepare_eq_ok_iff.mp prepared
  have rejected :
      ({ session with confirmation := .pending request } : WorkSession).reject failure =
        .ok { session with confirmation := .failed request failure } :=
    WorkSession.reject_eq_ok_iff.mpr ⟨request, rfl, rfl⟩
  simp [submit, prepared, refused, rejected]

/-- A completion that succeeds is settled by loading the task again. -/
theorem submit_of_completed
    (prepared : session.prepare key = .ok (pending, request))
    (completed : gateway.complete state request = (.ok (), answered)) :
    gateway.submit key session state = gateway.settle pending answered request.task := by
  simp [submit, prepared, completed]

/-- An awaited completion is confirmed by a fresh copy of the task. -/
theorem settle_of_loaded
    {task : Int64}
    (awaited : session.confirmation = .pending request)
    (loaded : gateway.load state task = (.ok refreshed, answered))
    (sameTask : refreshed.id = session.task.id) :
    gateway.settle session state task =
      ⟨.ok ⟨request.step, WorkSession.activeId refreshed, refreshed.progress⟩,
        WorkSession.start refreshed, answered⟩ := by
  have confirmed :=
    WorkSession.confirm_eq_ok_iff.mpr ⟨request, awaited, sameTask, rfl, rfl⟩
  simp [settle, loaded, confirmed]

/-- A completion stays awaited where the task cannot be loaded. -/
theorem settle_of_not_loaded
    {task : Int64}
    (lost : gateway.load state task = (.error failure, answered)) :
    gateway.settle session state task = ⟨.error failure, session, answered⟩ := by
  simp [settle, lost]

/-- What is settled was confirmed by a fresh copy of the task. -/
theorem exists_loaded_of_settle
    {task : Int64}
    {transition : StepTransition}
    (awaited : session.confirmation = .pending request)
    (succeeded : (gateway.settle session state task).result = .ok transition) :
    ∃ refreshed loaded,
      gateway.load state task = (.ok refreshed, loaded) ∧
        transition = ⟨request.step, WorkSession.activeId refreshed, refreshed.progress⟩ := by
  cases loads : gateway.load state task with
  | mk copy loaded =>
      cases copy with
      | error failure =>
          rw [settle_of_not_loaded loads] at succeeded
          cases succeeded
      | ok refreshed =>
          refine ⟨refreshed, loaded, rfl, ?_⟩
          cases confirms : session.confirm refreshed with
          | error failure =>
              simp [settle, loads, confirms] at succeeded
          | ok both =>
              obtain ⟨confirmed, confirmedBy⟩ := both
              simp only [settle, loads, confirms, Except.ok.injEq] at succeeded
              obtain ⟨other, alsoAwaited, _, _, isTransition⟩ :=
                WorkSession.confirm_eq_ok_iff.mp confirms
              cases awaited.symm.trans alsoAwaited
              rw [← succeeded, isTransition]

/-- A submission that succeeds was recorded and then confirmed by a fresh copy of the task. -/
theorem exists_loaded_of_submit
    {transition : StepTransition}
    (prepared : session.prepare key = .ok (pending, request))
    (succeeded : (gateway.submit key session state).result = .ok transition) :
    ∃ completed refreshed loaded,
      gateway.complete state request = (.ok (), completed) ∧
        gateway.load completed request.task = (.ok refreshed, loaded) ∧
        transition = ⟨request.step, WorkSession.activeId refreshed, refreshed.progress⟩ := by
  obtain ⟨_, _, _, isPending⟩ := WorkSession.prepare_eq_ok_iff.mp prepared
  have awaited : pending.confirmation = .pending request := by rw [isPending]
  cases completes : gateway.complete state request with
  | mk answer completed =>
      cases answer with
      | error failure =>
          rw [submit_of_refused prepared completes] at succeeded
          cases succeeded
      | ok =>
          rw [submit_of_completed prepared completes] at succeeded
          obtain ⟨refreshed, loaded, loads, isTransition⟩ :=
            exists_loaded_of_settle awaited succeeded
          exact ⟨completed, refreshed, loaded, rfl, loads, isTransition⟩

/-- An awaited completion is confirmed by a refresh just as it is settled. -/
theorem refresh_of_awaited
    (awaited : session.confirmation = .pending request)
    (loaded : gateway.load state session.task.id = (.ok refreshed, answered))
    (sameTask : refreshed.id = session.task.id) :
    gateway.refresh session state =
      ⟨.ok (some ⟨request.step, WorkSession.activeId refreshed, refreshed.progress⟩),
        WorkSession.start refreshed, answered⟩ := by
  have confirmed :=
    WorkSession.confirm_eq_ok_iff.mpr ⟨request, awaited, sameTask, rfl, rfl⟩
  simp [refresh, loaded, awaited, Confirmation.isPending, confirmed]

/-- A refresh that fails leaves the session as it was, whatever it fails for. -/
theorem session_of_failed_refresh
    (failed : (gateway.refresh session state).result = .error failure) :
    (gateway.refresh session state).session = session := by
  revert failed
  unfold refresh
  split
  · exact fun _ => rfl
  · split
    · split
      · exact fun _ => rfl
      · exact fun succeeded => nomatch succeeded
    · split
      · exact fun _ => rfl
      · exact fun succeeded => nomatch succeeded

/-- A settled session takes the fresh copy of its task at a refresh. -/
theorem refresh_of_settled
    (settled : session.confirmation.isPending = false)
    (loaded : gateway.load state session.task.id = (.ok refreshed, answered))
    (sameTask : refreshed.id = session.task.id) :
    gateway.refresh session state =
      ⟨.ok none, session.perform (.replaceTask refreshed), answered⟩ := by
  have replaced :=
    WorkSession.replaceTask_eq_ok_iff.mpr ⟨settled, sameTask, rfl⟩
  rw [WorkSession.perform_of_ok
    (show session.attempt (.replaceTask refreshed) = _ from replaced)]
  simp [refresh, loaded, settled, replaced]

end Gateway

end Fieldwork
