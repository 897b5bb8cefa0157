import Fieldwork.Proofs.Service.World
import Fieldwork.Proofs.Session.Keys

namespace Fieldwork

/-!
# What clients await

A client awaits a completion from the moment it is prepared until it is
confirmed or its failure is noted.  While it is under way the completion may not
be recorded yet; once the operation is over, or only the task is missing, it is
in the log.
-/

/-- Only preparing makes a session await a completion that it did not await before. -/
theorem WorkSession.awaited_before
    {session : WorkSession}
    {call : SessionCall}
    {request : CompletionRequest}
    (notPrepare : ∀ key, call ≠ .prepare key)
    (awaited : (session.perform call).confirmation = .pending request) :
    session.confirmation = .pending request := by
  cases attempted : session.attempt call with
  | error failure =>
      rwa [perform_of_error attempted] at awaited
  | ok changed =>
      rw [perform_of_ok attempted] at awaited
      cases effect_of_attempt attempted with
      | enter =>
          exact awaited
      | clear =>
          exact awaited
      | @prepare key =>
          exact (notPrepare key rfl).elim
      | confirm =>
          cases awaited
      | reject =>
          cases awaited
      | keepFocus =>
          exact awaited
      | moveFocus =>
          cases awaited

namespace TaskStore

variable {store updated : TaskStore} {request : CompletionRequest} {time : Timestamp}

/-- The log as it is after a completion that was answered well. -/
theorem completions_of_complete
    (completed : store.complete request time = .ok updated) :
    (request.key ∈ store.keys ∧ updated = store) ∨
      request.key ∉ store.keys ∧
        updated.completions = store.completions ++ [request] := by
  rcases complete_eq_ok_iff.mp completed with known | ⟨unknown, task, new, _, _, rfl⟩
  · exact .inl known
  · exact .inr ⟨unknown, rfl⟩

end TaskStore

namespace Client

/--
What a client awaits is on its way or in the log.  On its way it is until the
store has answered well or its failure is noted.
-/
def Accounted
    (store : TaskStore)
    (client : Client) :
    Prop :=
  match client.phase with
  | .sending request => client.session.confirmation = .pending request
  | .refused _ => ∃ request, client.session.confirmation = .pending request
  | .done _ | .loading _ | .applying _ =>
      ∀ request, client.session.confirmation = .pending request →
        request ∈ store.completions

/-- The request that a client holds. -/
def Holds
    (client : Client)
    (request : CompletionRequest) :
    Prop :=
  client.session.confirmation.request? = some request

variable {client : Client} {store updated : TaskStore} {request : CompletionRequest}
  {action : ClientAction}

/-- A log that has grown accounts for the same clients. -/
theorem Accounted.mono
    (accounted : client.Accounted store)
    (grown : ∀ request ∈ store.completions, request ∈ updated.completions) :
    client.Accounted updated := by
  unfold Accounted at accounted ⊢
  split at accounted
  · exact accounted
  · exact accounted
  all_goals exact fun request awaited => grown request (accounted request awaited)

/-- A client holds what it held before, or what it draws a key for. -/
theorem holds_of_act
    (held : (client.act store action).1.Holds request) :
    client.Holds request ∨ client.drawnKey? action = some request.key := by
  unfold Holds at held ⊢
  rw [session_act] at held
  unfold drawnKey?
  cases made : client.call? action with
  | none =>
      rw [made] at held
      exact .inl held
  | some call =>
      rw [made] at held
      exact WorkSession.request?_of_perform held

/-- A client changes the store only by sending a request that the store records. -/
theorem store_of_act
    (store : TaskStore)
    (client : Client)
    (action : ClientAction) :
    (client.act store action).2 = store ∨
      ∃ request time,
        client.phase = .sending request ∧
          store.complete request time = .ok (client.act store action).2 := by
  cases action with
  | proceed channel =>
      simp only [act, proceed]
      cases client.phase with
      | sending request =>
          simp only
          split
          · rename_i answered completed
            exact .inr ⟨request, channel.time, rfl, Channel.complete_of_ok completed⟩
          · rename_i failure answered failed
            rcases Channel.complete_of_error failed with same | recorded
            · exact .inl same
            · exact .inr ⟨request, channel.time, rfl, recorded⟩
      | refused failure =>
          simp only
          split <;> exact .inl rfl
      | loading task =>
          simp only
          split
          · rename_i refreshed answered loaded
            exact .inl (Channel.load_cases loaded).1
          · rename_i failure answered lost
            exact .inl (Channel.load_cases lost).1
      | done result =>
          exact .inl rfl
      | applying refreshed =>
          exact .inl rfl
  | enter entry =>
      simp only [act]
      split <;> exact .inl rfl
  | clear =>
      simp only [act]
      split <;> exact .inl rfl
  | submit key =>
      simp only [act]
      split <;> exact .inl rfl
  | refresh =>
      simp only [act]
      split <;> exact .inl rfl

/-- The log after an action: it may have the request that was sent, under a new key. -/
theorem completions_of_act
    (store : TaskStore)
    (client : Client)
    (action : ClientAction) :
    (client.act store action).2.completions = store.completions ∨
      ∃ request,
        client.phase = .sending request ∧
          request.key ∉ store.keys ∧
          (client.act store action).2.completions = store.completions ++ [request] := by
  rcases store_of_act store client action with same | ⟨request, time, sending, completed⟩
  · exact .inl (congrArg TaskStore.completions same)
  · rcases TaskStore.completions_of_complete completed with ⟨_, same⟩ | ⟨unknown, grown⟩
    · exact .inl (congrArg TaskStore.completions same)
    · exact .inr ⟨request, sending, unknown, grown⟩

theorem logged_of_act
    (logged : request ∈ store.completions) :
    request ∈ (client.act store action).2.completions := by
  rcases completions_of_act store client action with same | ⟨sent, _, _, grown⟩
  · rwa [same]
  · rw [grown]
    exact List.mem_append_left _ logged

/-- At rest, a client awaits only what is in the log. -/
theorem accounted_of_isDone
    (resting : client.phase.isDone = true) :
    client.Accounted store ↔
      ∀ request, client.session.confirmation = .pending request →
        request ∈ store.completions := by
  obtain ⟨session, phase⟩ := client
  cases phase <;> cases resting
  rfl

/-- A call at rest keeps a client accounted for, unless it prepares a completion. -/
theorem Accounted.afterCall
    (accounted : client.Accounted store)
    (resting : client.phase.isDone = true)
    {call : SessionCall}
    (notPrepare : ∀ key, call ≠ .prepare key) :
    (Client.mk (client.session.perform call) client.phase).Accounted store := by
  obtain ⟨session, phase⟩ := client
  cases phase <;> cases resting
  intro request awaited
  exact accounted request (WorkSession.awaited_before notPrepare awaited)

/-- Applying a loaded copy leaves nothing awaited that was not awaited before. -/
theorem accounted_apply
    {session : WorkSession}
    (logged :
      ∀ request, session.confirmation = .pending request → request ∈ store.completions)
    (refreshed : FieldTask) :
    (apply session refreshed).Accounted store := by
  have resting : (apply session refreshed).phase.isDone = true := by
    unfold apply
    split <;> split <;> rfl
  rw [accounted_of_isDone resting]
  intro request awaited
  rw [session_apply] at awaited
  refine logged request ?_
  split at awaited
  · exact WorkSession.awaited_before (by simp) awaited
  · exact WorkSession.awaited_before (by simp) awaited

/--
Every phase keeps a client accounted for, as long as a key of the log stands for
the request that the client holds.
-/
theorem Accounted.proceed
    (accounted : client.Accounted store)
    (ownKey :
      ∀ request, client.Holds request → request.key ∈ store.keys →
        request ∈ store.completions)
    (channel : Channel) :
    (client.proceed channel.gateway store).1.Accounted
      (client.proceed channel.gateway store).2 := by
  obtain ⟨session, phase⟩ := client
  cases phase with
  | done result =>
      exact accounted
  | sending request =>
      have awaited : session.confirmation = .pending request := accounted
      simp only [Client.proceed]
      split
      · rename_i answered completed
        intro other awaitedToo
        cases awaited.symm.trans awaitedToo
        -- Under a known key nothing is recorded, but then the log has this very request.
        rcases TaskStore.completions_of_complete (Channel.complete_of_ok completed) with
          ⟨known, same⟩ | ⟨_, grown⟩
        · rw [same]
          refine ownKey request ?_ known
          rw [Holds, awaited]
          rfl
        · rw [grown]
          exact List.mem_append_right _ (List.mem_singleton_self request)
      · exact ⟨request, awaited⟩
  | refused failure =>
      obtain ⟨request, awaited⟩ := accounted
      have rejected :
          session.reject failure =
            .ok { session with confirmation := .failed request failure } :=
        WorkSession.reject_eq_ok_iff.mpr ⟨request, awaited, rfl⟩
      simp only [Client.proceed, rejected]
      intro other awaitedStill
      cases awaitedStill
  | loading task =>
      simp only [Client.proceed]
      split
      · rename_i refreshed answered loaded
        rw [(Channel.load_cases loaded).1]
        exact accounted
      · rename_i failure answered lost
        rw [(Channel.load_cases lost).1]
        exact accounted
  | applying refreshed =>
      exact accounted_apply accounted refreshed

theorem Accounted.act
    (accounted : client.Accounted store)
    (ownKey :
      ∀ request, client.Holds request → request.key ∈ store.keys →
        request ∈ store.completions)
    (action : ClientAction) :
    (client.act store action).1.Accounted (client.act store action).2 := by
  cases action with
  | proceed channel =>
      exact accounted.proceed ownKey channel
  | enter entry =>
      simp only [Client.act]
      split
      · rename_i resting
        exact accounted.afterCall resting (by simp)
      · exact accounted
  | clear =>
      simp only [Client.act]
      split
      · rename_i resting
        exact accounted.afterCall resting (by simp)
      · exact accounted
  | submit key =>
      simp only [Client.act]
      split
      · rename_i resting
        rw [accounted_of_isDone resting] at accounted
        unfold Client.submit
        split
        · rename_i pending request prepared
          exact (WorkSession.pending_of_prepare prepared).2
        · exact accounted
      · exact accounted
  | refresh =>
      simp only [Client.act]
      split
      · rename_i resting
        rw [accounted_of_isDone resting] at accounted
        exact accounted
      · exact accounted

end Client

end Fieldwork
