import Fieldwork.Proofs.Service.Exchange

namespace Fieldwork

/-!
# Clients of one store

Any number of sessions may work against one store at once.  A submission calls
the store twice, and between its calls other clients go on, so that here it is
cut into phases that may be interleaved with those of the others.  Each call
goes over a channel that may lose it.  Run in a row, the phases come to the
submission and to the refresh as a whole.
-/

/-- What happens to a completion on its way. -/
inductive Passage where
  | intact
  /-- The store never sees the request. -/
  | requestLost (detail : String)
  /-- The store has acted, and its answer does not arrive. -/
  | replyLost (detail : String)

/-- A gateway over a way that may lose completions, and on which loading may fail. -/
def Gateway.over
    {σ : Type}
    (gateway : Gateway σ)
    (passage : Passage)
    (loadLoss : Option String) :
    Gateway σ where
  complete state request :=
    match passage with
    | .intact => gateway.complete state request
    | .requestLost detail => (.error (.reported .collaborator detail), state)
    | .replyLost detail =>
        (.error (.reported .collaborator detail), (gateway.complete state request).2)
  load state task :=
    match loadLoss with
    | some detail => (.error (.reported .collaborator detail), state)
    | none => gateway.load state task

/-- How one call reaches the store, and when. -/
structure Channel where
  time : Timestamp
  passage : Passage := .intact
  loadLoss : Option String := none

/-- The store as it is reached over a channel. -/
def Channel.gateway
    (channel : Channel) :
    Gateway TaskStore :=
  (TaskStore.gateway channel.time).over channel.passage channel.loadLoss

namespace Channel

variable {store answered : TaskStore} {channel : Channel} {request : CompletionRequest}

/-- A store answers well where it recorded a completion, and else stays as it is. -/
theorem gateway_complete_cases
    {time : Timestamp}
    {answer : Except Failure Unit}
    (completed : (TaskStore.gateway time).complete store request = (answer, answered)) :
    (answer = .ok () ∧ store.complete request time = .ok answered) ∨
      (∃ failure, answer = .error failure) ∧ answered = store := by
  simp only [TaskStore.gateway] at completed
  split at completed
  · rename_i updated recorded
    cases completed
    exact .inl ⟨rfl, recorded⟩
  · rename_i failure refused
    cases completed
    exact .inr ⟨⟨failure, rfl⟩, rfl⟩

/-- A completion that is answered well was recorded, now or before. -/
theorem complete_of_ok
    (completed : channel.gateway.complete store request = (.ok (), answered)) :
    store.complete request channel.time = .ok answered := by
  simp only [gateway, Gateway.over] at completed
  split at completed
  · rcases gateway_complete_cases completed with ⟨_, recorded⟩ | ⟨⟨_, refused⟩, _⟩
    · exact recorded
    · cases refused
  · cases completed
  · cases completed

/-- A completion that fails may have been recorded all the same. -/
theorem complete_of_error
    {failure : Failure}
    (failed : channel.gateway.complete store request = (.error failure, answered)) :
    answered = store ∨ store.complete request channel.time = .ok answered := by
  simp only [gateway, Gateway.over] at failed
  split at failed
  · rcases gateway_complete_cases failed with ⟨_, recorded⟩ | ⟨_, same⟩
    · exact .inr recorded
    · exact .inl same
  · cases failed
    exact .inl rfl
  · cases failed
    rcases gateway_complete_cases (Prod.eta _).symm with ⟨_, recorded⟩ | ⟨_, same⟩
    · exact .inr recorded
    · exact .inl same

/-- Loading leaves the store as it is, and loads what is in it. -/
theorem load_cases
    {task : Int64}
    {loaded : Except Failure FieldTask}
    (loads : channel.gateway.load store task = (loaded, answered)) :
    answered = store ∧
      ∀ refreshed, loaded = .ok refreshed → store.task? task = some refreshed := by
  simp only [gateway, Gateway.over] at loads
  split at loads
  · cases loads
    exact ⟨rfl, fun _ lost => nomatch lost⟩
  · simp only [TaskStore.gateway, TaskStore.load] at loads
    cases loads
    refine ⟨rfl, ?_⟩
    intro refreshed loaded
    split at loaded <;> cases loaded
    assumption

end Channel

/-- How far a client has come with a submission or a refresh. -/
inductive Phase where
  /-- Nothing is under way; this is how the latest operation went. -/
  | done (result : Except Failure (Option StepTransition))
  /-- The request is prepared and not yet sent. -/
  | sending (request : CompletionRequest)
  /-- The completion failed, which is not yet noted. -/
  | refused (failure : Failure)
  /-- The task is to be loaded. -/
  | loading (task : Int64)
  /-- The task was loaded and is not yet applied. -/
  | applying (refreshed : FieldTask)

/-- Whether nothing is under way. -/
def Phase.isDone :
    Phase →
    Bool
  | done _ => true
  | _ => false

/-- A session and how far its operation has come. -/
structure Client where
  session : WorkSession
  phase : Phase

/-- What a client does next. -/
inductive ClientAction where
  | enter (entry : StepInputs.Entry)
  | clear
  /-- The key is the one that is drawn where a new one is needed. -/
  | submit (key : String)
  | refresh
  /-- The next phase of what is under way. -/
  | proceed (channel : Channel)

namespace Client

/-- Apply a loaded copy: confirm an awaited completion by it, or take it over. -/
def apply
    (session : WorkSession)
    (refreshed : FieldTask) :
    Client :=
  if session.confirmation.isPending then
    match session.confirm refreshed with
    | .ok (confirmed, transition) => ⟨confirmed, .done (.ok (some transition))⟩
    | .error failure => ⟨session, .done (.error failure)⟩
  else
    match session.replaceTask refreshed with
    | .ok replaced => ⟨replaced, .done (.ok none)⟩
    | .error failure => ⟨session, .done (.error failure)⟩

/-- Go through the next phase of what is under way. -/
def proceed
    {σ : Type}
    (gateway : Gateway σ)
    (client : Client)
    (state : σ) :
    Client × σ :=
  match client.phase with
  | .done _ => (client, state)
  | .sending request =>
      match gateway.complete state request with
      | (.ok (), state) => (⟨client.session, .loading request.task⟩, state)
      | (.error failure, state) => (⟨client.session, .refused failure⟩, state)
  | .refused failure =>
      match client.session.reject failure with
      | .ok rejected => (⟨rejected, .done (.error failure)⟩, state)
      | .error other => (⟨client.session, .done (.error other)⟩, state)
  | .loading task =>
      match gateway.load state task with
      | (.ok refreshed, state) => (⟨client.session, .applying refreshed⟩, state)
      | (.error failure, state) => (⟨client.session, .done (.error failure)⟩, state)
  | .applying refreshed => (apply client.session refreshed, state)

/-- Begin to submit the step in focus. -/
def submit
    (key : String)
    (session : WorkSession) :
    Client :=
  match session.prepare key with
  | .ok (pending, request) => ⟨pending, .sending request⟩
  | .error failure => ⟨session, .done (.error failure)⟩

/-- Begin to refresh. -/
def refresh
    (session : WorkSession) :
    Client :=
  ⟨session, .loading session.task.id⟩

/--
What an action makes of a client and the store; only what is under way goes on before
it ends.
-/
def act
    (client : Client)
    (store : TaskStore) :
    ClientAction →
    Client × TaskStore
  | .proceed channel => client.proceed channel.gateway store
  | .enter entry =>
      if client.phase.isDone then
        (⟨client.session.perform (.enter entry), client.phase⟩, store)
      else (client, store)
  | .clear =>
      if client.phase.isDone then
        (⟨client.session.perform .clear, client.phase⟩, store)
      else (client, store)
  | .submit key =>
      if client.phase.isDone then (submit key client.session, store)
      else (client, store)
  | .refresh =>
      if client.phase.isDone then (refresh client.session, store)
      else (client, store)

/-- The call on the session that an action makes. -/
def call?
    (client : Client) :
    ClientAction →
    Option SessionCall
  | .enter entry => if client.phase.isDone then some (.enter entry) else none
  | .clear => if client.phase.isDone then some .clear else none
  | .submit key => if client.phase.isDone then some (.prepare key) else none
  | .refresh => none
  | .proceed _ =>
      match client.phase with
      | .refused failure => some (.reject failure)
      | .applying refreshed =>
          if client.session.confirmation.isPending then some (.confirm refreshed)
          else some (.replaceTask refreshed)
      | _ => none

/-- To apply a loaded copy is one call on the session. -/
theorem session_apply
    (session : WorkSession)
    (refreshed : FieldTask) :
    (apply session refreshed).session =
      if session.confirmation.isPending then session.perform (.confirm refreshed)
      else session.perform (.replaceTask refreshed) := by
  simp only [apply, WorkSession.perform, WorkSession.attempt]
  cases session.confirmation.isPending with
  | true =>
      cases session.confirm refreshed <;> simp [Except.map]
  | false =>
      cases session.replaceTask refreshed <;> simp

theorem session_submit
    (key : String)
    (session : WorkSession) :
    (submit key session).session = session.perform (.prepare key) := by
  simp only [submit, WorkSession.perform, WorkSession.attempt]
  cases session.prepare key <;> simp [Except.map]

/-- An action reaches the session by one call at most. -/
theorem session_act
    (client : Client)
    (store : TaskStore)
    (action : ClientAction) :
    (client.act store action).1.session =
      (client.call? action).elim client.session client.session.perform := by
  cases action with
  | enter entry =>
      simp only [act, call?]
      split <;> rfl
  | clear =>
      simp only [act, call?]
      split <;> rfl
  | submit key =>
      simp only [act, call?]
      split
      · exact session_submit key client.session
      · rfl
  | refresh =>
      simp only [act, call?]
      split <;> rfl
  | proceed channel =>
      simp only [act, proceed, call?]
      cases client.phase with
      | done result =>
          rfl
      | sending request =>
          simp only
          split <;> rfl
      | refused failure =>
          simp only [Option.elim_some, WorkSession.perform, WorkSession.attempt]
          split <;> simp_all
      | loading task =>
          simp only
          split <;> rfl
      | applying refreshed =>
          simp only [session_apply]
          split <;> rfl

section Whole

variable {σ : Type} (gateway : Gateway σ)

/-- Go through so many phases without anyone coming between. -/
def proceedTimes
    (client : Client)
    (state : σ) :
    Nat →
    Client × σ
  | 0 => (client, state)
  | times + 1 =>
      let (client, state) := client.proceed gateway state
      client.proceedTimes state times

theorem proceedTimes_done
    (session : WorkSession)
    (result : Except Failure (Option StepTransition))
    (state : σ)
    (times : Nat) :
    (Client.mk session (.done result)).proceedTimes gateway state times =
      (⟨session, .done result⟩, state) := by
  induction times with
  | zero =>
      rfl
  | succ times inductionHypothesis =>
      exact inductionHypothesis

/-- Loading and applying in a row is settling where a completion is awaited. -/
theorem proceedTimes_loading
    {session : WorkSession}
    {request : CompletionRequest}
    (awaited : session.confirmation = .pending request)
    (state : σ)
    (task : Int64) :
    (Client.mk session (.loading task)).proceedTimes gateway state 2 =
      (⟨(gateway.settle session state task).session,
          .done ((gateway.settle session state task).result.map some)⟩,
        (gateway.settle session state task).state) := by
  simp only [proceedTimes, proceed, Gateway.settle]
  cases gateway.load state task with
  | mk loaded answered =>
      cases loaded with
      | error failure =>
          rfl
      | ok refreshed =>
          simp only [apply, awaited, Confirmation.isPending, ↓reduceIte]
          cases session.confirm refreshed with
          | error failure =>
              rfl
          | ok confirmed =>
              rfl

/-- The phases of a submission in a row are the submission. -/
theorem proceedTimes_submit
    (key : String)
    (session : WorkSession)
    (state : σ) :
    (submit key session).proceedTimes gateway state 3 =
      (⟨(gateway.submit key session state).session,
          .done ((gateway.submit key session state).result.map some)⟩,
        (gateway.submit key session state).state) := by
  cases prepared : session.prepare key with
  | error failure =>
      rw [Gateway.submit_of_unprepared prepared, submit, prepared]
      exact proceedTimes_done gateway session _ state 3
  | ok made =>
      obtain ⟨pending, request⟩ := made
      obtain ⟨_, _, _, rfl⟩ := WorkSession.prepare_eq_ok_iff.mp prepared
      rw [submit, prepared]
      cases completed : gateway.complete state request with
      | mk answer answered =>
          cases answer with
          | ok _ =>
              rw [Gateway.submit_of_completed prepared completed,
                ← proceedTimes_loading gateway rfl answered request.task]
              simp only [proceedTimes, proceed, completed]
          | error failure =>
              rw [Gateway.submit_of_refused prepared completed]
              simp only [proceedTimes, proceed, completed]
              rfl

/-- The phases of a refresh in a row are the refresh. -/
theorem proceedTimes_refresh
    (session : WorkSession)
    (state : σ) :
    (refresh session).proceedTimes gateway state 2 =
      (⟨(gateway.refresh session state).session,
          .done (gateway.refresh session state).result⟩,
        (gateway.refresh session state).state) := by
  simp only [proceedTimes, proceed, refresh, Gateway.refresh]
  cases gateway.load state session.task.id with
  | mk loaded answered =>
      cases loaded with
      | error failure =>
          rfl
      | ok refreshed =>
          simp only [apply]
          cases session.confirmation.isPending with
          | true =>
              cases session.confirm refreshed <;> rfl
          | false =>
              cases session.replaceTask refreshed <;> rfl

end Whole

end Client

end Fieldwork
