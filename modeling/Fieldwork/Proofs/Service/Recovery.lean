import Fieldwork.Proofs.Service.Exchange
import Fieldwork.Proofs.Session.InPlace

namespace Fieldwork

/-!
# Submissions that fail and are taken up again

A submission may fail before its completion is sent, when it is sent, or when the
task is loaded again behind it.  What is left of it differs: nothing, a failed
request that can be made again, or a request whose result is awaited.  A refresh
takes up the last and comes to what the submission would have come to.

Submission and refresh are also given as programs that work on a session in place
and call a gateway on their way.
-/

/-- A call that a gateway receives. -/
inductive GatewayCall where
  | complete (request : CompletionRequest)
  | load (task : Int64)

/-- A gateway that notes the calls it receives, and answers them as before. -/
def Gateway.noting
    {σ : Type}
    (gateway : Gateway σ) :
    Gateway (σ × List GatewayCall) where
  complete state request :=
    let (answer, answered) := gateway.complete state.1 request
    (answer, answered, state.2 ++ [.complete request])
  load state task :=
    let (loaded, answered) := gateway.load state.1 task
    (loaded, answered, state.2 ++ [.load task])

/-- A program that works on a session in place and calls a gateway on its way. -/
abbrev ServiceProgram (σ α : Type) : Type :=
  EStateM Failure (WorkSession × σ) α

namespace ServiceProgram

variable {σ α β : Type}

/-- Work on the session, without a call. -/
def onSession
    (program : SessionProgram α) :
    ServiceProgram σ α :=
  fun (session, state) =>
    match program.run session with
    | .ok value left => .ok value (left, state)
    | .error failure left => .error failure (left, state)

/-- Call the gateway; what it answers, a failure or not, is for the program to judge. -/
def ask
    (call : σ → Except Failure α × σ) :
    ServiceProgram σ (Except Failure α) :=
  fun (session, state) =>
    let (answer, answered) := call state
    .ok answer (session, answered)

def submit
    (gateway : Gateway σ)
    (key : String) :
    ServiceProgram σ StepTransition := do
  let request ← onSession (.prepare key)
  match ← ask fun state => gateway.complete state request with
  | .error failure =>
      onSession (.reject failure)
      throw failure
  | .ok () =>
      match ← ask fun state => gateway.load state request.task with
      | .error failure => throw failure
      | .ok refreshed => onSession (.confirm refreshed)

def refresh
    (gateway : Gateway σ) :
    ServiceProgram σ (Option StepTransition) := do
  let task := (← get).1.task.id
  match ← ask fun state => gateway.load state task with
  | .error failure => throw failure
  | .ok refreshed =>
      if (← get).1.confirmation.isPending then
        return some (← onSession (.confirm refreshed))
      onSession (.replaceTask refreshed)
      return none

/-- What a program comes to, and what it leaves behind. -/
def served :
    EStateM.Result Failure (WorkSession × σ) α →
    Served σ α
  | .ok value (session, state) => ⟨.ok value, session, state⟩
  | .error failure (session, state) => ⟨.error failure, session, state⟩

variable {session : WorkSession} {state : σ}

theorem run_onSession
    (program : SessionProgram α) :
    (onSession program).run (session, state) =
      match program.run session with
      | .ok value left => .ok value (left, state)
      | .error failure left => .error failure (left, state) :=
  rfl

theorem run_onSession_bind
    (program : SessionProgram α)
    (next : α → ServiceProgram σ β) :
    (onSession program >>= next).run (session, state) =
      match program.run session with
      | .ok value left => (next value).run (left, state)
      | .error failure left => .error failure (left, state) := by
  rw [EStateM.run_bind, run_onSession]
  cases program.run session <;> rfl

theorem run_ask_bind
    (call : σ → Except Failure α × σ)
    (next : Except Failure α → ServiceProgram σ β) :
    (ask call >>= next).run (session, state) =
      (next (call state).1).run (session, (call state).2) :=
  rfl

/-- In place, a submission comes to the same. -/
theorem run_submit
    (gateway : Gateway σ)
    (key : String)
    (session : WorkSession)
    (state : σ) :
    served ((submit gateway key).run (session, state)) =
      gateway.submit key session state := by
  rw [submit, run_onSession_bind, SessionProgram.run_prepare, Gateway.submit]
  cases session.prepare key with
  | error failure =>
      rfl
  | ok prepared =>
      obtain ⟨pending, request⟩ := prepared
      dsimp only [SessionProgram.ended]
      rw [run_ask_bind]
      cases gateway.complete state request with
      | mk answer answered =>
          cases answer with
          | error failure =>
              dsimp only
              rw [run_onSession_bind, SessionProgram.run_reject]
              cases pending.reject failure <;> rfl
          | ok _ =>
              dsimp only
              rw [run_ask_bind, Gateway.settle]
              cases gateway.load answered request.task with
              | mk loaded reloaded =>
                  cases loaded with
                  | error failure =>
                      rfl
                  | ok refreshed =>
                      dsimp only
                      rw [run_onSession, SessionProgram.run_confirm]
                      cases pending.confirm refreshed <;> rfl

/-- In place, a refresh comes to the same. -/
theorem run_refresh
    (gateway : Gateway σ)
    (session : WorkSession)
    (state : σ) :
    served ((refresh gateway).run (session, state)) =
      gateway.refresh session state := by
  rw [refresh, EStateM.run_bind, EStateM.run_get, Gateway.refresh]
  dsimp only
  rw [run_ask_bind]
  cases gateway.load state session.task.id with
  | mk loaded answered =>
      cases loaded with
      | error failure =>
          rfl
      | ok refreshed =>
          dsimp only
          rw [EStateM.run_bind, EStateM.run_get]
          dsimp only
          cases session.confirmation.isPending with
          | true =>
              simp only [↓reduceIte]
              rw [run_onSession_bind, SessionProgram.run_confirm]
              cases session.confirm refreshed <;> rfl
          | false =>
              simp only [Bool.false_eq_true, ↓reduceIte]
              rw [run_onSession_bind, SessionProgram.run_replaceTask]
              cases session.replaceTask refreshed <;> rfl

end ServiceProgram

namespace Gateway

variable {σ : Type} {gateway : Gateway σ} {session : WorkSession}

/--
Refresh again and again.  Others may call the gateway in between, so that every
refresh meets it in a state of its own.  What the refreshes come to is given with
the session behind them.
-/
def refreshes
    (gateway : Gateway σ)
    (session : WorkSession) :
    List σ →
    List (Except Failure (Option StepTransition)) × WorkSession
  | [] => ([], session)
  | state :: later =>
      let served := gateway.refresh session state
      let (results, left) := gateway.refreshes served.session later
      (served.result :: results, left)

/-- Any number of refreshes that fail leave the session as it was. -/
theorem session_of_failed_refreshes
    {states : List σ}
    (allFail :
      ∀ result ∈ (gateway.refreshes session states).1,
        ∃ failure, result = .error failure) :
    (gateway.refreshes session states).2 = session := by
  induction states generalizing session with
  | nil =>
      rfl
  | cons state later inductionHypothesis =>
      rw [refreshes] at allFail ⊢
      obtain ⟨failure, failed⟩ := allFail _ List.mem_cons_self
      have unchanged := session_of_failed_refresh failed
      rw [unchanged] at allFail ⊢
      exact inductionHypothesis fun result member =>
        allFail result (List.mem_cons_of_mem _ member)

/--
A submission under a key, of a session that resolves to a request, comes to a
transition and a session as soon as its completion succeeds and a copy is loaded,
whatever the gateway.
-/
def SettlesBy
    (key : String)
    (session : WorkSession)
    (request : CompletionRequest)
    (refreshed : FieldTask)
    (transition : StepTransition)
    (settled : WorkSession) :
    Prop :=
  ∀ {τ : Type} (gateway : Gateway τ) (state completed loaded : τ),
    gateway.complete state request = (.ok (), completed) →
    gateway.load completed request.task = (.ok refreshed, loaded) →
    gateway.submit key session state = ⟨.ok transition, settled, loaded⟩

theorem settlesBy_of_prepare
    {pending : WorkSession}
    {request : CompletionRequest}
    {refreshed : FieldTask}
    {key : String}
    (prepared : session.prepare key = .ok (pending, request))
    (sameTask : refreshed.id = session.task.id) :
    SettlesBy key session request refreshed
      ⟨request.step, WorkSession.activeId refreshed, refreshed.progress⟩
      (WorkSession.start refreshed) := by
  intro τ gateway state completed loaded completes loads
  obtain ⟨_, _, _, rfl⟩ := WorkSession.prepare_eq_ok_iff.mp prepared
  rw [submit_of_completed prepared completes]
  exact settle_of_loaded rfl loads sameTask

/--
A submission that cannot be prepared calls nothing and changes nothing.  One
whose completion fails loads nothing and notes the failed request; one behind
which the task cannot be loaded leaves its request awaited, the task and the
inputs as they were.  Refreshes that fail change nothing of this, however many;
and the first that loads a copy of the task comes to the transition and to the
session to which the submission itself would have come by this copy.
-/
theorem submission_fails_phase_by_phase
    (gateway : Gateway σ)
    (key : String)
    (session : WorkSession)
    (state : σ)
    (calls : List GatewayCall) :
    let submitted := gateway.noting.submit key session (state, calls)
    ServiceProgram.served
          ((ServiceProgram.submit gateway.noting key).run (session, state, calls)) =
        submitted ∧
      (∀ session state,
        ServiceProgram.served ((ServiceProgram.refresh gateway).run (session, state)) =
          gateway.refresh session state) ∧
      (∀ failure,
        session.prepare key = .error failure →
        submitted = ⟨.error failure, session, state, calls⟩) ∧
      (∀ pending request failure completed,
        session.prepare key = .ok (pending, request) →
        gateway.complete state request = (.error failure, completed) →
        submitted =
          ⟨.error failure, { session with confirmation := .failed request failure },
            completed, calls ++ [.complete request]⟩) ∧
      ∀ pending request failure completed loaded,
        session.prepare key = .ok (pending, request) →
        gateway.complete state request = (.ok (), completed) →
        gateway.load completed request.task = (.error failure, loaded) →
        submitted =
            ⟨.error failure, { session with confirmation := .pending request },
              loaded, calls ++ [.complete request, .load request.task]⟩ ∧
          ∀ states,
            (∀ result ∈ (gateway.refreshes submitted.session states).1,
              ∃ failure, result = .error failure) →
            let left := (gateway.refreshes submitted.session states).2
            left = submitted.session ∧
              ∀ met refreshed answered,
                gateway.load met left.task.id = (.ok refreshed, answered) →
                refreshed.id = session.task.id →
                ∃ transition settled,
                  gateway.refresh left met = ⟨.ok (some transition), settled, answered⟩ ∧
                    SettlesBy key session request refreshed transition settled := by
  intro submitted
  refine ⟨ServiceProgram.run_submit gateway.noting key session (state, calls),
    ServiceProgram.run_refresh gateway, ?_, ?_, ?_⟩
  · intro failure failed
    exact submit_of_unprepared failed
  · intro pending request failure completed prepared refused
    refine submit_of_refused prepared ?_
    simp [noting, refused]
  · intro pending request failure completed loaded prepared completes lost
    obtain ⟨_, _, _, isPending⟩ := WorkSession.prepare_eq_ok_iff.mp prepared
    have leaves :
        submitted =
          ⟨.error failure, { session with confirmation := .pending request },
            loaded, calls ++ [.complete request, .load request.task]⟩ := by
      have completesNoted :
          gateway.noting.complete (state, calls) request =
            (.ok (), completed, calls ++ [.complete request]) := by
        simp [noting, completes]
      have lostNoted :
          gateway.noting.load (completed, calls ++ [.complete request]) request.task =
            (.error failure, loaded, calls ++ [.complete request, .load request.task]) := by
        simp [noting, lost]
      rw [← isPending]
      exact (submit_of_completed prepared completesNoted).trans
        (settle_of_not_loaded lostNoted)
    refine ⟨leaves, fun states allFail => ?_⟩
    intro left
    have unchanged : left = submitted.session := session_of_failed_refreshes allFail
    refine ⟨unchanged, ?_⟩
    rw [unchanged, leaves]
    intro met refreshed answered loads sameTask
    exact ⟨_, _, refresh_of_awaited rfl loads sameTask,
      settlesBy_of_prepare prepared sameTask⟩

def timeout : Failure :=
  .reported .collaborator "timeout"

/-- A store with one task, on the way to which loading fails twice. -/
def hardToLoad : Disturbed TaskStore where
  loadFailures := [timeout, timeout]
  inner := .ofTasks [WorkSession.meterReading] "Ada"

def hardToLoadGateway : Gateway (Disturbed TaskStore) :=
  (TaskStore.gateway ⟨⟨2024, 1, 1⟩, 43200, 0⟩).disturbed

/-- The meter was read, and the number is to be submitted. -/
def meterRead : WorkSession :=
  (WorkSession.start WorkSession.meterReading).run [.enter (.number "12")]

/--
The number is recorded, and the loading behind it and the first refresh fail.
The second refresh comes to the end of the task, as the submission would have.
-/
theorem submission_fails_phase_by_phase_hard_to_load :
    let submitted := hardToLoadGateway.noting.submit "first" meterRead (hardToLoad, [])
    let again := hardToLoadGateway.refresh submitted.session submitted.state.1
    submitted.result = .error timeout ∧
      submitted.state.2.length = 2 ∧
      again.result = .error timeout ∧
      again.session = submitted.session ∧
      (hardToLoadGateway.refresh again.session again.state).result =
        .ok (some ⟨1, none, .complete⟩) := by
  intro submitted again
  obtain ⟨_, _, _, _, recovers⟩ :=
    submission_fails_phase_by_phase hardToLoadGateway "first" meterRead hardToLoad []
  obtain ⟨_, keeps⟩ := recovers _ _ timeout _ _ rfl rfl rfl
  have fails : again.result = .error timeout := rfl
  obtain ⟨unchanged, _⟩ := keeps [submitted.state.1] (by
    intro result member
    obtain rfl := List.mem_singleton.mp member
    exact ⟨timeout, fails⟩)
  exact ⟨rfl, rfl, fails, unchanged, rfl⟩

end Gateway

end Fieldwork
