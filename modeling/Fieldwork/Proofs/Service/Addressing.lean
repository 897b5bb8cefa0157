import Fieldwork.Proofs.Service.Delivery
import Fieldwork.Proofs.Service.Recovery
import Fieldwork.Proofs.Session.Scope
import Fieldwork.Proofs.Store.Completion

namespace Fieldwork

/-!
# For which task the calls of a session are

A session is opened on the task that its gateway loads.  From then on every call
that it makes is for that task, because copies of other tasks are refused.  That
the task loaded first is the one that was asked for is left to the gateway: a
store finds a task by its identifier, but what a remote service answers is
believed, whichever task it is.
-/

/-- The task that a call is for. -/
def GatewayCall.task :
    GatewayCall →
    Int64
  | complete request => request.task
  | load task => task

/-- What is done with an open session: a call on it alone, or one that reaches its gateway. -/
inductive GatewayTurn where
  | onSession (call : SessionCall)
  /-- The key is the one that is drawn where a new one is needed. -/
  | submit (key : String)
  | refresh

namespace Gateway

variable {σ : Type} {gateway : Gateway σ} {state answered : σ} {session : WorkSession}
  {opened : Int64}

/-- The session and the state of its gateway that a turn leaves behind. -/
def take
    (gateway : Gateway σ) :
    WorkSession × σ →
    GatewayTurn →
    WorkSession × σ
  | (session, state), .onSession call => (session.perform call, state)
  | (session, state), .submit key =>
      let served := gateway.submit key session state
      (served.session, served.state)
  | (session, state), .refresh =>
      let served := gateway.refresh session state
      (served.session, served.state)

/-- The session and the state of its gateway after some turns. -/
def takeAll
    (gateway : Gateway σ)
    (start : WorkSession × σ)
    (turns : List GatewayTurn) :
    WorkSession × σ :=
  turns.foldl gateway.take start

/-- A gateway that loads no other task than the one it is asked for. -/
def AnswersAsAsked
    (gateway : Gateway σ) :
    Prop :=
  ∀ state asked loaded answered,
    gateway.load state asked = (.ok loaded, answered) → loaded.id = asked

/-- A session that is opened is one on the task that was loaded. -/
theorem openSession_eq_ok_iff
    {asked : Int64} :
    gateway.openSession state asked = (.ok session, answered) ↔
      ∃ loaded,
        gateway.load state asked = (.ok loaded, answered) ∧ session = .start loaded := by
  rcases loads : gateway.load state asked with ⟨loaded, reached⟩
  rw [openSession_of_load loads]
  simp only [Prod.mk.injEq, Except.map_eq_ok_iff]
  constructor
  · rintro ⟨⟨task, rfl, rfl⟩, rfl⟩
    exact ⟨task, ⟨rfl, rfl⟩, rfl⟩
  · rintro ⟨task, ⟨rfl, rfl⟩, rfl⟩
    exact ⟨⟨task, rfl, rfl⟩, rfl⟩

/-! ## What a turn does to the session -/

theorem exists_calls_of_settle
    (gateway : Gateway σ)
    (session : WorkSession)
    (state : σ)
    (task : Int64) :
    ∃ calls, (gateway.settle session state task).session = session.run calls := by
  rcases loads : gateway.load state task with ⟨loaded, answered⟩
  cases loaded with
  | error failure =>
      exact ⟨[], by rw [settle_of_not_loaded loads, WorkSession.run_nil]⟩
  | ok refreshed =>
      refine ⟨[.confirm refreshed], ?_⟩
      cases confirms : session.confirm refreshed <;>
        simp [settle, loads, confirms, WorkSession.perform, WorkSession.attempt, Except.map]

/-- A submission leaves a session as some calls on it do. -/
theorem exists_calls_of_submit
    (gateway : Gateway σ)
    (key : String)
    (session : WorkSession)
    (state : σ) :
    ∃ calls, (gateway.submit key session state).session = session.run calls := by
  cases prepared : session.prepare key with
  | error failure =>
      exact ⟨[], by rw [submit_of_unprepared prepared, WorkSession.run_nil]⟩
  | ok made =>
      obtain ⟨pending, request⟩ := made
      have isPending : session.perform (.prepare key) = pending :=
        WorkSession.perform_of_ok (by rw [WorkSession.attempt, prepared]; rfl)
      rcases completes : gateway.complete state request with ⟨answer, completed⟩
      cases answer with
      | error failure =>
          refine ⟨[.prepare key, .reject failure], ?_⟩
          obtain ⟨_, _, _, rfl⟩ := WorkSession.prepare_eq_ok_iff.mp prepared
          rw [submit_of_refused prepared completes, WorkSession.run_cons, WorkSession.run_cons,
            isPending, WorkSession.run_nil]
          have rejects :
              ({ session with confirmation := .pending request } : WorkSession).attempt
                  (.reject failure) =
                .ok { session with confirmation := .failed request failure } :=
            WorkSession.reject_eq_ok_iff.mpr ⟨request, rfl, rfl⟩
          exact (WorkSession.perform_of_ok rejects).symm
      | ok _ =>
          obtain ⟨calls, settles⟩ :=
            exists_calls_of_settle gateway pending completed request.task
          refine ⟨.prepare key :: calls, ?_⟩
          rw [submit_of_completed prepared completes, WorkSession.run_cons, isPending, settles]

/-- A refresh leaves a session as some calls on it do. -/
theorem exists_calls_of_refresh
    (gateway : Gateway σ)
    (session : WorkSession)
    (state : σ) :
    ∃ calls, (gateway.refresh session state).session = session.run calls := by
  rcases loads : gateway.load state session.task.id with ⟨loaded, answered⟩
  cases loaded with
  | error failure =>
      exact ⟨[], by simp [refresh, loads]⟩
  | ok refreshed =>
      cases awaits : session.confirmation.isPending with
      | true =>
          refine ⟨[.confirm refreshed], ?_⟩
          cases confirms : session.confirm refreshed <;>
            simp [refresh, loads, awaits, confirms, WorkSession.perform, WorkSession.attempt,
              Except.map]
      | false =>
          refine ⟨[.replaceTask refreshed], ?_⟩
          cases replaces : session.replaceTask refreshed <;>
            simp [refresh, loads, awaits, replaces, WorkSession.perform, WorkSession.attempt]

/-- A session stays in step in every turn, whatever its gateway answers. -/
theorem inStep_take
    (inStep : session.InStep opened)
    (gateway : Gateway σ)
    (state : σ)
    (turn : GatewayTurn) :
    (gateway.take (session, state) turn).1.InStep opened := by
  cases turn with
  | onSession call =>
      exact inStep.perform call
  | submit key =>
      obtain ⟨calls, leaves⟩ := exists_calls_of_submit gateway key session state
      rw [take, leaves]
      exact inStep.run calls
  | refresh =>
      obtain ⟨calls, leaves⟩ := exists_calls_of_refresh gateway session state
      rw [take, leaves]
      exact inStep.run calls

/-! ## What a turn calls -/

theorem noting_complete
    (gateway : Gateway σ)
    (state : σ)
    (calls : List GatewayCall)
    (request : CompletionRequest) :
    gateway.noting.complete (state, calls) request =
      ((gateway.complete state request).1, (gateway.complete state request).2,
        calls ++ [.complete request]) :=
  rfl

theorem noting_load
    (state : σ)
    (calls : List GatewayCall)
    (task : Int64) :
    gateway.noting.load (state, calls) task =
      ((gateway.load state task).1, (gateway.load state task).2, calls ++ [.load task]) :=
  rfl

/-- What is served, with the calls that were noted on the way. -/
def noted
    {α : Type}
    (served : Served σ α)
    (calls : List GatewayCall) :
    Served (σ × List GatewayCall) α :=
  ⟨served.result, served.session, served.state, calls⟩

theorem noting_settle
    (session : WorkSession)
    (state : σ)
    (calls : List GatewayCall)
    (task : Int64) :
    gateway.noting.settle session (state, calls) task =
      noted (gateway.settle session state task) (calls ++ [.load task]) := by
  rw [settle, noting_load, settle]
  rcases gateway.load state task with ⟨loaded, answered⟩
  cases loaded with
  | error failure =>
      rfl
  | ok refreshed =>
      dsimp only
      cases session.confirm refreshed <;> rfl

/-- Noting the calls of a submission changes nothing else, and all of them are for its task. -/
theorem noting_submit
    (inStep : session.InStep opened)
    (gateway : Gateway σ)
    (key : String)
    (state : σ)
    (calls : List GatewayCall) :
    ∃ sent,
      gateway.noting.submit key session (state, calls) =
          noted (gateway.submit key session state) (calls ++ sent) ∧
        ∀ call ∈ sent, call.task = opened := by
  cases prepared : session.prepare key with
  | error failure =>
      refine ⟨[], ?_, by simp⟩
      rw [submit_of_unprepared prepared, submit_of_unprepared prepared, List.append_nil]
      rfl
  | ok made =>
      obtain ⟨pending, request⟩ := made
      have addressed : request.task = opened := by
        obtain ⟨_, resolved, rfl, _⟩ := WorkSession.prepare_eq_ok_iff.mp prepared
        exact (inStep.requestFor resolved key).1
      have completesNoted := noting_complete gateway state calls request
      rcases completes : gateway.complete state request with ⟨answer, completed⟩
      rw [completes] at completesNoted
      cases answer with
      | error failure =>
          refine ⟨[.complete request], ?_, by simpa [GatewayCall.task] using addressed⟩
          rw [submit_of_refused prepared completes, submit_of_refused prepared completesNoted]
          rfl
      | ok _ =>
          refine ⟨[.complete request, .load request.task], ?_, ?_⟩
          · rw [submit_of_completed prepared completes,
              submit_of_completed prepared completesNoted, noting_settle, List.append_assoc]
            rfl
          · simpa [GatewayCall.task] using addressed

/-- Noting the call of a refresh changes nothing else, and it is for the task of the session. -/
theorem noting_refresh
    (gateway : Gateway σ)
    (session : WorkSession)
    (state : σ)
    (calls : List GatewayCall) :
    gateway.noting.refresh session (state, calls) =
      noted (gateway.refresh session state) (calls ++ [.load session.task.id]) := by
  rw [refresh, noting_load, refresh]
  rcases gateway.load state session.task.id with ⟨loaded, answered⟩
  cases loaded with
  | error failure =>
      rfl
  | ok refreshed =>
      dsimp only
      cases session.confirmation.isPending with
      | true =>
          simp only [↓reduceIte]
          cases session.confirm refreshed <;> rfl
      | false =>
          simp only [Bool.false_eq_true, ↓reduceIte]
          cases session.replaceTask refreshed <;> rfl

/-- A turn of a session in step calls its gateway for its task only. -/
theorem noting_take
    (inStep : session.InStep opened)
    (gateway : Gateway σ)
    (state : σ)
    (calls : List GatewayCall)
    (turn : GatewayTurn) :
    let left := gateway.take (session, state) turn
    ∃ sent,
      gateway.noting.take (session, state, calls) turn = (left.1, left.2, calls ++ sent) ∧
        ∀ call ∈ sent, call.task = opened := by
  intro left
  cases turn with
  | onSession call =>
      exact ⟨[], by rw [List.append_nil]; rfl, by simp⟩
  | submit key =>
      obtain ⟨sent, isNoted, addressed⟩ := noting_submit inStep gateway key state calls
      refine ⟨sent, ?_, addressed⟩
      rw [take, isNoted]
      rfl
  | refresh =>
      refine ⟨[.load session.task.id], ?_, by simpa [GatewayCall.task] using inStep.sameTask⟩
      rw [take, noting_refresh]
      rfl

/-- In every run, a session in step stays on its task and calls its gateway for it only. -/
theorem noting_takeAll
    (inStep : session.InStep opened)
    (gateway : Gateway σ)
    (state : σ)
    (calls : List GatewayCall)
    (turns : List GatewayTurn) :
    let left := gateway.takeAll (session, state) turns
    left.1.task.id = opened ∧
      ∃ sent,
        gateway.noting.takeAll (session, state, calls) turns =
            (left.1, left.2, calls ++ sent) ∧
          ∀ call ∈ sent, call.task = opened := by
  induction turns generalizing session state calls with
  | nil =>
      exact ⟨inStep.sameTask, [], by rw [List.append_nil]; rfl, by simp⟩
  | cons turn rest inductionHypothesis =>
      intro left
      obtain ⟨first, isNoted, addressedFirst⟩ := noting_take inStep gateway state calls turn
      obtain ⟨sameTask, later, laterNoted, addressedLater⟩ :=
        inductionHypothesis (inStep_take inStep gateway state turn)
          (gateway.take (session, state) turn).2 (calls ++ first)
      refine ⟨sameTask, first ++ later, ?_, ?_⟩
      · rw [takeAll, List.foldl_cons, isNoted]
        exact laterNoted.trans (by rw [List.append_assoc]; rfl)
      · intro call member
        rcases List.mem_append.mp member with inFirst | inLater
        · exact addressedFirst call inFirst
        · exact addressedLater call inLater

/-! ## What a run leaves of the gateway -/

theorem state_settle
    (gateway : Gateway σ)
    (session : WorkSession)
    (state : σ)
    (task : Int64) :
    (gateway.settle session state task).state = (gateway.load state task).2 := by
  unfold settle
  rcases gateway.load state task with ⟨loaded, answered⟩
  cases loaded with
  | error failure =>
      rfl
  | ok refreshed =>
      dsimp only
      cases session.confirm refreshed <;> rfl

theorem state_refresh
    (gateway : Gateway σ)
    (session : WorkSession)
    (state : σ) :
    (gateway.refresh session state).state = (gateway.load state session.task.id).2 := by
  unfold refresh
  rcases gateway.load state session.task.id with ⟨loaded, answered⟩
  cases loaded with
  | error failure =>
      rfl
  | ok refreshed =>
      dsimp only
      split
      · cases session.confirm refreshed <;> rfl
      · cases session.replaceTask refreshed <;> rfl

section Kept

variable {holds : σ → Prop}
  (keptByComplete :
    ∀ state request, holds state → holds (gateway.complete state request).2)
  (keptByLoad : ∀ state task, holds state → holds (gateway.load state task).2)

include keptByComplete keptByLoad in
theorem holds_of_submit
    {state : σ}
    (start : holds state)
    (session : WorkSession)
    (key : String) :
    holds (gateway.submit key session state).state := by
  cases prepared : session.prepare key with
  | error failure =>
      rw [submit_of_unprepared prepared]
      exact start
  | ok made =>
      obtain ⟨pending, request⟩ := made
      have completed := keptByComplete state request start
      rcases completes : gateway.complete state request with ⟨answer, answered⟩
      rw [completes] at completed
      cases answer with
      | error failure =>
          rw [submit_of_refused prepared completes]
          exact completed
      | ok _ =>
          rw [submit_of_completed prepared completes, state_settle]
          exact keptByLoad answered request.task completed

include keptByComplete keptByLoad in
/-- What both calls of a gateway keep of its state, every run over it keeps. -/
theorem holds_of_takeAll
    {start : WorkSession × σ}
    (first : holds start.2)
    (turns : List GatewayTurn) :
    holds (gateway.takeAll start turns).2 := by
  induction turns generalizing start with
  | nil =>
      exact first
  | cons turn rest inductionHypothesis =>
      refine inductionHypothesis ?_
      cases turn with
      | onSession call =>
          exact first
      | submit key =>
          exact holds_of_submit keptByComplete keptByLoad first start.1 key
      | refresh =>
          rw [take, state_refresh]
          exact keptByLoad start.2 start.1.task.id first

end Kept

end Gateway

namespace RemoteService

/-- The request that goes out for a call. -/
def wireRequest
    (service : RemoteService) :
    GatewayCall →
    HttpRequest
  | .complete request => service.completionRequest request
  | .load task => service.loadRequest task

section Wire

variable {service : RemoteService} {script : Nat → Except String HttpAnswer} {opened : Int64}
  {session : WorkSession} {before : Traffic}

/-- Sending a request puts nothing but copies of it on the wire. -/
theorem mem_requests_of_send
    {call : ServiceCall}
    {request sent : HttpRequest}
    (member : sent ∈ (service.send (.scripted script) call request before).2.requests) :
    sent ∈ before.requests ∨ sent = request := by
  by_cases anyAttempt : 0 < service.attempts.toNat
  · obtain ⟨last, _, _, _, _, traffic⟩ := exists_last_answer script call request before anyAttempt
    rw [traffic, trafficAfter, List.mem_append] at member
    exact member.imp_right List.eq_of_mem_replicate
  · have noAttempt : ¬ (0 : UInt8) < service.attempts := by
      rw [UInt8.lt_iff_toNat_lt]
      exact anyAttempt
    rw [send, sendAfter, if_neg noAttempt] at member
    exact .inl member

/-- All that is on the wire was there before or went out for a call that was noted. -/
def WireAsNoted
    (service : RemoteService)
    (before : Traffic)
    (state : Traffic × List GatewayCall) :
    Prop :=
  ∀ sent ∈ state.1.requests,
    sent ∈ before.requests ∨ ∃ call ∈ state.2, sent = service.wireRequest call

/-- A call that is noted with its request going out keeps the wire as noted. -/
theorem WireAsNoted.concat
    {state : Traffic × List GatewayCall}
    {after : Traffic}
    {call : GatewayCall}
    (asNoted : service.WireAsNoted before state)
    (onlyCopies :
      ∀ sent ∈ after.requests, sent ∈ state.1.requests ∨ sent = service.wireRequest call) :
    service.WireAsNoted before (after, state.2 ++ [call]) := by
  intro sent member
  rcases onlyCopies sent member with earlier | isCopy
  · refine (asNoted sent earlier).imp_right ?_
    rintro ⟨noted, inNoted, isSent⟩
    exact ⟨noted, List.mem_append_left _ inNoted, isSent⟩
  · exact .inr ⟨call, by simp, isCopy⟩

/-- In every run of a session in step, only requests for its task go out. -/
theorem requests_of_takeAll
    (inStep : session.InStep opened)
    (turns : List GatewayTurn) :
    ∀ sent ∈
        ((service.gateway (.scripted script)).takeAll (session, before) turns).2.requests,
      sent ∈ before.requests ∨
        ∃ call : GatewayCall, call.task = opened ∧ sent = service.wireRequest call := by
  obtain ⟨_, calls, isNoted, addressed⟩ :=
    Gateway.noting_takeAll inStep (service.gateway (.scripted script)) before [] turns
  have asNoted :
      service.WireAsNoted before
        ((service.gateway (.scripted script)).noting.takeAll (session, before, []) turns).2 := by
    refine Gateway.holds_of_takeAll ?_ ?_ (fun sent member => .inl member) turns
    · intro state request asNoted
      exact asNoted.concat fun sent member => mem_requests_of_send member
    · intro state task asNoted
      exact asNoted.concat fun sent member => mem_requests_of_send member
  rw [isNoted] at asNoted
  intro sent member
  refine (asNoted sent member).imp_right ?_
  rintro ⟨call, inCalls, isSent⟩
  exact ⟨call, addressed call (by simpa using inCalls), isSent⟩

end Wire

theorem readTask_eq_ok_iff
    {asked : Int64}
    {body : Option String}
    {loaded : FieldTask} :
    readTask asked body = .ok loaded ↔
      ∃ text, body = some text ∧ FieldTask.ofText text = .ok loaded := by
  cases body with
  | none =>
      simp [readTask]
  | some text =>
      cases reads : FieldTask.ofText text <;> simp [readTask, reads]

/-- A remote service loads whatever task the answer holds. -/
theorem load_eq_ok_iff
    {σ : Type}
    {service : RemoteService}
    {network : Network σ}
    {state answered : σ}
    {asked : Int64}
    {loaded : FieldTask} :
    (service.gateway network).load state asked = (.ok loaded, answered) ↔
      ∃ body,
        service.send network .load (service.loadRequest asked) state =
            (.ok (some body), answered) ∧
          FieldTask.ofText body = .ok loaded := by
  simp only [gateway, Prod.mk.injEq, Except.mapError_eq_ok_iff, Except.bind_eq_ok_iff,
    readTask_eq_ok_iff]
  constructor
  · rintro ⟨⟨_, delivered, body, rfl, reads⟩, reached⟩
    exact ⟨body, Prod.ext delivered reached, reads⟩
  · rintro ⟨body, sent, reads⟩
    rw [sent]
    exact ⟨⟨_, rfl, body, rfl, reads⟩, rfl⟩

end RemoteService

namespace Gateway

/--
In every run that begins with a session and a state of its gateway, the session
stays on a task and each call that it makes is for this task.
-/
def StaysOnTask
    {σ : Type}
    (gateway : Gateway σ)
    (session : WorkSession)
    (state : σ)
    (task : Int64) :
    Prop :=
  ∀ calls turns,
    let left := gateway.takeAll (session, state) turns
    left.1.task.id = task ∧
      ∃ sent,
        gateway.noting.takeAll (session, state, calls) turns =
            (left.1, left.2, calls ++ sent) ∧
          ∀ call ∈ sent, call.task = task

section Opened

variable {σ : Type} {gateway : Gateway σ} {state answered : σ} {asked : Int64}
  {session : WorkSession}

/-- A session that is opened stays on the task that was loaded for it. -/
theorem staysOnTask_of_openSession
    (opens : gateway.openSession state asked = (.ok session, answered)) :
    ∃ loaded,
      gateway.load state asked = (.ok loaded, answered) ∧
        session = .start loaded ∧ gateway.StaysOnTask session answered loaded.id := by
  obtain ⟨loaded, loads, rfl⟩ := openSession_eq_ok_iff.mp opens
  refine ⟨loaded, loads, rfl, fun calls turns => ?_⟩
  exact noting_takeAll (WorkSession.InStep.start loaded) gateway answered calls turns

/-- Where no other task is loaded than the one that is asked for, this is the one worked on. -/
theorem AnswersAsAsked.staysOnTask
    (asAsked : gateway.AnswersAsAsked)
    (opens : gateway.openSession state asked = (.ok session, answered)) :
    session.task.id = asked ∧ gateway.StaysOnTask session answered asked := by
  obtain ⟨loaded, loads, rfl, stays⟩ := staysOnTask_of_openSession opens
  have isAsked : loaded.id = asked := asAsked _ _ _ _ loads
  exact ⟨isAsked, isAsked ▸ stays⟩

end Opened

/-! ## The two kinds of gateways -/

/-- A store finds a task by its identifier, so a session is on the task asked for. -/
theorem staysOnTask_of_store
    {time : Timestamp}
    {state answered : TaskStore}
    {asked : Int64}
    {session : WorkSession}
    (opens : (TaskStore.gateway time).openSession state asked = (.ok session, answered)) :
    session.task.id = asked ∧ (TaskStore.gateway time).StaysOnTask session answered asked := by
  have asAsked : (TaskStore.gateway time).AnswersAsAsked :=
    fun _ _ _ _ loads => TaskStore.id_of_task? (TaskStore.task?_of_gateway_ok loads)
  exact asAsked.staysOnTask opens

section Remote

variable {service : RemoteService} {script : Nat → Except String HttpAnswer}
  {before answered : Traffic} {asked : Int64} {session : WorkSession}

/-- A remote service is believed whatever task its answer holds. -/
theorem openSession_remote_eq_ok_iff :
    (service.gateway (.scripted script)).openSession before asked = (.ok session, answered) ↔
      ∃ body loaded,
        service.send (.scripted script) .load (service.loadRequest asked) before =
            (.ok (some body), answered) ∧
          FieldTask.ofText body = .ok loaded ∧ session = .start loaded := by
  simp only [openSession_eq_ok_iff, RemoteService.load_eq_ok_iff]
  constructor
  · rintro ⟨loaded, ⟨body, sent, reads⟩, starts⟩
    exact ⟨body, loaded, sent, reads, starts⟩
  · rintro ⟨body, loaded, sent, reads, starts⟩
    exact ⟨loaded, ⟨body, sent, reads⟩, starts⟩

/-- Still nothing but requests for the one task that it loaded goes out to it. -/
theorem requests_of_openSession_remote
    (opens :
      (service.gateway (.scripted script)).openSession before asked = (.ok session, answered))
    (turns : List GatewayTurn) :
    ∀ sent ∈
        ((service.gateway (.scripted script)).takeAll (session, answered) turns).2.requests,
      sent ∈ answered.requests ∨
        ∃ call : GatewayCall,
          call.task = session.task.id ∧ sent = service.wireRequest call := by
  obtain ⟨loaded, _, rfl⟩ := openSession_eq_ok_iff.mp opens
  exact RemoteService.requests_of_takeAll (WorkSession.InStep.start loaded) turns

end Remote

/-! ## Opened sessions -/

/--
A session that is opened over a gateway, whatever this answers now and later, is
on the task that was loaded and stays on it: all its calls, completions and
loads alike, are for this task, which is the one that was asked for exactly where
this one was loaded.  A store loads no other one.  A remote service is believed
whatever task its answer holds; still nothing but requests for that one task goes
out to it.
-/
theorem requests_go_to_the_task_opened
    (asked : Int64) :
    (∀ {σ : Type} (gateway : Gateway σ) (state answered : σ) (session : WorkSession),
      gateway.openSession state asked = (.ok session, answered) →
      ∃ loaded,
        gateway.load state asked = (.ok loaded, answered) ∧
          session = .start loaded ∧
          gateway.StaysOnTask session answered loaded.id ∧
          (session.task.id = asked ∧ gateway.StaysOnTask session answered asked ↔
            loaded.id = asked)) ∧
    (∀ (time : Timestamp) (tasks answered : TaskStore) (session : WorkSession),
      (TaskStore.gateway time).openSession tasks asked = (.ok session, answered) →
      session.task.id = asked ∧ (TaskStore.gateway time).StaysOnTask session answered asked) ∧
    ∀ (service : RemoteService) (script : Nat → Except String HttpAnswer)
      (before answered : Traffic) (session : WorkSession),
      ((service.gateway (.scripted script)).openSession before asked = (.ok session, answered) ↔
        ∃ body loaded,
          service.send (.scripted script) .load (service.loadRequest asked) before =
              (.ok (some body), answered) ∧
            FieldTask.ofText body = .ok loaded ∧ session = .start loaded) ∧
      ((service.gateway (.scripted script)).openSession before asked = (.ok session, answered) →
        ∀ turns,
          ∀ sent ∈
              ((service.gateway (.scripted script)).takeAll (session, answered) turns).2.requests,
            sent ∈ answered.requests ∨
              ∃ call : GatewayCall,
                call.task = session.task.id ∧ sent = service.wireRequest call) := by
  refine ⟨?_, ?_, ?_⟩
  · intro σ gateway state answered session opens
    obtain ⟨loaded, loads, rfl, stays⟩ := staysOnTask_of_openSession opens
    refine ⟨loaded, loads, rfl, stays, ?_⟩
    constructor
    · rintro ⟨isAsked, -⟩
      exact isAsked
    · intro isAsked
      exact ⟨isAsked, isAsked ▸ stays⟩
  · intro time tasks answered session opens
    exact staysOnTask_of_store opens
  · intro service script before answered session
    exact ⟨openSession_remote_eq_ok_iff, requests_of_openSession_remote⟩

/-- The meter is read and the number submitted. -/
def readAndSubmitted : List GatewayTurn :=
  [.onSession (.enter (.number "12")), .submit "first"]

/-- A service that sends task 8 at first, records a completion, and then is lost. -/
def strayScript :
    Nat →
    Except String HttpAnswer
  | 0 =>
      .ok ⟨⟨200⟩,
        some ("\x7b\"id\":8,\"steps\":[\x7b\"id\":1,\"name\":\"Read the meter\"," ++
          "\"step_order\":1,\"is_conditional\":true,\"success_record_type\":\"number\"\x7d]\x7d")⟩
  | 1 => .ok ⟨⟨204⟩, none⟩
  | _ => .error "connection reset"

def strayGateway : Gateway Traffic :=
  (RemoteService.build "http://fields" none 1).gateway (.scripted strayScript)

/-- Asked for task 7, it opens a session on task 8, and completes a step of that one. -/
theorem requests_go_to_the_task_opened_stray :
    ∃ session answered,
      strayGateway.openSession ⟨[], []⟩ 7 = (.ok session, answered) ∧
        session.task.id = 8 ∧
        strayGateway.StaysOnTask session answered 8 ∧
        (strayGateway.takeAll (session, answered) readAndSubmitted).2.requests.map
            HttpRequest.url =
          ["http://fields/api/tasks/7", "http://fields/api/tasks/8/steps/1/complete",
            "http://fields/api/tasks/8"] := by
  have facts :
      (strayGateway.openSession ⟨[], []⟩ 7).1.toOption.map (fun session =>
          (session.task.id,
            (strayGateway.takeAll (session, (strayGateway.openSession ⟨[], []⟩ 7).2)
              readAndSubmitted).2.requests.map HttpRequest.url)) =
        some (8,
          ["http://fields/api/tasks/7", "http://fields/api/tasks/8/steps/1/complete",
            "http://fields/api/tasks/8"]) := by
    decide +kernel
  obtain ⟨session, isOpened, facts⟩ := Option.map_eq_some_iff.mp facts
  obtain ⟨onEight, sent⟩ := Prod.mk.inj facts
  have opens :
      strayGateway.openSession ⟨[], []⟩ 7 =
        (.ok session, (strayGateway.openSession ⟨[], []⟩ 7).2) :=
    Prod.ext (Except.toOption_eq_some_iff.mp isOpened) rfl
  obtain ⟨loaded, _, rfl, stays, _⟩ :=
    (requests_go_to_the_task_opened 7).1 strayGateway ⟨[], []⟩ _ session opens
  have isEight : loaded.id = 8 := onEight
  exact ⟨_, _, opens, onEight, isEight ▸ stays, sent⟩

/-- A store with two readings, on the way to which the second one is served for the first. -/
def mixedUp : Disturbed TaskStore where
  served := [WorkSession.otherReading]
  inner := .ofTasks [WorkSession.meterReading, WorkSession.otherReading] "Ada"

/-- Asked for task 7, a session is opened on task 8, and the completion is recorded there. -/
theorem another_task_opened :
    ∃ session answered,
      hardToLoadGateway.openSession mixedUp 7 = (.ok session, answered) ∧
        session.task.id = 8 ∧
        (hardToLoadGateway.noting.takeAll (session, answered, []) readAndSubmitted).2.2.map
            GatewayCall.task =
          [8, 8] ∧
        (hardToLoadGateway.takeAll (session, answered) readAndSubmitted).2.inner.completions.map
            CompletionRequest.task =
          [8] ∧
        ¬ (session.task.id = 7 ∧ hardToLoadGateway.StaysOnTask session answered 7) :=
  ⟨.start WorkSession.otherReading, { mixedUp with served := [] }, rfl, rfl, rfl, rfl,
    fun ⟨onSeven, _⟩ => absurd onSeven (by decide)⟩

end Gateway

end Fieldwork
