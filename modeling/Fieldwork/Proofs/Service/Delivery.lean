import Fieldwork.Workflow.Delivery

namespace Fieldwork

/-!
# How often a request is sent

A network that answers by a script keeps the requests that it gets and the
pauses between them.  On it a call sends its request until the first answer that
decides, or until the attempts are used up, and no more often.  The loop is
followed attempt by attempt: a transient answer before the last attempt leads to
the next one, a transient answer to the last attempt is what the call fails by,
and any other answer ends the call wherever it comes.
-/

/-- The requests that a network got and the pauses in between, each in its order. -/
structure Traffic where
  requests : List HttpRequest
  pauses : List UInt64
  deriving Repr

/-- The network that answers the requests of its traffic by a script, from the first one on. -/
def Network.scripted
    (script : Nat → Except String HttpAnswer) :
    Network Traffic where
  exchange traffic request :=
    (script traffic.requests.length,
      { traffic with requests := traffic.requests ++ [request] })
  wait traffic milliseconds :=
    { traffic with pauses := traffic.pauses ++ [milliseconds] }

namespace RemoteService

/--
No answer, or one that tells of a failure that may pass: of the server, or of
too many requests.
-/
def IsTransient :
    Except String HttpAnswer →
    Prop
  | .error _ => True
  | .ok answer =>
      500 ≤ answer.status.code ∧ answer.status.code < 600 ∨ answer.status.code = 429

instance : DecidablePred IsTransient
  | .error _ => .isTrue trivial
  | .ok answer =>
      inferInstanceAs <| Decidable <|
        500 ≤ answer.status.code ∧ answer.status.code < 600 ∨ answer.status.code = 429

/-- The kind of failure that a status stands for by which a call is refused. -/
inductive Refuses :
    StatusCode →
    FailureKind →
    Prop where
  | missing : Refuses ⟨404⟩ .notFound
  | conflicting : Refuses ⟨409⟩ .conflict
  | unauthorized : Refuses ⟨401⟩ .configuration
  | forbidden : Refuses ⟨403⟩ .configuration
  | otherwise
      {code : Nat}
      (other : code ∉ [401, 403, 404, 409]) :
      Refuses ⟨code⟩ .collaborator

/--
How an operation ends by the answer to its last attempt: with what it reads off
an answer that tells of success, else with a failure whose kind and wording are
told by the answer or by the lack of one.
-/
inductive EndsBy
    {α : Type}
    (operation : String)
    (value : HttpAnswer → α) :
    Except String HttpAnswer →
    Except Failure α →
    Prop where
  | accepted
      {answer : HttpAnswer}
      (success : 200 ≤ answer.status.code ∧ answer.status.code < 300) :
      EndsBy operation value (.ok answer) (.ok (value answer))
  | refused
      {answer : HttpAnswer}
      {failure : Failure}
      (unsuccessful : ¬ (200 ≤ answer.status.code ∧ answer.status.code < 300))
      (decided : ¬ IsTransient (.ok answer))
      (refuses : Refuses answer.status failure.kind)
      (told :
        failure.detail =
          operation ++ " failed with status " ++ answer.status.text ++ ": " ++
            answer.body.getD "<response body unavailable>") :
      EndsBy operation value (.ok answer) (.error failure)
  | interrupted
      {answer : HttpAnswer}
      {failure : Failure}
      (transient : IsTransient (.ok answer))
      (upstream : failure.kind = .collaborator)
      (told :
        failure.detail =
          "transient HTTP status " ++ answer.status.text ++ " for " ++ operation) :
      EndsBy operation value (.ok answer) (.error failure)
  | unanswered
      {reason : String}
      {failure : Failure}
      (upstream : failure.kind = .collaborator)
      (told : failure.detail = operation ++ " transport error: " ++ reason) :
      EndsBy operation value (.error reason) (.error failure)

/-- The failure of a call whose last attempt met a failure that may pass. -/
def passingFault
    (call : ServiceCall) :
    Except String HttpAnswer →
    DeliveryFault
  | .error reason => .unanswered call reason
  | .ok answer => .transient call answer.status

/-- What a call comes to by an answer that decides it. -/
def decision
    (call : ServiceCall)
    (answer : HttpAnswer) :
    Except DeliveryFault (Option String) :=
  if answer.status.isSuccess then
    .ok answer.body
  else
    .error (.refused call answer.status (answer.body.getD brokenOffBody))

/-- The pauses after the first attempts of a call. -/
def pauses
    (service : RemoteService)
    (count : Nat) :
    List UInt64 :=
  (List.range count).map fun attempt => service.pauseAfter (saturated8 (attempt + 1))

/-- The traffic after a request was sent so often, with so many pauses. -/
def trafficAfter
    (service : RemoteService)
    (before : Traffic)
    (request : HttpRequest)
    (sent paused : Nat) :
    Traffic where
  requests := before.requests ++ List.replicate sent request
  pauses := before.pauses ++ service.pauses paused

/-! ## What an answer tells -/

theorem isSuccess_iff
    {status : StatusCode} :
    status.isSuccess = true ↔ 200 ≤ status.code ∧ status.code < 300 := by
  simp [StatusCode.isSuccess]

theorem isTransient_iff
    {answer : HttpAnswer} :
    answer.status.isTransient = true ↔ IsTransient (.ok answer) := by
  simp [StatusCode.isTransient, IsTransient]

theorem refuses_kindOfStatus
    (status : StatusCode) :
    Refuses status (DeliveryFault.kindOfStatus status) := by
  obtain ⟨code⟩ := status
  unfold DeliveryFault.kindOfStatus
  dsimp only
  split
  · exact .missing
  · exact .conflicting
  · exact .unauthorized
  · exact .forbidden
  · rename_i notMissing notConflicting notUnauthorized notForbidden
    refine .otherwise ?_
    simp only [List.mem_cons, List.not_mem_nil, or_false]
    rintro (unauthorized | forbidden | missing | conflicting)
    · exact notUnauthorized unauthorized
    · exact notForbidden forbidden
    · exact notMissing missing
    · exact notConflicting conflicting

theorem endsBy_decision
    {answer : HttpAnswer}
    (call : ServiceCall)
    (decided : ¬ IsTransient (.ok answer)) :
    EndsBy call.name HttpAnswer.body (.ok answer)
      ((decision call answer).mapError .delivery) := by
  unfold decision
  split
  · rename_i success
    exact .accepted (isSuccess_iff.mp success)
  · rename_i unsuccessful
    exact .refused (mt isSuccess_iff.mpr unsuccessful) decided
      (refuses_kindOfStatus answer.status) rfl

theorem endsBy_passingFault
    {reply : Except String HttpAnswer}
    (call : ServiceCall)
    (transient : IsTransient reply) :
    EndsBy call.name HttpAnswer.body reply
      (.error (.delivery (passingFault call reply))) := by
  cases reply with
  | error reason => exact .unanswered rfl rfl
  | ok answer => exact .interrupted transient rfl rfl

/-- What is read off the value of an operation is read off the answer that it ends by. -/
theorem EndsBy.map
    {α β : Type}
    {operation : String}
    {value : HttpAnswer → α}
    {reply : Except String HttpAnswer}
    {result : Except Failure α}
    (ends : EndsBy operation value reply result)
    (reading : α → β) :
    EndsBy operation (reading ∘ value) reply (result.map reading) := by
  cases ends with
  | accepted success => exact .accepted success
  | refused unsuccessful decided refuses told =>
      exact .refused unsuccessful decided refuses told
  | interrupted transient upstream told => exact .interrupted transient upstream told
  | unanswered upstream told => exact .unanswered upstream told

/-! ## One attempt -/

section Attempt

variable {σ : Type} {service : RemoteService} {network : Network σ} {call : ServiceCall}
  {request : HttpRequest} {made : UInt8} {last? : Option DeliveryFault}
  {state answered : σ} {reply : Except String HttpAnswer} {answer : HttpAnswer}

theorem judge_of_isTransient
    (transient : IsTransient reply) :
    judge call reply = .undecided (passingFault call reply) := by
  cases reply with
  | error reason => rfl
  | ok answer =>
      have passes : answer.status.isTransient = true := isTransient_iff.mpr transient
      have unsuccessful : answer.status.isSuccess ≠ true := fun success =>
        absurd passes (by simp [StatusCode.isTransient_of_isSuccess success])
      simp [judge, passingFault, unsuccessful, passes]

/-- An answer that decides ends the call, whatever came before it. -/
theorem sendAfter_of_decided
    (left : made < service.attempts)
    (exchanged : network.exchange state request = (.ok answer, answered))
    (decided : ¬ IsTransient (.ok answer)) :
    service.sendAfter network call request made last? state =
      (decision call answer, answered) := by
  have final : answer.status.isTransient ≠ true := mt isTransient_iff.mp decided
  rw [sendAfter, if_pos left, exchanged]
  by_cases success : answer.status.isSuccess = true
  · simp [judge, decision, success]
  · simp [judge, decision, success, final]

/-- A transient answer to an attempt that is not the last one leads to a pause and the next one. -/
theorem sendAfter_of_isTransient
    (left : made.toNat + 1 < service.attempts.toNat)
    (exchanged : network.exchange state request = (reply, answered))
    (transient : IsTransient reply) :
    service.sendAfter network call request made last? state =
      service.sendAfter network call request (saturated8 (made.toNat + 1))
        (some (passingFault call reply))
        (network.wait answered (service.pauseAfter (saturated8 (made.toNat + 1)))) := by
  have below : made < service.attempts := UInt8.lt_iff_toNat_lt.mpr (Nat.lt_of_succ_lt left)
  have nextBelow : saturated8 (made.toNat + 1) < service.attempts := by
    rw [UInt8.lt_iff_toNat_lt, toNat_saturated8_succ below]
    exact left
  rw [sendAfter, if_pos below, exchanged]
  simp only [judge_of_isTransient transient, if_pos nextBelow]

/-- A transient answer to the last attempt is what the call fails by. -/
theorem sendAfter_of_last
    (last : made.toNat + 1 = service.attempts.toNat)
    (exchanged : network.exchange state request = (reply, answered))
    (transient : IsTransient reply) :
    service.sendAfter network call request made last? state =
      (.error (passingFault call reply), answered) := by
  have below : made < service.attempts :=
    UInt8.lt_iff_toNat_lt.mpr (last ▸ Nat.lt_succ_self made.toNat)
  have usedUp : ¬ saturated8 (made.toNat + 1) < service.attempts := by
    rw [UInt8.lt_iff_toNat_lt, toNat_saturated8_succ below, last]
    exact Nat.lt_irrefl _
  rw [sendAfter, if_pos below, exchanged]
  simp only [judge_of_isTransient transient, if_neg usedUp]
  rw [sendAfter, if_neg usedUp]
  rfl

end Attempt

/-! ## All attempts of a call -/

section Script

variable {service : RemoteService} {script : Nat → Except String HttpAnswer}
  {call : ServiceCall} {request : HttpRequest} {before : Traffic}

variable (service script request before) in
theorem exchange_trafficAfter
    (sent paused : Nat) :
    (Network.scripted script).exchange (service.trafficAfter before request sent paused)
        request =
      (script (before.requests.length + sent),
        service.trafficAfter before request (sent + 1) paused) := by
  simp [Network.scripted, trafficAfter, List.replicate_succ']

theorem wait_trafficAfter
    (sent paused : Nat) :
    (Network.scripted script).wait (service.trafficAfter before request sent paused)
        (service.pauseAfter (saturated8 (paused + 1))) =
      service.trafficAfter before request sent (paused + 1) := by
  simp [Network.scripted, trafficAfter, pauses, List.range_succ]

/--
Transient answers bring a call as far as there are attempts.  The failure that
the loop carries along is left open, because whatever comes next replaces it.
-/
theorem send_eq_sendAfter
    {count : Nat}
    (left : count < service.attempts.toNat)
    (transient : ∀ number < count, IsTransient (script (before.requests.length + number))) :
    ∃ made last?,
      made.toNat = count ∧
        service.send (.scripted script) call request before =
          service.sendAfter (.scripted script) call request made last?
            (service.trafficAfter before request count count) := by
  induction count with
  | zero =>
      refine ⟨0, none, rfl, ?_⟩
      simp [send, trafficAfter, pauses]
  | succ count inductionHypothesis =>
      obtain ⟨made, last?, counted, reached⟩ :=
        inductionHypothesis (Nat.lt_of_succ_lt left)
          fun number earlier => transient number (Nat.lt_succ_of_lt earlier)
      subst counted
      have below : made < service.attempts :=
        UInt8.lt_iff_toNat_lt.mpr (Nat.lt_of_succ_lt left)
      let met := script (before.requests.length + made.toNat)
      refine ⟨saturated8 (made.toNat + 1), some (passingFault call met),
        toNat_saturated8_succ below, ?_⟩
      calc
        service.send (.scripted script) call request before =
            service.sendAfter (.scripted script) call request made last?
              (service.trafficAfter before request made.toNat made.toNat) :=
          reached
        _ = service.sendAfter (.scripted script) call request (saturated8 (made.toNat + 1))
              (some (passingFault call met))
              ((Network.scripted script).wait
                (service.trafficAfter before request (made.toNat + 1) made.toNat)
                (service.pauseAfter (saturated8 (made.toNat + 1)))) :=
          sendAfter_of_isTransient left
            (exchange_trafficAfter service script request before made.toNat made.toNat)
            (transient made.toNat (Nat.lt_succ_self made.toNat))
        _ = service.sendAfter (.scripted script) call request (saturated8 (made.toNat + 1))
              (some (passingFault call met))
              (service.trafficAfter before request (made.toNat + 1) (made.toNat + 1)) := by
          rw [wait_trafficAfter]

/-- The first answer that decides is the last one that is asked for. -/
theorem send_of_decided
    {number : Nat}
    {answer : HttpAnswer}
    (left : number < service.attempts.toNat)
    (transient :
      ∀ earlier < number, IsTransient (script (before.requests.length + earlier)))
    (given : script (before.requests.length + number) = .ok answer)
    (decided : ¬ IsTransient (.ok answer)) :
    service.send (.scripted script) call request before =
      (decision call answer, service.trafficAfter before request (number + 1) number) := by
  obtain ⟨made, last?, rfl, reached⟩ := send_eq_sendAfter left transient
  have exchanged := exchange_trafficAfter service script request before made.toNat made.toNat
  rw [given] at exchanged
  exact reached.trans (sendAfter_of_decided (UInt8.lt_iff_toNat_lt.mpr left) exchanged decided)

/-- Without an answer that decides, every attempt is made, and the last one is reported. -/
theorem send_of_isTransient
    {earlier : Nat}
    (all : service.attempts.toNat = earlier + 1)
    (transient :
      ∀ number < earlier + 1, IsTransient (script (before.requests.length + number))) :
    service.send (.scripted script) call request before =
      (.error (passingFault call (script (before.requests.length + earlier))),
        service.trafficAfter before request (earlier + 1) earlier) := by
  have left : earlier < service.attempts.toNat := by
    rw [all]
    exact Nat.lt_succ_self earlier
  obtain ⟨made, last?, rfl, reached⟩ :=
    send_eq_sendAfter left fun number below => transient number (Nat.lt_succ_of_lt below)
  exact reached.trans <|
    sendAfter_of_last all.symm
      (exchange_trafficAfter service script request before made.toNat made.toNat)
      (transient made.toNat (Nat.lt_succ_self made.toNat))

/-- Of the first answers of a script one is the first that decides, or all are transient. -/
theorem exists_first_decided
    (script : Nat → Except String HttpAnswer)
    (most : Nat) :
    (∃ number < most,
        (∀ earlier < number, IsTransient (script earlier)) ∧ ¬ IsTransient (script number)) ∨
      ∀ number < most, IsTransient (script number) := by
  induction most with
  | zero =>
      exact .inr fun number below => absurd below (Nat.not_lt_zero number)
  | succ most inductionHypothesis =>
      rcases inductionHypothesis with ⟨number, below, transient, decided⟩ | transient
      · exact .inl ⟨number, Nat.lt_succ_of_lt below, transient, decided⟩
      · by_cases passes : IsTransient (script most)
        · exact .inr (Nat.forall_lt_succ_right.mpr ⟨transient, passes⟩)
        · exact .inl ⟨most, Nat.lt_succ_self most, transient, passes⟩

/--
Whatever the answers are, a call sends nothing but its request.  It goes on after
transient answers only, it never stops early at one, and it ends by the answer to
its last attempt.
-/
theorem exists_last_answer
    (script : Nat → Except String HttpAnswer)
    (call : ServiceCall)
    (request : HttpRequest)
    (before : Traffic)
    (anyAttempt : 0 < service.attempts.toNat) :
    ∃ last < service.attempts.toNat,
      (∀ earlier < last, IsTransient (script (before.requests.length + earlier))) ∧
        (last + 1 < service.attempts.toNat →
          ¬ IsTransient (script (before.requests.length + last))) ∧
          EndsBy call.name HttpAnswer.body (script (before.requests.length + last))
              ((service.send (.scripted script) call request before).1.mapError .delivery) ∧
            (service.send (.scripted script) call request before).2 =
              service.trafficAfter before request (last + 1) last := by
  rcases exists_first_decided (fun number => script (before.requests.length + number))
      service.attempts.toNat with ⟨number, left, transient, decided⟩ | transient
  · refine ⟨number, left, transient, fun _ => decided, ?_⟩
    cases given : script (before.requests.length + number) with
    | error reason =>
        rw [given] at decided
        exact absurd trivial decided
    | ok answer =>
        rw [given] at decided
        rw [send_of_decided left transient given decided]
        exact ⟨endsBy_decision call decided, rfl⟩
  · obtain ⟨earlier, all⟩ := Nat.exists_eq_succ_of_ne_zero (Nat.ne_of_gt anyAttempt)
    rw [all] at transient ⊢
    refine ⟨earlier, Nat.lt_succ_self earlier,
      fun number below => transient number (Nat.lt_succ_of_lt below),
      fun more => absurd more (Nat.lt_irrefl _), ?_⟩
    rw [send_of_isTransient all transient]
    exact ⟨endsBy_passingFault call (transient earlier (Nat.lt_succ_self earlier)), rfl⟩

end Script

/-- A completion succeeds where sending its request does, and fails by what that fails by. -/
theorem complete_gateway
    {σ : Type}
    (service : RemoteService)
    (network : Network σ)
    (state : σ)
    (completion : CompletionRequest) :
    ((service.gateway network).complete state completion).1 =
      ((service.send network .completion (service.completionRequest completion)
        state).1.mapError .delivery).map fun _ => () := by
  unfold gateway
  dsimp only
  cases (service.send network .completion (service.completionRequest completion) state).1 <;> rfl

/-! ## A configured service -/

theorem toNat_attempts_build
    (address : String)
    (token : Option String)
    (attempts : UInt8) :
    (build address token attempts.toNat).attempts.toNat = max attempts.toNat 1 := by
  have chosen :
      (build address token attempts.toNat).attempts = if attempts ≤ 1 then 1 else attempts := by
    simp only [build, saturated8_toNat]
    rfl
  have few : attempts ≤ 1 ↔ attempts.toNat ≤ 1 := UInt8.le_iff_toNat_le
  rw [chosen]
  by_cases atMostOne : attempts ≤ 1
  · rw [if_pos atMostOne, Nat.max_eq_right (few.mp atMostOne)]
    rfl
  · rw [if_neg atMostOne, Nat.max_eq_left (Nat.le_of_not_le (mt few.mpr atMostOne))]

/--
A service sends a request until the first answer that decides.  Of at least one
attempt and at most as many as are configured, exactly those up to that answer
are made, and its success is the result, or its refusal by the kind of failure
that its status stands for; without such an answer all attempts are made, and the
call fails by the last of them.  All requests of a completion are the same one,
with its address, key and content, none follows an answer that decides, and the
completion ends by the answer to the last of them.
-/
theorem requests_stop_at_the_first_decision
    (address : String)
    (token : Option String)
    (attempts : UInt8)
    (backoff : UInt64)
    (script : Nat → Except String HttpAnswer)
    (before : Traffic) :
    let service := (build address token attempts.toNat).withBackoff backoff.toNat
    let network := Network.scripted script
    let most := max attempts.toNat 1
    let reply (number : Nat) := script (before.requests.length + number)
    (∀ call request number answer,
      number < most →
        (∀ earlier < number, IsTransient (reply earlier)) →
          reply number = .ok answer →
            ¬ IsTransient (.ok answer) →
              service.send network call request before =
                  (decision call answer,
                    service.trafficAfter before request (number + 1) number) ∧
                EndsBy call.name HttpAnswer.body (reply number)
                  ((decision call answer).mapError .delivery)) ∧
      (∀ call request,
        (∀ number < most, IsTransient (reply number)) →
          service.send network call request before =
              (.error (passingFault call (reply (most - 1))),
                service.trafficAfter before request most (most - 1)) ∧
            (passingFault call (reply (most - 1))).kind = .collaborator ∧
            EndsBy call.name HttpAnswer.body (reply (most - 1))
              (.error (.delivery (passingFault call (reply (most - 1)))))) ∧
        ∀ completion,
          ∃ last < most,
            (∀ earlier < last, IsTransient (reply earlier)) ∧
              (last + 1 < most → ¬ IsTransient (reply last)) ∧
                EndsBy "step completion" (fun _ => ()) (reply last)
                    ((service.gateway network).complete before completion).1 ∧
                  ((service.gateway network).complete before completion).2 =
                    service.trafficAfter before (service.completionRequest completion)
                      (last + 1) last := by
  intro service network most reply
  have all : service.attempts.toNat = most := toNat_attempts_build address token attempts
  have positive : 0 < most := Nat.lt_of_lt_of_le Nat.one_pos (Nat.le_max_right _ _)
  refine ⟨?_, ?_, ?_⟩
  · intro call request number answer left transient given decided
    refine ⟨send_of_decided (all ▸ left) transient given decided, ?_⟩
    rw [given]
    exact endsBy_decision call decided
  · intro call request transient
    have counted : most = (most - 1) + 1 := (Nat.sub_add_cancel positive).symm
    have lastTransient : IsTransient (reply (most - 1)) :=
      transient (most - 1) (Nat.sub_lt positive Nat.one_pos)
    refine ⟨?_, ?_, endsBy_passingFault call lastTransient⟩
    · rw [send_of_isTransient (all.trans counted) (counted ▸ transient), ← counted]
    · cases reply (most - 1) <;> rfl
  · intro completion
    rw [← all] at positive ⊢
    obtain ⟨last, below, transient, decided, ends, traffic⟩ :=
      exists_last_answer script .completion (service.completionRequest completion) before positive
    refine ⟨last, below, transient, decided, ?_, traffic⟩
    rw [complete_gateway]
    exact ends.map fun _ => ()

/-- Two answers that may pass, and then a conflict whose body breaks off. -/
def interruptedScript :
    Nat →
    Except String HttpAnswer
  | 0 => .error "connection reset"
  | 1 => .ok ⟨⟨503⟩, some "busy"⟩
  | _ => .ok ⟨⟨409⟩, none⟩

/--
Of five attempts three are made, and the call ends by a conflict; of none
configured one is made.
-/
theorem requests_stop_at_the_first_decision_after_interruptions :
    let request : HttpRequest := { method := .get, url := "http://fields/api/tasks/7" }
    let patient := (build "http://fields" none 5).withBackoff 200
    let hasty := (build "http://fields" none 0).withBackoff 0
    patient.send (.scripted interruptedScript) .load request ⟨[], []⟩ =
        (.error (.refused .load ⟨409⟩ brokenOffBody),
          ⟨[request, request, request], [200, 400]⟩) ∧
      (Failure.delivery (.refused .load ⟨409⟩ brokenOffBody)).kind = .conflict ∧
      (Failure.delivery (.refused .load ⟨409⟩ brokenOffBody)).detail =
        "task load failed with status 409 Conflict: <response body unavailable>" ∧
      hasty.send (.scripted interruptedScript) .load request ⟨[], []⟩ =
        (.error (.unanswered .load "connection reset"), ⟨[request], []⟩) := by
  intro request patient hasty
  obtain ⟨sent, _⟩ :=
    (requests_stop_at_the_first_decision "http://fields" none 5 200 interruptedScript
      ⟨[], []⟩).1 .load request 2 ⟨⟨409⟩, none⟩ (by decide) (by decide) rfl (by decide)
  have unanswered :=
    (requests_stop_at_the_first_decision "http://fields" none 0 0 interruptedScript
      ⟨[], []⟩).2.1 .load request (by decide)
  exact ⟨sent, rfl, by decide, unanswered.1⟩

end RemoteService

end Fieldwork
