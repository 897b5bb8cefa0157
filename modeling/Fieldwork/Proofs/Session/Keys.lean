import Fieldwork.Proofs.Session.Moments
import Fieldwork.Proofs.Session.Scope

namespace Fieldwork.WorkSession

/-!
# Keys of prepared requests

A request that a session holds was held before or was made with a key that was
drawn for it.  From this one fact the history of a key can be read backwards:
as long as keys are never drawn twice, two requests with one key are one
request, which was rejected and kept in between.
-/

section Provenance

variable {session changed : WorkSession} {call : SessionCall}
  {request : CompletionRequest}

/-- A request held after a call was held before, or the call drew its key. -/
theorem request?_of_effect
    (changes : Effect session call changed)
    (held : changed.confirmation.request? = some request) :
    session.confirmation.request? = some request ∨
      session.drawnKey? call = some request.key := by
  cases changes with
  | enter settled focus =>
      exact .inl held
  | clear settled focus =>
      exact .inl held
  | @prepare key outcome resolved =>
      cases held
      cases again : session.repeats outcome with
      | true =>
          obtain ⟨failure, failed, _⟩ := failed_of_repeats again key
          left
          rw [failed]
          rfl
      | false =>
          right
          rw [requestFor_of_not_repeats again key]
          simp [drawnKey?, resolved, again, freshRequest]
  | confirm awaited sameTask =>
      cases held
  | reject awaited =>
      cases held
      left
      rw [awaited]
      rfl
  | keepFocus settled sameTask sameStep =>
      exact .inl held
  | moveFocus settled sameTask otherStep =>
      cases held

theorem request?_of_perform
    (held : (session.perform call).confirmation.request? = some request) :
    session.confirmation.request? = some request ∨
      session.drawnKey? call = some request.key := by
  cases attempted : session.attempt call with
  | error failure =>
      rw [perform_of_error attempted] at held
      exact .inl held
  | ok changed =>
      rw [perform_of_ok attempted] at held
      exact request?_of_effect (effect_of_attempt attempted) held

/-- A request held after a run was held before it, or its key was drawn in it. -/
theorem request?_of_run
    {calls : List SessionCall}
    (held : (session.run calls).confirmation.request? = some request) :
    session.confirmation.request? = some request ∨
      request.key ∈ session.drawnKeys calls := by
  induction calls generalizing session with
  | nil =>
      exact .inl held
  | cons call rest inductionHypothesis =>
      rw [drawnKeys_cons, List.mem_append]
      rcases inductionHypothesis held with heldAfterCall | drawnLater
      · rcases request?_of_perform heldAfterCall with heldBefore | drawn
        · exact .inl heldBefore
        · exact .inr (.inl (by simp [drawn]))
      · exact .inr (.inr drawnLater)

theorem key_mem_drawnKeys_of_held
    {task : FieldTask}
    {calls : List SessionCall}
    (held : ((start task).run calls).confirmation.request? = some request) :
    request.key ∈ (start task).drawnKeys calls := by
  rcases request?_of_run held with heldAtStart | drawn
  · cases heldAtStart
  · exact drawn

/--
A request that is held after a run, under a key that the run did not draw, was
held all the time: no call of the run left the session without it.
-/
theorem held_throughout
    {calls : List SessionCall}
    (held : (session.run calls).confirmation.request? = some request)
    (notDrawn : request.key ∉ session.drawnKeys calls) :
    ∀ moment ∈ session.moments calls,
      (moment.session.perform moment.call).confirmation.request? = some request := by
  intro moment member
  obtain ⟨earlier, later, rfl, met⟩ := mem_moments_iff.mp member
  rw [run_append, run_cons, ← met] at held
  rw [drawnKeys_append, drawnKeys_cons, ← met] at notDrawn
  rcases request?_of_run held with heldThen | drawnLater
  · exact heldThen
  · exact (notDrawn (by simp [drawnLater])).elim

end Provenance

section Between

variable {opened : Int64} {session : WorkSession} {request : CompletionRequest}

theorem request?_of_confirms
    {moment : SessionMoment}
    (confirms : moment.Confirms) :
    (moment.session.perform moment.call).confirmation.request? = none := by
  obtain ⟨⟨changed, succeeded⟩, refreshed, isConfirm⟩ := confirms
  rw [perform_of_ok succeeded]
  have changes := effect_of_attempt succeeded
  rw [isConfirm] at changes
  cases changes
  rfl

/-- A fresh copy of the task that moves the focus leaves no request behind. -/
theorem request?_of_movesFocus
    {moment : SessionMoment}
    (inStep : InStep opened moment.session)
    (moves : moment.MovesFocus) :
    (moment.session.perform moment.call).confirmation.request? = none := by
  obtain ⟨⟨changed, succeeded⟩, refreshed, isReplace, otherFocus⟩ := moves
  rw [perform_of_ok succeeded]
  have changes := effect_of_attempt succeeded
  rw [isReplace] at changes
  cases changes with
  | keepFocus settled sameTask sameStep =>
      exact (otherFocus (sameStep.symm.trans inStep.inputsForFocus)).elim
  | moveFocus settled sameTask otherStep =>
      rfl

/--
A request that is held after a run, under a key that the run did not draw, was
neither confirmed in it nor dropped for another step in focus.
-/
theorem undisturbed_of_held
    {calls : List SessionCall}
    (inStep : InStep opened session)
    (held : (session.run calls).confirmation.request? = some request)
    (notDrawn : request.key ∉ session.drawnKeys calls) :
    ∀ moment ∈ session.moments calls,
      ¬ moment.Confirms ∧ ¬ moment.MovesFocus := by
  intro moment member
  have stillHeld := held_throughout held notDrawn moment member
  constructor
  · intro confirms
    rw [request?_of_confirms confirms] at stillHeld
    cases stillHeld
  · intro moves
    obtain ⟨earlier, _, _, met⟩ := mem_moments_iff.mp member
    have momentInStep : InStep opened moment.session := met ▸ inStep.run earlier
    rw [request?_of_movesFocus momentInStep moves] at stillHeld
    cases stillHeld

/-- A completion stays awaited until it is confirmed or rejected. -/
theorem pending_until_settled
    {calls : List SessionCall}
    (awaited : session.confirmation = .pending request)
    (unsettled :
      ∀ moment ∈ session.moments calls, ¬ moment.Confirms ∧ ¬ moment.Rejects) :
    (session.run calls).confirmation = .pending request := by
  induction calls generalizing session with
  | nil =>
      exact awaited
  | cons call rest inductionHypothesis =>
      refine inductionHypothesis ?_ fun moment member =>
        unsettled moment (List.mem_cons_of_mem _ member)
      obtain ⟨notConfirmed, notRejected⟩ :=
        unsettled ⟨session, call⟩ List.mem_cons_self
      cases attempted : session.attempt call with
      | error failure =>
          rwa [perform_of_error attempted]
      | ok changed =>
          rw [perform_of_ok attempted]
          cases effect_of_attempt attempted with
          | enter settled focus =>
              exact awaited
          | clear settled focus =>
              exact awaited
          | prepare resolved =>
              have settled := (resolution_eq_ok_iff.mp resolved).1
              simp [awaited, Confirmation.isPending] at settled
          | confirm awaitedThen sameTask =>
              exact (notConfirmed ⟨⟨_, attempted⟩, _, rfl⟩).elim
          | reject awaitedThen =>
              exact (notRejected ⟨⟨_, attempted⟩, _, rfl⟩).elim
          | keepFocus settled sameTask sameStep =>
              exact awaited
          | moveFocus settled sameTask otherStep =>
              simp [awaited, Confirmation.isPending] at settled

/--
A failed request stays held until a completion is prepared or the focus moves:
edits, refused calls and fresh copies with the same step in focus leave it.
-/
theorem failed_until_prepared
    {calls : List SessionCall}
    {failure : Failure}
    (inStep : InStep opened session)
    (failed : session.confirmation = .failed request failure)
    (undisturbed :
      ∀ moment ∈ session.moments calls,
        ¬ moment.Prepares ∧ ¬ moment.MovesFocus) :
    (session.run calls).confirmation = .failed request failure := by
  induction calls generalizing session with
  | nil =>
      exact failed
  | cons call rest inductionHypothesis =>
      refine inductionHypothesis (inStep.perform call) ?_ fun moment member =>
        undisturbed moment (List.mem_cons_of_mem _ member)
      obtain ⟨notPrepared, notMoved⟩ :=
        undisturbed ⟨session, call⟩ List.mem_cons_self
      cases attempted : session.attempt call with
      | error refusal =>
          rwa [perform_of_error attempted]
      | ok changed =>
          rw [perform_of_ok attempted]
          cases effect_of_attempt attempted with
          | enter settled focus =>
              exact failed
          | clear settled focus =>
              exact failed
          | prepare resolved =>
              exact (notPrepared ⟨⟨_, attempted⟩, _, rfl⟩).elim
          | confirm awaited sameTask =>
              cases failed.symm.trans awaited
          | reject awaited =>
              cases failed.symm.trans awaited
          | keepFocus settled sameTask sameStep =>
              exact failed
          | moveFocus settled sameTask otherStep =>
              refine (notMoved ⟨⟨_, attempted⟩, _, rfl, ?_⟩).elim
              exact fun sameFocus =>
                otherStep (inStep.inputsForFocus.trans sameFocus.symm)

end Between

/-- A request covers an outcome where its three parts agree with it. -/
theorem covers_iff
    {request : CompletionRequest}
    {outcome : ResolvedOutcome} :
    request.covers outcome = true ↔
      request.step = outcome.step ∧
        request.fieldValues.same outcome.fieldValues = true ∧
        request.action = outcome.action := by
  simp [CompletionRequest.covers, and_assoc]

/--
A request carries what a session resolves to.  Where it is the failed request
made again, its values may hold zeros of another sign.
-/
def Carries
    (session : WorkSession)
    (request : CompletionRequest) :
    Prop :=
  ∃ step outcome,
    session.activeStep? = some step ∧
      session.task.resolve step session.inputs = .ok outcome ∧
      request.task = session.task.id ∧
      request.step = outcome.step ∧
      request.action = outcome.action ∧
      (request.fieldValues = outcome.fieldValues ∨
        (∃ failure, session.confirmation = .failed request failure) ∧
          request.fieldValues.EqualButZeroSign outcome.fieldValues)

section Prepared

variable {opened : Int64} {session pending : WorkSession} {key : String}
  {request : CompletionRequest}

/-- A prepared request carries what its session resolves to. -/
theorem carries_of_prepare
    (inStep : InStep opened session)
    (prepared : session.prepare key = .ok (pending, request)) :
    session.Carries request := by
  obtain ⟨outcome, resolved, rfl, rfl⟩ := prepare_eq_ok_iff.mp prepared
  have sameTask := (inStep.requestFor resolved key).1.trans inStep.sameTask.symm
  obtain ⟨_, step, focus, outcomeOfStep⟩ := resolution_eq_ok_iff.mp resolved
  refine ⟨step, outcome, focus, outcomeOfStep, sameTask, ?_⟩
  cases again : session.repeats outcome with
  | true =>
      obtain ⟨failure, failed, covered⟩ := failed_of_repeats again key
      obtain ⟨sameStep, sameValues, sameAction⟩ := covers_iff.mp covered
      refine ⟨sameStep, sameAction, .inr ⟨⟨failure, failed⟩, ?_⟩⟩
      exact FieldValues.equalButZeroSign_of_same
        (FieldTask.isScalar_of_resolve outcomeOfStep) sameValues
  | false =>
      rw [requestFor_of_not_repeats again key]
      exact ⟨rfl, rfl, .inl rfl⟩

theorem pending_of_prepare
    (prepared : session.prepare key = .ok (pending, request)) :
    session.perform (.prepare key) = pending ∧
      pending.confirmation = .pending request := by
  have succeeded : session.attempt (.prepare key) = .ok pending := by
    simp [attempt, prepared, Except.map]
  refine ⟨perform_of_ok succeeded, ?_⟩
  obtain ⟨_, _, _, rfl⟩ := prepare_eq_ok_iff.mp prepared
  rfl

/-- A prepared request was held as failed, or its key is drawn now. -/
theorem failed_or_drawn_of_prepare
    (prepared : session.prepare key = .ok (pending, request)) :
    (∃ failure, session.confirmation = .failed request failure) ∨
      request.key = key ∧ session.drawnKey? (.prepare key) = some key := by
  obtain ⟨outcome, resolved, rfl, rfl⟩ := prepare_eq_ok_iff.mp prepared
  cases again : session.repeats outcome with
  | true =>
      obtain ⟨failure, failed, _⟩ := failed_of_repeats again key
      exact .inl ⟨failure, failed⟩
  | false =>
      rw [requestFor_of_not_repeats again key]
      exact .inr ⟨rfl, by simp [drawnKey?, resolved, again]⟩

/-- A failed request is prepared again for an outcome that says the same. -/
theorem prepare_of_failed
    {failure : Failure}
    {outcome : ResolvedOutcome}
    (failed : session.confirmation = .failed request failure)
    (resolved : session.resolution = .ok outcome)
    (covered : request.covers outcome = true) :
    session.prepare key =
      .ok ({ session with confirmation := .pending request }, request) := by
  have again : session.requestFor outcome key = request := by
    simp [requestFor, failed, covered]
  exact prepare_eq_ok_iff.mpr ⟨outcome, resolved, again.symm, rfl⟩

end Prepared

/--
Two requests of a run under one key are one request, which was rejected in
between and neither confirmed nor dropped for another step in focus.
-/
theorem eq_of_key_eq
    {task : FieldTask}
    {earlier between : List SessionCall}
    {firstKey secondKey : String}
    {pending pendingAgain : WorkSession}
    {first second : CompletionRequest}
    (fresh :
      ((start task).drawnKeys
        (earlier ++ .prepare firstKey :: (between ++ [.prepare secondKey]))).Nodup)
    (prepared : ((start task).run earlier).prepare firstKey = .ok (pending, first))
    (preparedAgain :
      (pending.run between).prepare secondKey = .ok (pendingAgain, second))
    (sameKey : first.key = second.key) :
    first = second ∧
      (∃ moment ∈ pending.moments between, moment.Rejects) ∧
      ∀ moment ∈ pending.moments between,
        ¬ moment.Confirms ∧ ¬ moment.MovesFocus := by
  obtain ⟨reached, awaited⟩ := pending_of_prepare prepared
  have reachedByRun : (start task).run (earlier ++ [.prepare firstKey]) = pending := by
    rw [run_append, run_cons, reached, run_nil]
  have inStep : InStep task.id pending :=
    reachedByRun ▸ (InStep.start task).run (earlier ++ [.prepare firstKey])
  have firstDrawn :
      first.key ∈ (start task).drawnKeys (earlier ++ [.prepare firstKey]) := by
    refine key_mem_drawnKeys_of_held ?_
    rw [reachedByRun, awaited]
    rfl
  rw [← List.singleton_append, ← List.append_assoc, drawnKeys_append,
    List.nodup_append, reachedByRun] at fresh
  -- The key was drawn for the first request, so the second one was not made with it anew.
  have notDrawnAgain :
      first.key ∉ pending.drawnKeys (between ++ [.prepare secondKey]) :=
    fun drawn => fresh.2.2 _ firstDrawn _ drawn rfl
  rw [drawnKeys_append, List.mem_append, not_or] at notDrawnAgain
  obtain ⟨notDrawnBetween, notDrawnAtEnd⟩ := notDrawnAgain
  rcases failed_or_drawn_of_prepare preparedAgain with
    ⟨failure, failed⟩ | ⟨keyOfSecond, drawn⟩
  · have heldAtEnd : (pending.run between).confirmation.request? = some second := by
      rw [failed]
      rfl
    have same : first = second := by
      rcases request?_of_run heldAtEnd with heldAtStart | drawn
      · rw [awaited] at heldAtStart
        exact Option.some.inj heldAtStart
      · exact (notDrawnBetween (sameKey ▸ drawn)).elim
    have undisturbed :=
      undisturbed_of_held inStep heldAtEnd (sameKey ▸ notDrawnBetween)
    refine ⟨same, ?_, undisturbed⟩
    by_contra noneRejected
    have stillAwaited :=
      pending_until_settled awaited fun moment member =>
        ⟨(undisturbed moment member).1,
          fun rejects => noneRejected ⟨moment, member, rejects⟩⟩
    cases failed.symm.trans stillAwaited
  · refine (notDrawnAtEnd ?_).elim
    rw [drawnKeys_cons, drawn, sameKey, keyOfSecond]
    simp

/--
A rejected request is prepared again where the step in focus comes to the same
outcome, whatever was done in between short of preparing another one and of
moving the focus.
-/
theorem prepare_after_rejection
    {opened : Int64}
    {session rejected : WorkSession}
    {failure : Failure}
    {between : List SessionCall}
    {key : String}
    {request : CompletionRequest}
    {step : Step}
    {outcome : ResolvedOutcome}
    (inStep : InStep opened session)
    (awaited : session.confirmation = .pending request)
    (rejects : session.reject failure = .ok rejected)
    (undisturbed :
      ∀ moment ∈ rejected.moments between,
        ¬ moment.Prepares ∧ ¬ moment.MovesFocus)
    (focus : (rejected.run between).activeStep? = some step)
    (resolved :
      (rejected.run between).task.resolve step (rejected.run between).inputs =
        .ok outcome)
    (covered : request.covers outcome = true) :
    ∃ pending, (rejected.run between).prepare key = .ok (pending, request) := by
  have rejectedInStep : InStep opened rejected := by
    have rejectsAsCall : session.attempt (.reject failure) = .ok rejected := rejects
    exact inStep.effect (effect_of_attempt rejectsAsCall)
  obtain ⟨known, awaitedAsKnown, rfl⟩ := reject_eq_ok_iff.mp rejects
  cases awaited.symm.trans awaitedAsKnown
  have stillFailed := failed_until_prepared rejectedInStep rfl undisturbed
  have resolves :=
    resolution_eq_ok_iff.mpr ⟨by rw [stillFailed]; rfl, step, focus, resolved⟩
  exact ⟨_, prepare_of_failed stillFailed resolves covered⟩

/--
In every run that draws no key twice: a prepared request carries what its
session resolves to; two requests under one key are one request, rejected in
between; and a rejected request is the one prepared next, unless another is
resolved to or another step comes into focus.
-/
theorem prepared_requests_of_run
    {task : FieldTask}
    {calls : List SessionCall}
    (fresh : ((start task).drawnKeys calls).Nodup) :
    (∀ earlier key later pending request,
      calls = earlier ++ .prepare key :: later →
      ((start task).run earlier).prepare key = .ok (pending, request) →
      ((start task).run earlier).Carries request) ∧
    (∀ earlier firstKey between secondKey later pending first pendingAgain second,
      calls = earlier ++ .prepare firstKey :: (between ++ .prepare secondKey :: later) →
      ((start task).run earlier).prepare firstKey = .ok (pending, first) →
      (pending.run between).prepare secondKey = .ok (pendingAgain, second) →
      first.key = second.key →
      first = second ∧
        (∃ moment ∈ pending.moments between, moment.Rejects) ∧
        ∀ moment ∈ pending.moments between,
          ¬ moment.Confirms ∧ ¬ moment.MovesFocus) ∧
    (∀ earlier failure between key later request rejected step outcome,
      calls = earlier ++ .reject failure :: (between ++ .prepare key :: later) →
      ((start task).run earlier).confirmation = .pending request →
      ((start task).run earlier).reject failure = .ok rejected →
      (∀ moment ∈ rejected.moments between,
        ¬ moment.Prepares ∧ ¬ moment.MovesFocus) →
      (rejected.run between).activeStep? = some step →
      (rejected.run between).task.resolve step (rejected.run between).inputs =
        .ok outcome →
      request.step = outcome.step →
      request.fieldValues.EqualButZeroSign outcome.fieldValues →
      request.action = outcome.action →
      ∃ pending, (rejected.run between).prepare key = .ok (pending, request)) := by
  refine ⟨?_, ?_, ?_⟩
  · intro earlier key later pending request _ prepared
    exact carries_of_prepare ((InStep.start task).run earlier) prepared
  · intro earlier firstKey between secondKey later pending first pendingAgain second
      shape prepared preparedAgain sameKey
    have upToSecond :
        calls =
          (earlier ++ .prepare firstKey :: (between ++ [.prepare secondKey])) ++
            later := by
      simp [shape]
    rw [upToSecond, drawnKeys_append, List.nodup_append] at fresh
    exact eq_of_key_eq fresh.1 prepared preparedAgain sameKey
  · intro earlier failure between key later request rejected step outcome
      _ awaited rejects undisturbed focus resolved sameStep sameValues sameAction
    have covered : request.covers outcome = true :=
      covers_iff.mpr
        ⟨sameStep, FieldValues.same_of_equalButZeroSign sameValues, sameAction⟩
    exact prepare_after_rejection ((InStep.start task).run earlier) awaited rejects
      undisturbed focus resolved covered

/-- The session in which zero is entered in some spelling. -/
def zeroEntered
    (entry : String)
    (confirmation : Confirmation) :
    WorkSession :=
  ⟨meterReading, { step := some 1, number := some entry }, confirmation⟩

/-- The outcome that records zero with a sign. -/
def zeroOutcome
    (negative : Bool) :
    ResolvedOutcome :=
  ⟨1, ⟨[(numberName, .number (.real (.zero negative)))], by simp⟩, .advance⟩

/-- The request that records the positive zero. -/
def zeroRequest : CompletionRequest :=
  ⟨7, 1, (zeroOutcome false).fieldValues, .advance, "first"⟩

/-- The failure with which the request comes back. -/
def connectionLost : Failure :=
  .reported .collaborator "connection lost"

/-- The positive zero is entered. -/
def enterZero : List SessionCall :=
  [.enter (.number "0.0")]

/-- Its request is rejected, and the negative zero is entered. -/
def enterOtherZero : List SessionCall :=
  [.reject connectionLost, .enter (.number "-0.0")]

/--
The theorem at the run that prepares the positive zero, is rejected, enters the
negative zero and prepares again.
-/
theorem prepared_requests_of_run_zero :
    let first := zeroEntered "0.0" .idle
    let pending := zeroEntered "0.0" (.pending zeroRequest)
    let again := zeroEntered "-0.0" (.failed zeroRequest connectionLost)
    ((start meterReading).drawnKeys
        (enterZero ++ .prepare "first" ::
          (enterOtherZero ++ .prepare "second" :: []))).Nodup ∧
      first.prepare "first" = .ok (pending, zeroRequest) ∧
      again.prepare "second" =
        .ok (zeroEntered "-0.0" (.pending zeroRequest), zeroRequest) ∧
      again.Carries zeroRequest ∧
      (∃ moment ∈ pending.moments enterOtherZero, moment.Rejects) ∧
      ∃ pendingAgain, again.prepare "second" = .ok (pendingAgain, zeroRequest) := by
  intro first pending again
  have fresh :
      ((start meterReading).drawnKeys
        (enterZero ++ .prepare "first" ::
          (enterOtherZero ++ .prepare "second" :: []))).Nodup := by
    decide
  have prepared : first.prepare "first" = .ok (pending, zeroRequest) := rfl
  have preparedAgain :
      again.prepare "second" =
        .ok (zeroEntered "-0.0" (.pending zeroRequest), zeroRequest) :=
    rfl
  have undisturbed :
      ∀ moment ∈
          (zeroEntered "0.0" (.failed zeroRequest connectionLost)).moments
            [.enter (.number "-0.0")],
        ¬ moment.Prepares ∧ ¬ moment.MovesFocus := by
    intro moment member
    cases List.mem_singleton.mp member
    constructor
    · rintro ⟨_, key, isPrepare⟩
      cases isPrepare
    · rintro ⟨_, refreshed, isReplace, _⟩
      cases isReplace
  obtain ⟨carries, sameKeys, reused⟩ := prepared_requests_of_run fresh
  refine ⟨fresh, prepared, preparedAgain, ?_, ?_, ?_⟩
  · exact carries (enterZero ++ .prepare "first" :: enterOtherZero) "second" []
      _ _ rfl preparedAgain
  · exact (sameKeys enterZero "first" enterOtherZero "second" []
      _ _ _ _ rfl prepared preparedAgain rfl).2.1
  · exact reused (enterZero ++ [.prepare "first"]) connectionLost
      [.enter (.number "-0.0")] "second" [] zeroRequest
      (zeroEntered "0.0" (.failed zeroRequest connectionLost)) _ (zeroOutcome true)
      rfl rfl rfl undisturbed rfl rfl rfl
      (.cons ⟨rfl, .inr ⟨_, _, rfl, rfl, rfl, rfl⟩⟩ .nil) rfl

/--
The values of a prepared request need not be exactly those that its session
resolves to: after the positive zero was rejected, the negative zero is
prepared as the positive one.
-/
theorem prepared_values_differ :
    ¬ ∀ (task : FieldTask) (calls : List SessionCall) (key : String)
        (pending : WorkSession) (request : CompletionRequest)
        (step : Step) (outcome : ResolvedOutcome),
        ((start task).drawnKeys (calls ++ [.prepare key])).Nodup →
        ((start task).run calls).prepare key = .ok (pending, request) →
        ((start task).run calls).activeStep? = some step →
        ((start task).run calls).task.resolve step ((start task).run calls).inputs =
          .ok outcome →
        request.step = outcome.step ∧
          request.fieldValues = outcome.fieldValues ∧
          request.action = outcome.action := by
  intro claim
  obtain ⟨_, equal, _⟩ :=
    claim meterReading (enterZero ++ .prepare "first" :: enterOtherZero)
      "second" (zeroEntered "-0.0" (.pending zeroRequest)) zeroRequest _
      (zeroOutcome true) (by decide) rfl rfl rfl
  cases congrArg FieldValues.fields equal

end Fieldwork.WorkSession
