import Fieldwork.Proofs.Drawing
import Fieldwork.Proofs.Session.Calls

namespace Fieldwork

/-!
# What happens in a run of calls

A run is followed call by call: which keys it draws, and which of its calls
succeed in the sessions that they meet.
-/

namespace WorkSession

/-- The key that a call draws: a completion that is prepared anew draws one. -/
def drawnKey?
    (session : WorkSession) :
    SessionCall →
    Option String
  | .prepare key =>
      match session.resolution with
      | .ok outcome => if session.repeats outcome then none else some key
      | .error _ => none
  | _ => none

/-- The keys that a run of calls draws, in the order of their drawing. -/
def drawnKeys
    (session : WorkSession)
    (calls : List SessionCall) :
    List String :=
  drawnAlong perform drawnKey? session calls

theorem drawnKeys_cons
    (session : WorkSession)
    (call : SessionCall)
    (calls : List SessionCall) :
    session.drawnKeys (call :: calls) =
      (session.drawnKey? call).toList ++ (session.perform call).drawnKeys calls :=
  rfl

theorem drawnKeys_append
    (session : WorkSession)
    (earlier later : List SessionCall) :
    session.drawnKeys (earlier ++ later) =
      session.drawnKeys earlier ++ (session.run earlier).drawnKeys later :=
  drawnAlong_append perform drawnKey? session earlier later

end WorkSession

/-- A call in a run, with the session that it meets. -/
structure SessionMoment where
  session : WorkSession
  call : SessionCall

namespace SessionMoment

/-- The call of a moment succeeds. -/
def Succeeds
    (moment : SessionMoment) :
    Prop :=
  ∃ changed, moment.session.attempt moment.call = .ok changed

/-- A completion is prepared. -/
def Prepares
    (moment : SessionMoment) :
    Prop :=
  moment.Succeeds ∧ ∃ key, moment.call = .prepare key

/-- A completion is confirmed. -/
def Confirms
    (moment : SessionMoment) :
    Prop :=
  moment.Succeeds ∧ ∃ refreshed, moment.call = .confirm refreshed

/-- A completion is rejected. -/
def Rejects
    (moment : SessionMoment) :
    Prop :=
  moment.Succeeds ∧ ∃ failure, moment.call = .reject failure

/-- A fresh copy of the task brings another step into focus. -/
def MovesFocus
    (moment : SessionMoment) :
    Prop :=
  moment.Succeeds ∧
    ∃ refreshed,
      moment.call = .replaceTask refreshed ∧
        WorkSession.activeId refreshed ≠ WorkSession.activeId moment.session.task

end SessionMoment

namespace WorkSession

/-- The moments of a run of calls. -/
def moments
    (session : WorkSession) :
    List SessionCall →
    List SessionMoment
  | [] => []
  | call :: rest => ⟨session, call⟩ :: (session.perform call).moments rest

/-- A moment of a run has calls before it and calls behind it. -/
theorem mem_moments_iff
    {session : WorkSession}
    {calls : List SessionCall}
    {moment : SessionMoment} :
    moment ∈ session.moments calls ↔
      ∃ earlier later,
        calls = earlier ++ moment.call :: later ∧
          moment.session = session.run earlier := by
  induction calls generalizing session with
  | nil =>
      simp [moments]
  | cons call rest inductionHypothesis =>
      rw [moments, List.mem_cons, inductionHypothesis]
      constructor
      · rintro (rfl | ⟨earlier, later, rfl, met⟩)
        · exact ⟨[], rest, rfl, rfl⟩
        · exact ⟨call :: earlier, later, rfl, met⟩
      · rintro ⟨earlier, later, shape, met⟩
        cases earlier with
        | nil =>
            obtain ⟨rfl, rfl⟩ := List.cons.inj shape
            left
            cases moment
            cases met
            rfl
        | cons first earlier =>
            obtain ⟨rfl, rfl⟩ := List.cons.inj shape
            exact .inr ⟨earlier, later, rfl, met⟩

end WorkSession

end Fieldwork
