import Mathlib.Data.List.Induction
import Fieldwork.Proofs.Task.Records

namespace Fieldwork

/-!
# Moving a step and setting it back

A forward move uses up one of the moves that the status of a step has left, of
which there are two at most; setting the step back to pending restores them.
The record of a step that began without one tells of the last change that was
not refused and of nothing else.

The changes are also given as programs that work on a step in place, field by
field.
-/

namespace StepStatus

/-- How many forward moves a status has left. -/
def movesLeft :
    StepStatus →
    Nat
  | pending => 2
  | inProgress => 1
  | _ => 0

theorem movesLeft_le
    (status : StepStatus) :
    status.movesLeft ≤ 2 := by
  cases status <;> decide

theorem movesLeft_of_isTerminal
    {status : StepStatus}
    (final : status.isTerminal = true) :
    status.movesLeft = 0 := by
  cases status <;> first | rfl | cases final

/-- A step is moved forward to be in progress, or from there to a final status. -/
theorem canMoveTo_iff
    {status next : StepStatus} :
    status.canMoveTo next = true ↔
      status = .pending ∧ next = .inProgress ∨
        status = .inProgress ∧ next.isTerminal = true := by
  cases status <;> cases next <;> decide

end StepStatus

/-- A change to a step: a forward move, or setting it back to pending. -/
inductive StepEdit where
  | move (next : StepStatus) (time : Timestamp) (performer : Option String)
  | reopen
  deriving DecidableEq, Repr

/-- Whether a change is a forward move. -/
def StepEdit.IsMove :
    StepEdit →
    Prop
  | .move _ _ _ => True
  | .reopen => False

instance : DecidablePred StepEdit.IsMove
  | .move _ _ _ => .isTrue trivial
  | .reopen => .isFalse id

namespace StepEdit

/-- A change as a program on a step in place, which changes its record field by field. -/
def inPlace :
    StepEdit →
    EStateM TaskFault Step Unit
  | .move next time performer => do
      let step ← get
      if step.status.canMoveTo next then
        modify fun step => step.withRecord { step.record with status := next }
        if next.isTerminal then
          modify fun step => step.withRecord { step.record with completedAt := some time }
          modify fun step => step.withRecord { step.record with performedBy := performer }
      else
        throw (.forbiddenMove step.id step.status next)
  | .reopen => do
      modify fun step => step.withRecord { step.record with status := .pending }
      modify fun step => step.withRecord { step.record with completedAt := none }
      modify fun step => step.withRecord { step.record with performedBy := none }

end StepEdit

namespace Step

variable {step changed : Step} {next : StepStatus} {time : Timestamp}
  {performer : Option String} {record : StepRecord} {edit : StepEdit} {fault : TaskFault}

/-! ## One change -/

/-- What a forward move does to a record, and when it is not refused. -/
theorem moveTo_eq_ok_iff :
    step.moveTo next time performer = .ok record ↔
      step.status = .pending ∧ next = .inProgress ∧
          record = { step.record with status := .inProgress } ∨
        step.status = .inProgress ∧ next.isTerminal = true ∧
          record = ⟨next, some time, performer⟩ := by
  unfold moveTo
  by_cases allowed : step.status.canMoveTo next = true
  · rcases StepStatus.canMoveTo_iff.mp allowed with ⟨pending, rfl⟩ | ⟨begun, final⟩
    · rw [if_pos allowed, if_neg (by decide), Except.ok.injEq]
      constructor
      · rintro rfl
        exact .inl ⟨pending, rfl, rfl⟩
      · rintro (⟨_, _, rfl⟩ | ⟨_, final, _⟩)
        · rfl
        · cases final
    · rw [if_pos allowed, if_pos final, Except.ok.injEq]
      constructor
      · rintro rfl
        exact .inr ⟨begun, final, rfl⟩
      · rintro (⟨pending, _, _⟩ | ⟨_, _, rfl⟩)
        · cases begun.symm.trans pending
        · rfl
  · have refused := mt StepStatus.canMoveTo_iff.mpr allowed
    simp only [allowed, Bool.false_eq_true, ↓reduceIte, reduceCtorEq, false_iff]
    rintro (⟨pending, starts, _⟩ | ⟨begun, final, _⟩)
    · exact refused (.inl ⟨pending, starts⟩)
    · exact refused (.inr ⟨begun, final⟩)

/-- A forward move is refused only for where it leads from and to. -/
theorem moveTo_error
    (refused : step.moveTo next time performer = .error fault) :
    fault = .forbiddenMove step.id step.status next := by
  unfold moveTo at refused
  split at refused
  · split at refused <;> cases refused
  · cases refused
    rfl

/-- A step after a change that is not refused. -/
def attempt
    (step : Step) :
    StepEdit →
    Except TaskFault Step
  | .move next time performer => (step.moveTo next time performer).map step.withRecord
  | .reopen => .ok (step.withRecord reopened)

/-- A step after a change, which is as it was where the change is refused. -/
def perform
    (step : Step)
    (edit : StepEdit) :
    Step :=
  match step.attempt edit with
  | .ok changed => changed
  | .error _ => step

theorem perform_of_ok
    (succeeds : step.attempt edit = .ok changed) :
    step.perform edit = changed := by
  rw [perform, succeeds]

theorem perform_of_error
    (refused : step.attempt edit = .error fault) :
    step.perform edit = step := by
  rw [perform, refused]

/-- What a change that is not refused leaves behind, and when it is not refused. -/
inductive Effect
    (step : Step) :
    StepEdit →
    Step →
    Prop where
  | begin
      {time : Timestamp}
      {performer : Option String}
      (pending : step.status = .pending) :
      Effect step (.move .inProgress time performer)
        (step.withRecord { step.record with status := .inProgress })
  | finish
      {next : StepStatus}
      {time : Timestamp}
      {performer : Option String}
      (begun : step.status = .inProgress)
      (final : next.isTerminal = true) :
      Effect step (.move next time performer) (step.withRecord ⟨next, some time, performer⟩)
  | reopen :
      Effect step .reopen (step.withRecord reopened)

theorem effect_of_attempt
    (succeeds : step.attempt edit = .ok changed) :
    step.Effect edit changed := by
  cases edit with
  | move next time performer =>
      obtain ⟨record, moves, rfl⟩ := Except.map_eq_ok_iff.mp succeeds
      rcases moveTo_eq_ok_iff.mp moves with ⟨pending, rfl, rfl⟩ | ⟨begun, final, rfl⟩
      · exact .begin pending
      · exact .finish begun final
  | reopen =>
      cases succeeds
      exact .reopen

/-- A change that is refused is a forward move, and its failure says from where to where. -/
theorem attempt_error
    (refused : step.attempt edit = .error fault) :
    ∃ next time performer,
      edit = .move next time performer ∧
        fault = .forbiddenMove step.id step.status next := by
  cases edit with
  | move next time performer =>
      exact ⟨next, time, performer, rfl, moveTo_error (Except.map_eq_error_iff.mp refused)⟩
  | reopen =>
      cases refused

/-- In place, a change comes to the same, and where it is refused the step is as it was. -/
theorem run_inPlace
    (step : Step)
    (edit : StepEdit) :
    edit.inPlace.run step =
      match step.attempt edit with
      | .ok changed => .ok () changed
      | .error fault => .error fault step := by
  cases edit with
  | move next time performer =>
      rw [StepEdit.inPlace, EStateM.run_bind, EStateM.run_get, attempt, moveTo]
      by_cases allowed : step.status.canMoveTo next = true
      · by_cases final : next.isTerminal = true <;> simp [allowed, final, Except.map]
      · simp [allowed, Except.map]
  | reopen =>
      rfl

/-! ## Runs of changes -/

/-- A step after changes, one after the other. -/
def run
    (step : Step)
    (edits : List StepEdit) :
    Step :=
  edits.foldl perform step

/-- The changes of a run that are not refused. -/
def accepted
    (step : Step) :
    List StepEdit →
    List StepEdit
  | [] => []
  | edit :: rest =>
      match step.attempt edit with
      | .ok changed => edit :: changed.accepted rest
      | .error _ => step.accepted rest

@[simp] theorem run_nil
    (step : Step) :
    step.run [] = step :=
  rfl

@[simp] theorem run_cons
    (step : Step)
    (edit : StepEdit)
    (rest : List StepEdit) :
    step.run (edit :: rest) = (step.perform edit).run rest :=
  rfl

theorem run_append
    (step : Step)
    (earlier later : List StepEdit) :
    step.run (earlier ++ later) = (step.run earlier).run later := by
  rw [run, run, run, List.foldl_append]

theorem accepted_cons_of_ok
    {rest : List StepEdit}
    (succeeds : step.attempt edit = .ok changed) :
    step.accepted (edit :: rest) = edit :: changed.accepted rest := by
  rw [accepted, succeeds]

theorem accepted_cons_of_error
    {rest : List StepEdit}
    (refused : step.attempt edit = .error fault) :
    step.accepted (edit :: rest) = step.accepted rest := by
  rw [accepted, refused]

theorem accepted_append
    (step : Step)
    (earlier later : List StepEdit) :
    step.accepted (earlier ++ later) =
      step.accepted earlier ++ (step.run earlier).accepted later := by
  induction earlier generalizing step with
  | nil =>
      rfl
  | cons edit rest inductionHypothesis =>
      rw [List.cons_append, run_cons]
      cases attempted : step.attempt edit with
      | ok changed =>
          rw [accepted_cons_of_ok attempted, accepted_cons_of_ok attempted,
            perform_of_ok attempted, inductionHypothesis]
          rfl
      | error fault =>
          rw [accepted_cons_of_error attempted, accepted_cons_of_error attempted,
            perform_of_error attempted, inductionHypothesis]

/-- The step that a change in place leaves behind, whether it is refused or not. -/
def performInPlace
    (step : Step)
    (edit : StepEdit) :
    Step :=
  match edit.inPlace.run step with
  | .ok _ left => left
  | .error _ left => left

theorem performInPlace_eq
    (step : Step)
    (edit : StepEdit) :
    step.performInPlace edit = step.perform edit := by
  rw [performInPlace, run_inPlace, perform]
  cases step.attempt edit <;> rfl

/-- A run of changes in place is the run of the changes. -/
theorem foldl_performInPlace
    (step : Step)
    (edits : List StepEdit) :
    edits.foldl performInPlace step = step.run edits := by
  have same : performInPlace = perform := funext₂ performInPlace_eq
  rw [same, run]

/-! ## Forward moves -/

/-- A forward move that is not refused uses up one of the moves that are left. -/
theorem movesLeft_of_move
    (changes : step.Effect edit changed)
    (moves : edit.IsMove) :
    changed.status.movesLeft + 1 = step.status.movesLeft := by
  cases changes with
  | begin pending =>
      rw [pending]
      rfl
  | finish begun final =>
      rw [begun, status_withRecord, StepStatus.movesLeft_of_isTerminal final]
      rfl
  | reopen =>
      exact moves.elim

/-- A run of forward moves uses up one move for each of them that is not refused. -/
theorem length_accepted_add_movesLeft
    (step : Step)
    {edits : List StepEdit}
    (onlyMoves : ∀ edit ∈ edits, edit.IsMove) :
    (step.accepted edits).length + (step.run edits).status.movesLeft =
      step.status.movesLeft := by
  induction edits generalizing step with
  | nil =>
      exact Nat.zero_add _
  | cons edit rest inductionHypothesis =>
      obtain ⟨moves, restMoves⟩ := List.forall_mem_cons.mp onlyMoves
      rw [run_cons]
      cases attempted : step.attempt edit with
      | ok changed =>
          have usesUp := movesLeft_of_move (effect_of_attempt attempted) moves
          have later := inductionHypothesis changed restMoves
          rw [accepted_cons_of_ok attempted, perform_of_ok attempted, List.length_cons]
          omega
      | error fault =>
          rw [accepted_cons_of_error attempted, perform_of_error attempted]
          exact inductionHypothesis step restMoves

/-- Where no move is left, forward moves leave a step as it is. -/
theorem run_of_noMovesLeft
    {edits : List StepEdit}
    (noneLeft : step.status.movesLeft = 0)
    (onlyMoves : ∀ edit ∈ edits, edit.IsMove) :
    step.run edits = step := by
  induction edits with
  | nil =>
      rfl
  | cons edit rest inductionHypothesis =>
      obtain ⟨moves, restMoves⟩ := List.forall_mem_cons.mp onlyMoves
      rw [run_cons]
      cases attempted : step.attempt edit with
      | ok changed =>
          have usesUp := movesLeft_of_move (effect_of_attempt attempted) moves
          omega
      | error fault =>
          rw [perform_of_error attempted]
          exact inductionHypothesis restMoves

/-! ## Records -/

/--
What the record of a step tells, by the last change that was not refused, if
there was any: that it is pending, that it was begun, or how, when and by whom
it was finished.
-/
inductive Tells :
    Option StepEdit →
    StepRecord →
    Prop where
  | untouched :
      Tells none {}
  | begun
      (time : Timestamp)
      (performer : Option String) :
      Tells (some (.move .inProgress time performer)) { status := .inProgress }
  | finished
      {next : StepStatus}
      (time : Timestamp)
      (performer : Option String)
      (final : next.isTerminal = true) :
      Tells (some (.move next time performer)) ⟨next, some time, performer⟩
  | reopened :
      Tells (some .reopen) {}

variable {last : Option StepEdit}

/-- A record that tells of a pending step is blank. -/
theorem Tells.eq_blank_of_pending
    (tells : Tells last record)
    (pending : record.status = .pending) :
    record = {} := by
  cases tells with
  | untouched => rfl
  | begun time performer => cases pending
  | finished time performer final =>
      cases (show _ = StepStatus.pending from pending)
      cases final
  | reopened => rfl

/-- A change that is not refused is what the record tells of then. -/
theorem Tells.effect
    (tells : Tells last step.record)
    (changes : step.Effect edit changed) :
    Tells (some edit) changed.record := by
  cases changes with
  | begin pending =>
      rw [record_withRecord, tells.eq_blank_of_pending pending]
      exact .begun _ _
  | finish begun final =>
      exact .finished _ _ final
  | reopen =>
      exact .reopened

/-- The record of a step that began without one tells of the last change that was not refused. -/
theorem tells_run
    (blank : step.record = {})
    (edits : List StepEdit) :
    Tells (step.accepted edits).getLast? (step.run edits).record := by
  induction edits using List.reverseRecOn with
  | nil =>
      rw [run_nil, blank]
      exact .untouched
  | append_singleton earlier edit inductionHypothesis =>
      rw [accepted_append, run_append, run_cons, run_nil]
      cases attempted : (step.run earlier).attempt edit with
      | ok changed =>
          rw [accepted_cons_of_ok attempted, perform_of_ok attempted, accepted,
            List.getLast?_concat]
          exact inductionHypothesis.effect (effect_of_attempt attempted)
      | error fault =>
          rw [accepted_cons_of_error attempted, perform_of_error attempted, accepted,
            List.append_nil]
          exact inductionHypothesis

/-- Only a final status has a time, and only with it there is a performer. -/
theorem Tells.isSome_iff
    (tells : Tells last record) :
    (record.completedAt.isSome = true ↔ record.status.isTerminal = true) ∧
      (record.performedBy.isSome = true → record.status.isTerminal = true) := by
  cases tells with
  | untouched => decide
  | begun time performer => exact ⟨by decide, by decide⟩
  | finished time performer final => exact ⟨⟨fun _ => final, fun _ => rfl⟩, fun _ => final⟩
  | reopened => decide

/-- A final status was reached by the last change, which was a move, and tells of it. -/
theorem Tells.of_isTerminal
    (tells : Tells last record)
    (final : record.status.isTerminal = true) :
    ∃ time performer,
      last = some (.move record.status time performer) ∧
        record.completedAt = some time ∧ record.performedBy = performer := by
  cases tells with
  | untouched => cases final
  | begun time performer => cases final
  | finished time performer isFinal => exact ⟨time, performer, rfl, rfl, rfl⟩
  | reopened => cases final

/--
Of any forward moves, made on a step one after the other, two succeed at most.
A move that is refused is a conflict and leaves the step as it was, also in
place; and once the status is final, nothing of the step changes any more.

Take a step that is pending and has neither a time nor a performer, and let it
be moved and set back in any order.  It has a time exactly while its status is
final, a performer only then, and both are those of the last move that
succeeded, which led to this status.
-/
theorem records_follow_moves
    (step : Step)
    (edits : List StepEdit) :
    edits.foldl performInPlace step = step.run edits ∧
      (∀ earlier edit later fault,
        edits = earlier ++ edit :: later →
        (step.run earlier).attempt edit = .error fault →
        edit.IsMove ∧ fault.kind = .conflict ∧
          edit.inPlace.run (step.run earlier) = .error fault (step.run earlier)) ∧
      ((∀ edit ∈ edits, edit.IsMove) →
        (step.accepted edits).length ≤ 2 ∧
          ∀ earlier later,
            edits = earlier ++ later →
            (step.run earlier).status.isTerminal = true →
            step.run edits = step.run earlier) ∧
      (step.status = .pending → step.record.completedAt = none →
        step.record.performedBy = none →
        let record := (step.run edits).record
        (record.completedAt.isSome = true ↔ record.status.isTerminal = true) ∧
          (record.performedBy.isSome = true → record.status.isTerminal = true) ∧
          (record.status.isTerminal = true →
            ∃ time performer,
              (step.accepted edits).getLast? = some (.move record.status time performer) ∧
                record.completedAt = some time ∧ record.performedBy = performer)) := by
  refine ⟨foldl_performInPlace step edits, ?_, ?_, ?_⟩
  · rintro earlier edit later fault rfl refused
    obtain ⟨next, time, performer, rfl, rfl⟩ := attempt_error refused
    refine ⟨trivial, rfl, ?_⟩
    rw [run_inPlace, refused]
  · intro onlyMoves
    have used := length_accepted_add_movesLeft step onlyMoves
    have most := step.status.movesLeft_le
    refine ⟨by omega, ?_⟩
    rintro earlier later rfl final
    rw [run_append]
    refine run_of_noMovesLeft (StepStatus.movesLeft_of_isTerminal final) fun edit member => ?_
    exact onlyMoves edit (List.mem_append_right earlier member)
  · intro pending noTime noPerformer record
    have blank : step.record = {} := by
      rcases step with ⟨plan, status, time, performer⟩
      cases pending
      cases noTime
      cases noPerformer
      rfl
    have tells := tells_run blank edits
    exact ⟨tells.isSome_iff.1, tells.isSome_iff.2, tells.of_isTerminal⟩

def closing : Step :=
  Step.plain 1 1 "Shut the hatch" (by decide)

/-- So many minutes after midnight on the first of January. -/
def minute
    (count : Nat) :
    Timestamp :=
  ⟨⟨2024, 1, 1⟩, 60 * count, 0⟩

/-- The hatch is shut too soon, then begun on, found stuck, and shut too late. -/
def foundStuck : List StepEdit :=
  [.move .completed (minute 1) (some "Ada"), .move .inProgress (minute 2) (some "Ada"),
    .move .failed (minute 3) (some "Ada"), .move .completed (minute 4) (some "Bo")]

/-- It is set back and skipped, by nobody in particular. -/
def skippedThen : List StepEdit :=
  foundStuck ++ [.reopen, .move .inProgress (minute 5) (some "Bo"), .move .skipped (minute 6) none]

/-- Two of the four moves succeed, and in the end the step was skipped by nobody. -/
theorem records_follow_moves_closing :
    (∀ edit ∈ foundStuck, edit.IsMove) ∧
      (closing.accepted foundStuck).length = 2 ∧
      (closing.run foundStuck).record = ⟨.failed, some (minute 3), some "Ada"⟩ ∧
      closing.run foundStuck = closing.run (foundStuck.take 3) ∧
      (StepEdit.move .completed (minute 1) (some "Ada")).inPlace.run closing =
        .error (.forbiddenMove 1 .pending .completed) closing ∧
      ∃ time performer,
        (closing.accepted skippedThen).getLast? = some (.move .skipped time performer) ∧
          (closing.run skippedThen).record = ⟨.skipped, some time, performer⟩ := by
  have onlyMoves : ∀ edit ∈ foundStuck, edit.IsMove := by decide
  obtain ⟨-, refuses, ofMoves, -⟩ := records_follow_moves closing foundStuck
  obtain ⟨-, -, -, ofRecord⟩ := records_follow_moves closing skippedThen
  have unchanged := (ofMoves onlyMoves).2 (foundStuck.take 3) (foundStuck.drop 3) rfl rfl
  have refused := (refuses [] _ _ (.forbiddenMove 1 .pending .completed) rfl rfl).2.2
  obtain ⟨-, -, last⟩ := ofRecord rfl rfl rfl
  obtain ⟨time, performer, isLast, atTime, byPerformer⟩ := last rfl
  refine ⟨onlyMoves, rfl, rfl, unchanged, refused, time, performer, isLast, ?_⟩
  rw [← byPerformer, ← atTime]
  rfl

end Step

end Fieldwork
