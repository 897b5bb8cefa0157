import Fieldwork.Proofs.Task.Focus

namespace Fieldwork

/-!
# Tasks that are worked on in sequence

A task whose steps all start pending is at every time cut in two: the steps
before some place are resolved, and those from there on are pending.  The place
is the step in focus.
-/

/-- A final status leaves nothing to be worked on. -/
theorem StepStatus.settled_of_isTerminal
    {status : StepStatus}
    (final : status.isTerminal = true) :
    status ≠ .pending ∧ status ≠ .inProgress := by
  cases status <;> cases final <;> decide

namespace FieldTask

/-- The steps are a block of resolved ones and behind it a block of pending ones. -/
def InSequence
    (task : FieldTask) :
    Prop :=
  ∃ resolved pending,
    task.steps = resolved ++ pending ∧
      (∀ step ∈ resolved, step.status.isTerminal = true) ∧
      ∀ step ∈ pending, step.status = .pending

/--
The steps before a place are resolved and the others are pending.  A place is
the plan of a step, or nothing where all steps are resolved.
-/
def StandsAt
    (task : FieldTask) :
    Option StepPlan →
    Prop
  | none => ∀ step ∈ task.steps, step.status.isTerminal = true
  | some plan =>
      (∃ step ∈ task.steps, step.plan = plan) ∧
        (∀ step ∈ task.steps, step.order < plan.order → step.status.isTerminal = true) ∧
        ∀ step ∈ task.steps, plan.order ≤ step.order → step.status = .pending

/-- The plan of the step in focus. -/
def focusPlan?
    (task : FieldTask) :
    Option StepPlan :=
  task.activeStep?.map Step.plan

variable {task : FieldTask}

theorem inSequence_of_pending
    (allPending : ∀ step ∈ task.steps, step.status = .pending) :
    task.InSequence :=
  ⟨[], task.steps, rfl, by simp, allPending⟩

/-- A task in sequence stands at its step in focus. -/
theorem InSequence.standsAt
    (sequence : task.InSequence) :
    task.StandsAt task.focusPlan? := by
  obtain ⟨resolved, pending, shape, allResolved, allPending⟩ := sequence
  unfold focusPlan?
  cases pending with
  | nil =>
      rw [List.append_nil] at shape
      have noFocus : task.activeStep? = none := by
        rw [activeStep?_eq_none_iff, shape]
        intro step member
        exact StepStatus.settled_of_isTerminal (allResolved step member)
      rw [noFocus]
      intro step member
      exact allResolved step (shape ▸ member)
  | cons step rest =>
      have ascending := task.ascending
      rw [shape, List.pairwise_append, List.pairwise_cons] at ascending
      obtain ⟨_, ⟨stepFirst, _⟩, resolvedFirst⟩ := ascending
      have earlier :
          ∀ other ∈ task.steps, other.order < step.order → other ∈ resolved := by
        intro other member before
        rcases List.mem_append.mp (shape ▸ member) with inResolved | inPending
        · exact inResolved
        · rcases List.mem_cons.mp inPending with rfl | inRest
          · exact (Int32.lt_irrefl before).elim
          · exact (Int32.lt_asymm before (stepFirst other inRest)).elim
      have inTask : step ∈ task.steps := by
        rw [shape]
        simp
      have focus : task.activeStep? = some step := by
        refine activeStep?_of_pending inTask (allPending step (by simp)) ?_
        intro other member before
        exact (StepStatus.settled_of_isTerminal
          (allResolved other (earlier other member before))).1
      rw [focus]
      refine ⟨⟨step, inTask, rfl⟩, ?_, ?_⟩
      · intro other member before
        exact allResolved other (earlier other member before)
      · intro other member notBefore
        rcases List.mem_append.mp (shape ▸ member) with inResolved | inPending
        · have before := resolvedFirst other inResolved step (by simp)
          exact (Int32.lt_irrefl (Int32.lt_of_lt_of_le before notBefore)).elim
        · exact allPending other inPending

namespace StandsAt

variable {place : Option StepPlan}

/-- The place at which a task stands is its step in focus. -/
theorem focusPlan?_eq
    (stands : task.StandsAt place) :
    task.focusPlan? = place := by
  unfold focusPlan?
  cases place with
  | none =>
      have noFocus : task.activeStep? = none := by
        rw [activeStep?_eq_none_iff]
        intro step member
        exact StepStatus.settled_of_isTerminal (stands step member)
      rw [noFocus]
      rfl
  | some plan =>
      obtain ⟨⟨step, member, rfl⟩, resolved, pending⟩ := stands
      have focus : task.activeStep? = some step := by
        refine activeStep?_of_pending member
          (pending step member (Int32.le_refl step.order)) ?_
        intro other inTask before
        exact (StepStatus.settled_of_isTerminal (resolved other inTask before)).1
      rw [focus]
      rfl

/-- A task that stands at a place is in sequence. -/
theorem inSequence
    (stands : task.StandsAt place) :
    task.InSequence := by
  cases place with
  | none =>
      exact ⟨task.steps, [], by simp, stands, by simp⟩
  | some plan =>
      obtain ⟨⟨step, member, rfl⟩, resolved, pending⟩ := stands
      obtain ⟨earlier, later, shape⟩ := List.append_of_mem member
      have ascending := task.ascending
      rw [shape, List.pairwise_append, List.pairwise_cons] at ascending
      obtain ⟨_, ⟨stepFirst, _⟩, earlierFirst⟩ := ascending
      refine ⟨earlier, step :: later, shape, ?_, ?_⟩
      · intro other inEarlier
        refine resolved other (shape ▸ List.mem_append_left _ inEarlier) ?_
        exact earlierFirst other inEarlier step (by simp)
      · intro other inRest
        refine pending other (shape ▸ List.mem_append_right _ inRest) ?_
        rcases List.mem_cons.mp inRest with rfl | inLater
        · exact Int32.le_refl other.order
        · exact Int32.le_of_lt (stepFirst other inLater)

/-- A task that stands somewhere is not stalled, and it is complete at its end. -/
theorem progress_eq
    (stands : task.StandsAt place) :
    task.progress =
      match place with
      | none => .complete
      | some plan => .active plan.id := by
  have focus := stands.focusPlan?_eq
  unfold focusPlan? at focus
  unfold progress
  cases place with
  | none =>
      have allResolved : task.isTerminal = true :=
        List.all_eq_true.mpr stands
      simp [Option.map_eq_none_iff.mp focus, allResolved]
  | some plan =>
      obtain ⟨step, found, rfl⟩ := Option.map_eq_some_iff.mp focus
      simp [found, Step.id]

end StandsAt

end FieldTask

end Fieldwork
