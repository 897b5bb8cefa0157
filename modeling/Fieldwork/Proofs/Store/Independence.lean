import Mathlib.Data.List.Forall2
import Fieldwork.Proofs.Store.Journal
import Fieldwork.Proofs.Store.Order

namespace Fieldwork

/-!
# Tasks of a store are independent

All tasks of a store share its log, in which a call looks for its key.  Calls with
distinct keys never find the key of one another there, so what a call is answered
depends on its own task alone, and so does what becomes of the task: of a run of
calls, a task takes notice of those for itself and of no others.

Tasks are compared through a view of them, which is the task without the times
that it notes where the runs take place at different times, and else the task.
-/

namespace TaskStore

/-- What is answered to a call: nothing where it succeeds, and else why it fails. -/
def answer
    (store : TaskStore)
    (call : StoreCall) :
    Except Failure Unit :=
  (store.complete call.request call.time).map fun _ => ()

/-- The requests of a run with what is answered to them. -/
def answered
    (store : TaskStore) :
    List StoreCall →
    List (CompletionRequest × Except Failure Unit)
  | [] => []
  | call :: rest => (call.request, store.answer call) :: (store.perform call).answered rest

variable {store store' : TaskStore} {call call' : StoreCall} {id : Int64} {α : Type}
  {view : FieldTask → α}

/-- A call adds no key to the log but its own. -/
theorem mem_keys_perform_iff
    {key : String}
    (other : key ≠ call.request.key) :
    key ∈ (store.perform call).keys ↔ key ∈ store.keys := by
  rcases perform_cases store call with ⟨same, _⟩ | ⟨_, _, task, updated, _, _, recorded⟩
  · rw [same]
  · rw [recorded, keys_recorded]
    simp [other]

/-- Two calls with one request, which does alike with tasks that look alike. -/
structure Twins
    (view : FieldTask → α)
    (call call' : StoreCall) :
    Prop where
  sameRequest : call.request = call'.request
  alikeEffect :
    ∀ task task' performer,
      view task = view task' →
      (call.request.applyTo task call.time performer).map view =
        (call.request.applyTo task' call'.time performer).map view

theorem Twins.refl
    (call : StoreCall) :
    Twins (fun task => task) call call :=
  ⟨rfl, fun _ _ _ same => same ▸ rfl⟩

/-- Without the times that tasks note, calls are twins whenever they come. -/
theorem Twins.ofRequests
    (sameRequest : call.request = call'.request) :
    Twins FieldTask.timeless call call' :=
  ⟨sameRequest, fun _ _ performer alike =>
    call.request.timeless_applyTo alike call.time call'.time performer⟩

/-- Two stores hold a task alike, or neither holds it, and note one performer. -/
structure AlikeAt
    (view : FieldTask → α)
    (id : Int64)
    (store store' : TaskStore) :
    Prop where
  samePerformer : store.performer = store'.performer
  alikeTask : (store.task? id).map view = (store'.task? id).map view

namespace AlikeAt

theorem refl
    (view : FieldTask → α)
    (id : Int64)
    (store : TaskStore) :
    AlikeAt view id store store :=
  ⟨rfl, rfl⟩

/-- A task takes no notice of a call for another task. -/
theorem performOther
    (alike : AlikeAt view id store store')
    (other : call.request.task ≠ id) :
    AlikeAt view id (store.perform call) store' := by
  rcases perform_cases store call with
    ⟨same, _⟩ | ⟨_, _, task, updated, held, applied, recorded⟩
  · rw [same]
    exact alike
  · have updatedId : updated.id = call.request.task :=
      (CompletionRequest.plans_of_applyTo applied).1.trans (id_of_task? held)
    rw [recorded]
    refine ⟨alike.samePerformer, ?_⟩
    rw [task?_recorded, if_neg (updatedId ▸ other)]
    exact alike.alikeTask

/--
Stores that hold a task alike answer twin calls for it alike, and hold it alike
afterwards, if the key is in both logs or in none.
-/
theorem complete_cases
    (alike : AlikeAt view id store store')
    (twins : Twins view call call')
    (ofTask : call.request.task = id)
    (sameKeys : call.request.key ∈ store.keys ↔ call.request.key ∈ store'.keys) :
    (∃ failure,
        store.complete call.request call.time = .error failure ∧
          store'.complete call.request call'.time = .error failure) ∨
      ∃ after after',
        store.complete call.request call.time = .ok after ∧
          store'.complete call.request call'.time = .ok after' ∧
          AlikeAt view id after after' := by
  by_cases known : call.request.key ∈ store.keys
  · exact .inr ⟨store, store', complete_of_mem_keys call.time known,
      complete_of_mem_keys call'.time (sameKeys.mp known), alike⟩
  · have unknown' : call.request.key ∉ store'.keys := mt sameKeys.mpr known
    have sameHeld := alike.alikeTask
    rw [← ofTask] at sameHeld
    cases held : store.task? call.request.task with
    | none =>
        rw [held] at sameHeld
        have missing' : store'.task? call.request.task = none :=
          Option.map_eq_none_iff.mp sameHeld.symm
        exact .inl ⟨_, complete_of_missing known held, complete_of_missing unknown' missing'⟩
    | some task =>
        rw [held] at sameHeld
        obtain ⟨task', held', alikeTask⟩ := Option.map_eq_some_iff.mp sameHeld.symm
        rw [complete_of_held known held, complete_of_held unknown' held', ← alike.samePerformer]
        rcases Except.cases_of_map_eq_map
            (twins.alikeEffect task task' store.performer alikeTask.symm) with
          ⟨failure, failed, failed'⟩ | ⟨updated, updated', applied, applied', alikeUpdated⟩
        · rw [failed, failed']
          exact .inl ⟨failure, rfl, rfl⟩
        · rw [applied, applied']
          refine .inr ⟨_, _, rfl, rfl, alike.samePerformer, ?_⟩
          have updatedId : updated.id = id :=
            ((CompletionRequest.plans_of_applyTo applied).1.trans (id_of_task? held)).trans ofTask
          have updatedId' : updated'.id = id :=
            ((CompletionRequest.plans_of_applyTo applied').1.trans (id_of_task? held')).trans ofTask
          rw [task?_recorded, task?_recorded, if_pos updatedId, if_pos updatedId']
          exact congrArg some alikeUpdated

/-- Twin calls for a task are answered alike by stores that hold it alike, which go on so. -/
theorem performOwn
    (alike : AlikeAt view id store store')
    (twins : Twins view call call')
    (ofTask : call.request.task = id)
    (sameKeys : call.request.key ∈ store.keys ↔ call.request.key ∈ store'.keys) :
    store.answer call = store'.answer call' ∧
      AlikeAt view id (store.perform call) (store'.perform call') := by
  unfold answer perform
  rw [← twins.sameRequest]
  rcases alike.complete_cases twins ofTask sameKeys with
    ⟨failure, failed, failed'⟩ | ⟨after, after', completed, completed', alikeAfter⟩
  · rw [failed, failed']
    exact ⟨rfl, alike⟩
  · rw [completed, completed']
    exact ⟨rfl, alikeAfter⟩

/--
What a task takes notice of in a run is the calls for it: they are answered, and
the task ends, as if no others had been made.
-/
theorem run
    {calls own : List StoreCall}
    (alike : AlikeAt view id store store')
    (isOwn :
      List.Forall₂ (Twins view) (calls.filter fun call => call.request.task = id) own)
    (distinct : (calls.map fun call => call.request.key).Nodup)
    (sameKeys :
      ∀ call ∈ calls, call.request.key ∈ store.keys ↔ call.request.key ∈ store'.keys) :
    ((store.answered calls).filter fun answer => answer.1.task = id) =
        store'.answered own ∧
      AlikeAt view id (store.run calls) (store'.run own) := by
  induction calls generalizing store store' own with
  | nil =>
      cases isOwn
      exact ⟨rfl, alike⟩
  | cons call rest inductionHypothesis =>
      rw [List.map_cons, List.nodup_cons] at distinct
      obtain ⟨fresh, distinctRest⟩ := distinct
      have otherKey : ∀ later ∈ rest, later.request.key ≠ call.request.key := by
        intro later member same
        exact fresh (List.mem_map.mpr ⟨later, member, same⟩)
      have restKeys :
          ∀ later ∈ rest,
            later.request.key ∈ (store.perform call).keys ↔ later.request.key ∈ store'.keys := by
        intro later member
        rw [mem_keys_perform_iff (otherKey later member)]
        exact sameKeys later (List.mem_cons_of_mem call member)
      by_cases ofTask : call.request.task = id
      · rw [List.filter_cons_of_pos (by simpa using ofTask)] at isOwn
        cases isOwn with
        | @cons _ call' _ own' twins isOwnRest =>
            obtain ⟨sameAnswer, alikeAfter⟩ :=
              alike.performOwn twins ofTask (sameKeys call List.mem_cons_self)
            have ownKeys :
                ∀ later ∈ rest,
                  later.request.key ∈ (store.perform call).keys ↔
                    later.request.key ∈ (store'.perform call').keys := by
              intro later member
              rw [restKeys later member,
                mem_keys_perform_iff (twins.sameRequest ▸ otherKey later member)]
            obtain ⟨sameAnswers, alikeEnd⟩ :=
              inductionHypothesis alikeAfter isOwnRest distinctRest ownKeys
            refine ⟨?_, alikeEnd⟩
            rw [answered, answered, List.filter_cons_of_pos (by simpa using ofTask),
              sameAnswers, sameAnswer, twins.sameRequest]
      · rw [List.filter_cons_of_neg (by simpa using ofTask)] at isOwn
        obtain ⟨sameAnswers, alikeEnd⟩ :=
          inductionHypothesis (alike.performOther ofTask) isOwn distinctRest restKeys
        refine ⟨?_, alikeEnd⟩
        rw [answered, List.filter_cons_of_neg (by simpa using ofTask), sameAnswers]

/-- Runs whose calls for a task are twins answer these alike and end in tasks that look alike. -/
theorem run_run
    {calls calls' : List StoreCall}
    (twins :
      List.Forall₂ (Twins view) (calls.filter fun call => call.request.task = id)
        (calls'.filter fun call => call.request.task = id))
    (reflexive : ∀ call ∈ calls', Twins view call call)
    (distinct : (calls.map fun call => call.request.key).Nodup)
    (distinct' : (calls'.map fun call => call.request.key).Nodup)
    (store : TaskStore) :
    ((store.answered calls).filter fun answer => answer.1.task = id) =
        (store.answered calls').filter (fun answer => answer.1.task = id) ∧
      ((store.run calls).task? id).map view = ((store.run calls').task? id).map view := by
  have own' :
      List.Forall₂ (Twins view) (calls'.filter fun call => call.request.task = id)
        (calls'.filter fun call => call.request.task = id) :=
    List.forall₂_same.mpr fun call member => reflexive call (List.mem_of_mem_filter member)
  obtain ⟨answers, ends⟩ := (refl view id store).run twins distinct fun _ _ => Iff.rfl
  obtain ⟨answers', ends'⟩ := (refl view id store).run own' distinct' fun _ _ => Iff.rfl
  exact ⟨answers.trans answers'.symm, ends.alikeTask.trans ends'.alikeTask.symm⟩

end AlikeAt

/--
Tasks of a store are independent.  Take any store and two runs of calls, the keys
of each distinct, that hand in the same requests for each task in the same order,
however these are interleaved with the requests for other tasks and whenever they
come.  In both runs each request is answered the same, with the same failure where
it fails, and both leave the same tasks up to the times at which steps were
resolved.  Where the requests for each task come at the same times as well, the
tasks are equal with their times.
-/
theorem interleaved_tasks_independent
    (store : TaskStore)
    {calls calls' : List StoreCall}
    (distinct : (calls.map fun call => call.request.key).Nodup)
    (distinct' : (calls'.map fun call => call.request.key).Nodup)
    (sameRequests :
      ∀ id : Int64,
        (calls.map StoreCall.request).filter (fun request => request.task = id) =
          (calls'.map StoreCall.request).filter fun request => request.task = id) :
    (∀ id : Int64,
        (store.answered calls).filter (fun answer => answer.1.task = id) =
          (store.answered calls').filter fun answer => answer.1.task = id) ∧
      (∀ id : Int64,
        ((store.run calls).task? id).map FieldTask.timeless =
          ((store.run calls').task? id).map FieldTask.timeless) ∧
      ((∀ id : Int64,
          calls.filter (fun call => call.request.task = id) =
            calls'.filter fun call => call.request.task = id) →
        ∀ id : Int64, (store.run calls).task? id = (store.run calls').task? id) := by
  have timelessTwins (id : Int64) :
      List.Forall₂ (Twins FieldTask.timeless)
        (calls.filter fun call => call.request.task = id)
        (calls'.filter fun call => call.request.task = id) := by
    have sameOwn := sameRequests id
    rw [List.filter_map, List.filter_map, ← List.forall₂_eq_eq_eq, List.forall₂_map_left_iff,
      List.forall₂_map_right_iff] at sameOwn
    exact sameOwn.imp fun _ _ => Twins.ofRequests
  have upToTimes (id : Int64) :=
    AlikeAt.run_run (timelessTwins id) (fun _ _ => Twins.ofRequests rfl) distinct distinct' store
  refine ⟨fun id => (upToTimes id).1, fun id => (upToTimes id).2, fun sameCalls id => ?_⟩
  have twins :
      List.Forall₂ (Twins fun task => task)
        (calls.filter fun call => call.request.task = id)
        (calls'.filter fun call => call.request.task = id) := by
    rw [sameCalls id]
    exact List.forall₂_same.mpr fun call _ => Twins.refl call
  have sameTasks :=
    (AlikeAt.run_run twins (fun call _ => Twins.refl call) distinct distinct' store).2
  simpa using sameTasks

/-- A task beside the cleaning. -/
def baking : FieldTask where
  id := 8
  templateId := none
  steps := [Step.plain 21 1 "Heat the oven" (by decide), Step.plain 22 2 "Bake" (by decide)]
  percentage := .zero
  wellOrdered := by simp [WellOrdered, Step.plain]

def heated : CompletionRequest :=
  ⟨8, 21, FieldValues.empty, .advance, "third"⟩

/-- A second completion of a step that is resolved, which is refused. -/
def heatedAgain : CompletionRequest :=
  ⟨8, 21, FieldValues.empty, .advance, "fourth"⟩

/--
The cleaning and the baking go hand in hand in one run and one after the other in
another, an hour later.  Each of them has one request that is refused.
-/
theorem interleaved_tasks_independent_baking :
    let store := ofTasks [cleaning, baking] "Ada"
    let calls : List StoreCall :=
      [⟨unlocked, atNoon⟩, ⟨heated, atNoon⟩, ⟨overPolish, atNoon⟩, ⟨heatedAgain, atNoon⟩]
    let calls' : List StoreCall :=
      [⟨heated, atOne⟩, ⟨heatedAgain, atOne⟩, ⟨unlocked, atOne⟩, ⟨overPolish, atOne⟩]
    (calls.map fun call => call.request.key).Nodup ∧
      (calls'.map fun call => call.request.key).Nodup ∧
      (∀ id : Int64,
        (calls.map StoreCall.request).filter (fun request => request.task = id) =
          (calls'.map StoreCall.request).filter fun request => request.task = id) ∧
      store.answered calls =
        [(unlocked, .ok ()), (heated, .ok ()),
          (overPolish, .error (.task (.forbiddenMove 13 .unrecognized .skipped))),
          (heatedAgain, .error (.store (.alreadyResolved 21 .completed)))] ∧
      (store.answered calls).filter (fun answer => answer.1.task = 7) =
        (store.answered calls').filter (fun answer => answer.1.task = 7) ∧
      ∀ id : Int64,
        ((store.run calls).task? id).map FieldTask.timeless =
          ((store.run calls').task? id).map FieldTask.timeless := by
  intro store calls calls'
  have distinct : (calls.map fun call => call.request.key).Nodup := by decide
  have distinct' : (calls'.map fun call => call.request.key).Nodup := by decide
  have sameRequests :
      ∀ id : Int64,
        (calls.map StoreCall.request).filter (fun request => request.task = id) =
          (calls'.map StoreCall.request).filter fun request => request.task = id := by
    intro id
    by_cases isCleaning : id = 7
    · subst isCleaning
      rfl
    · by_cases isBaking : id = 8
      · subst isBaking
        rfl
      · have notCleaning : ¬ 7 = id := Ne.symm isCleaning
        have notBaking : ¬ 8 = id := Ne.symm isBaking
        simp [calls, calls', unlocked, overPolish, heated, heatedAgain, notCleaning, notBaking]
  obtain ⟨sameAnswers, sameTasks, _⟩ :=
    interleaved_tasks_independent store distinct distinct' sameRequests
  have answers :
      (ofTasks [cleaning, baking] "Ada").answered
          [⟨unlocked, atNoon⟩, ⟨heated, atNoon⟩, ⟨overPolish, atNoon⟩, ⟨heatedAgain, atNoon⟩] =
        [(unlocked, .ok ()), (heated, .ok ()),
          (overPolish, .error (.task (.forbiddenMove 13 .unrecognized .skipped))),
          (heatedAgain, .error (.store (.alreadyResolved 21 .completed)))] :=
    rfl
  exact ⟨distinct, distinct', sameRequests, answers, sameAnswers 7, sameTasks⟩

end TaskStore

end Fieldwork
