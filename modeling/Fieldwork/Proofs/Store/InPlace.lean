import Mathlib.Data.Finset.Dedup
import Mathlib.Data.Finset.Insert
import Fieldwork.Proofs.Store.Journal
import Fieldwork.Proofs.Task.Moves

namespace EStateM.Result

variable {ε σ α : Type}

/-- What a program came to: the state that it left where it succeeded, or its failure. -/
def outcome :
    EStateM.Result ε σ α →
    Except ε σ
  | .ok _ left => .ok left
  | .error failure _ => .error failure

/-- The state that a program left, whether it succeeded or failed. -/
def left :
    EStateM.Result ε σ α →
    σ
  | .ok _ left => left
  | .error _ left => left

/-- A program without an answer came to a state where it succeeded with it. -/
theorem outcome_eq_ok_iff
    {result : EStateM.Result ε σ Unit}
    {changed : σ} :
    result.outcome = .ok changed ↔ result = .ok () changed := by
  cases result <;> simp [outcome]

end EStateM.Result

namespace Fieldwork

/-!
# Completions in place

A store may be worked on in place, cell by cell: its tasks, the set of the keys
that it has applied and its log are then changed one after the other.  The steps
of a task are changed in place too, up to the first that is refused, by which
time those before it are changed already.  What keeps a half changed task out of
the store is that the work is done on a copy, which is put back only when all of
it has succeeded.
-/

/-- A program that works on a step in place and may be refused on its way. -/
abbrev StepProgram : Type :=
  EStateM TaskFault Step Unit

/-- A program that works on a task in place and may fail on its way. -/
abbrev TaskProgram : Type :=
  EStateM Failure FieldTask Unit

/-- Steps with the plans of the given ones, in their order. -/
abbrev StepsAsPlanned
    (steps : List Step) :
    Type :=
  { updated : List Step // updated.map Step.plan = steps.map Step.plan }

/-- The given steps as they are. -/
def StepsAsPlanned.unchanged
    (steps : List Step) :
    StepsAsPlanned steps :=
  ⟨steps, rfl⟩

namespace StepProgram

/-- Resolve a step, by way of being in progress. -/
def finish
    (status : StepStatus)
    (time : Timestamp)
    (performer : String) :
    StepProgram := do
  if (← get).status = .pending then
    (StepEdit.move .inProgress time none).inPlace
  (StepEdit.move status time (some performer)).inPlace

/-- Work on a step if it is meant. -/
def onlyIf
    (meant : Step → Bool)
    (program : StepProgram) :
    StepProgram := do
  if meant (← get) then
    program

/--
Work on the steps of a list in place, from the first one on, up to the first
that is refused.  The plans stay as they are.
-/
def onEach
    (program : StepProgram) :
    (steps : List Step) →
    EStateM.Result TaskFault (StepsAsPlanned steps) Unit
  | [] => .ok () (.unchanged [])
  | step :: rest =>
      match program.run step with
      | .error fault changed =>
          .error fault
            ⟨step.withRecord changed.record :: rest, by simp [Step.withRecord]⟩
      | .ok () changed =>
          match onEach program rest with
          | .error fault ⟨updated, same⟩ =>
              .error fault
                ⟨step.withRecord changed.record :: updated, by simp [Step.withRecord, same]⟩
          | .ok () ⟨updated, same⟩ =>
              .ok ()
                ⟨step.withRecord changed.record :: updated, by simp [Step.withRecord, same]⟩

end StepProgram

namespace TaskProgram

/-- Work on the steps of a task in place that are meant, one after the other. -/
def onSteps
    (meant : Step → Bool)
    (program : StepProgram) :
    TaskProgram := fun task =>
  match (program.onlyIf meant).onEach task.steps with
  | .ok () ⟨updated, same⟩ =>
      .ok () { task with steps := updated, wellOrdered := by rw [same]; exact task.wellOrdered }
  | .error fault ⟨updated, same⟩ =>
      .error (.task fault)
        { task with steps := updated, wellOrdered := by rw [same]; exact task.wellOrdered }

/-- Set the steps with an order between two bounds back to pending. -/
def reopenRange
    (first last : Int32) :
    TaskProgram :=
  onSteps (fun step => first ≤ step.order && step.order ≤ last) StepEdit.reopen.inPlace

/-- Resolve the step with an order, of which there is one at most. -/
def resolve
    (order : Int32)
    (status : StepStatus)
    (time : Timestamp)
    (performer : String) :
    TaskProgram :=
  onSteps (fun step => step.order = order) (.finish status time performer)

/-- Skip the steps between two orders that are not in a final state by then. -/
def skipBetween
    (after before : Int32)
    (time : Timestamp)
    (performer : String) :
    TaskProgram :=
  onSteps
    (fun step => after < step.order && step.order < before && !step.status.isTerminal)
    (.finish .skipped time performer)

/-- Do what a request asks for, once its step is found to be still open. -/
def actOn
    (request : CompletionRequest)
    (current : Step)
    (time : Timestamp)
    (performer : String) :
    TaskProgram := do
  match request.action with
  | .advance =>
      resolve current.order request.outcomeStatus time performer
  | .again =>
      reopenRange current.order current.order
  | .jump order =>
      if ((← get).stepAt? order).isNone then
        throw (.store (.jumpToMissing request.step order))
      else if order ≤ current.order then
        reopenRange order current.order
      else
        resolve current.order request.outcomeStatus time performer
        skipBetween current.order order time performer

/-- Apply a request to a task, and count the percentage of the task anew. -/
def apply
    (request : CompletionRequest)
    (time : Timestamp)
    (performer : String) :
    TaskProgram := do
  match (← get).step? request.step with
  | none =>
      throw (.store (.stepMissing request.step request.task))
  | some current =>
      if current.status.isTerminal then
        throw (.store (.alreadyResolved current.id current.status))
      else
        actOn request current time performer
        modify FieldTask.recomputed

end TaskProgram

/-- The cells of a store, each of which is read and written on its own. -/
structure StoreCells where
  tasks : List FieldTask
  completions : List CompletionRequest
  /-- The keys that have been applied. -/
  applied : Finset String
  performer : String

/-- A program that works on a store in place and may fail on its way. -/
abbrev StoreProgram (α : Type) : Type :=
  EStateM Failure StoreCells α

namespace StoreProgram

def load
    (id : Int64) :
    StoreProgram FieldTask := do
  match (← get).tasks.find? fun task => task.id = id with
  | some task => return task
  | none => throw (.store (.taskMissing id))

/-- Work on a copy of a task.  Where the work fails, what has become of the copy is dropped. -/
def onCopy
    (task : FieldTask)
    (program : TaskProgram) :
    StoreProgram FieldTask :=
  match program.run task with
  | .ok () changed => return changed
  | .error failure _ => throw failure

end StoreProgram

/--
Record a completion, unless its key was applied before: work on a copy of the
task, put the copy back, note the key as applied, and note the request.
-/
def StoreCall.inPlace
    (call : StoreCall) :
    StoreProgram Unit := do
  if call.request.key ∈ (← get).applied then
    return
  else
    let task ← StoreProgram.load call.request.task
    let performer := (← get).performer
    let updated ←
      StoreProgram.onCopy task (TaskProgram.apply call.request call.time performer)
    modify fun cells => { cells with tasks := TaskStore.put updated cells.tasks }
    modify fun cells => { cells with applied := insert call.request.key cells.applied }
    modify fun cells => { cells with completions := cells.completions ++ [call.request] }

/-! ## What the programs come to -/

/-- A program behind another one begins with what that one left, if it left it in success. -/
theorem outcome_seq
    {ε σ α β : Type}
    (first : EStateM ε σ α)
    (second : EStateM ε σ β)
    (state : σ) :
    ((first >>= fun _ => second).run state).outcome =
      (first.run state).outcome.bind fun between => (second.run between).outcome := by
  rw [EStateM.run_bind]
  cases first.run state <;> rfl

namespace StepProgram

variable {status : StepStatus} {time : Timestamp} {performer : String} {program : StepProgram}
  {record : Step → Except TaskFault StepRecord} {meant : Step → Bool}

theorem outcome_inPlace
    (edit : StepEdit)
    (step : Step) :
    (edit.inPlace.run step).outcome = step.attempt edit := by
  rw [Step.run_inPlace]
  cases step.attempt edit <;> rfl

theorem outcome_finish
    (step : Step) :
    ((finish status time performer).run step).outcome =
      (step.finish status time performer).map step.withRecord := by
  rw [finish, EStateM.run_bind, EStateM.run_get]
  dsimp only
  unfold Step.finish
  by_cases pending : step.status = .pending
  · rw [if_pos pending, if_pos pending, outcome_seq, outcome_inPlace, Step.attempt,
      Except.bind_map, Except.map_bind]
    refine Except.bind_congr_ok fun started _ => ?_
    rw [outcome_inPlace]
    rfl
  · rw [if_neg pending, if_neg pending, outcome_inPlace]
    rfl

theorem outcome_onlyIf
    (meant : Step → Bool)
    (endsAs : ∀ step, (program.run step).outcome = (record step).map step.withRecord)
    (step : Step) :
    ((program.onlyIf meant).run step).outcome =
      (if meant step then record step else .ok step.record).map step.withRecord := by
  rw [onlyIf, EStateM.run_bind, EStateM.run_get]
  dsimp only
  split
  · exact endsAs step
  · rfl

/-- Work on all steps comes to new records for all of them, or to the first refusal. -/
theorem outcome_onEach
    (endsAs : ∀ step, (program.run step).outcome = (record step).map step.withRecord)
    (steps : List Step) :
    (program.onEach steps).outcome = FieldTask.newRecords? record steps := by
  induction steps with
  | nil =>
      rfl
  | cons step rest inductionHypothesis =>
      have ended := endsAs step
      unfold onEach FieldTask.newRecords?
      cases worked : program.run step with
      | error fault changed =>
          rw [worked] at ended
          rw [Except.map_eq_error_iff.mp ended.symm]
          rfl
      | ok _ changed =>
          rw [worked] at ended
          obtain ⟨new, given, rfl⟩ := Except.map_eq_ok_iff.mp ended.symm
          rw [given, ← inductionHypothesis]
          cases program.onEach rest <;> rfl

end StepProgram

namespace TaskProgram

variable {status : StepStatus} {time : Timestamp} {performer : String} {program : StepProgram}
  {record : Step → Except TaskFault StepRecord} {meant : Step → Bool}

theorem outcome_onSteps
    (endsAs : ∀ step, (program.run step).outcome = (record step).map step.withRecord)
    (task : FieldTask) :
    ((onSteps meant program).run task).outcome =
      (task.withRecords? fun step =>
        if meant step then record step else .ok step.record).mapError .task := by
  have onAll := StepProgram.outcome_onEach (StepProgram.outcome_onlyIf meant endsAs) task.steps
  rw [FieldTask.withRecords?, ← onAll, EStateM.run, onSteps]
  cases (program.onlyIf meant).onEach task.steps <;> rfl

theorem outcome_reopenRange
    (first last : Int32)
    (task : FieldTask) :
    ((reopenRange first last).run task).outcome = .ok (task.reopenRange first last) := by
  have reopens :
      ∀ step : Step,
        (StepEdit.reopen.inPlace.run step).outcome =
          (Except.ok Step.reopened).map step.withRecord :=
    StepProgram.outcome_inPlace .reopen
  have given :
      ∀ step : Step,
        (if first ≤ step.order && step.order ≤ last then .ok Step.reopened
          else .ok step.record : Except TaskFault StepRecord) =
          .ok (if first ≤ step.order && step.order ≤ last then Step.reopened else step.record) :=
    fun step => by split <;> rfl
  rw [reopenRange, outcome_onSteps reopens, Except.mapError_eq_ok_iff,
    FieldTask.withRecords?_eq_ok_iff _ fun step kept isKept =>
      Except.ok.inj (isKept.symm.trans (given step))]
  exact ⟨fun step _ => given step, rfl⟩

theorem outcome_resolve
    (order : Int32)
    (task : FieldTask) :
    ((resolve order status time performer).run task).outcome =
      (task.finishStep order status time performer).mapError .task := by
  rw [resolve, outcome_onSteps StepProgram.outcome_finish]
  simp only [decide_eq_true_eq]
  rfl

theorem outcome_skipBetween
    (after before : Int32)
    (task : FieldTask) :
    ((skipBetween after before time performer).run task).outcome =
      (task.skipBetween after before time performer).mapError .task :=
  outcome_onSteps StepProgram.outcome_finish task

theorem outcome_actOn
    (request : CompletionRequest)
    (current : Step)
    (task : FieldTask) :
    ((actOn request current time performer).run task).outcome =
      request.actOn task current time performer := by
  unfold actOn CompletionRequest.actOn
  cases request.action with
  | advance =>
      exact outcome_resolve current.order task
  | again =>
      exact outcome_reopenRange current.order current.order task
  | jump order =>
      dsimp only
      rw [EStateM.run_bind, EStateM.run_get]
      dsimp only
      by_cases missing : (task.stepAt? order).isNone = true
      · rw [if_pos missing, if_pos missing]
        rfl
      · rw [if_neg missing, if_neg missing]
        by_cases back : order ≤ current.order
        · rw [if_pos back, if_pos back]
          exact outcome_reopenRange order current.order task
        · rw [if_neg back, if_neg back, outcome_seq, outcome_resolve]
          cases task.finishStep current.order request.outcomeStatus time performer with
          | error fault =>
              rfl
          | ok resolved =>
              exact outcome_skipBetween current.order order resolved

/-- On a copy of a task, the work for a request comes to what the request makes of the task. -/
theorem outcome_apply
    (request : CompletionRequest)
    (task : FieldTask) :
    ((apply request time performer).run task).outcome =
      request.applyTo task time performer := by
  rw [apply, EStateM.run_bind, EStateM.run_get, CompletionRequest.applyTo]
  dsimp only
  cases task.step? request.step with
  | none =>
      rfl
  | some current =>
      dsimp only
      by_cases final : current.status.isTerminal = true
      · rw [if_pos final, if_pos final]
        rfl
      · rw [if_neg final, if_neg final, outcome_seq, outcome_actOn]
        cases request.actOn task current time performer <;> rfl

end TaskProgram

/-- The cells of a store whose applied keys are those of its log. -/
def TaskStore.cells
    (store : TaskStore) :
    StoreCells where
  tasks := store.tasks
  completions := store.completions
  applied := store.keys.toFinset
  performer := store.performer

theorem TaskStore.cells_recorded
    (store : TaskStore)
    (request : CompletionRequest)
    (updated : FieldTask) :
    (store.recorded request updated).cells =
      { store.cells with
        tasks := put updated store.tasks
        applied := insert request.key store.cells.applied
        completions := store.completions ++ [request] } := by
  have oneMore :
      (store.recorded request updated).keys.toFinset = insert request.key store.keys.toFinset := by
    have added : (store.recorded request updated).keys = store.keys ++ [request.key] :=
      List.map_append
    ext key
    rw [added, List.mem_toFinset, List.mem_append, List.mem_singleton, Finset.mem_insert,
      List.mem_toFinset, or_comm]
  rw [cells, oneMore]
  rfl

namespace StoreProgram

theorem run_load
    (id : Int64)
    (store : TaskStore) :
    (load id).run store.cells =
      match store.task? id with
      | some task => .ok task store.cells
      | none => .error (.store (.taskMissing id)) store.cells := by
  have sameLook :
      (store.cells.tasks.find? fun task => task.id = id) = store.task? id :=
    rfl
  rw [load, EStateM.run_bind, EStateM.run_get]
  dsimp only
  rw [sameLook]
  cases store.task? id <;> rfl

/-- The store is left as it is by work on a copy, whatever becomes of the copy. -/
theorem run_onCopy
    (task : FieldTask)
    (program : TaskProgram)
    (cells : StoreCells) :
    (onCopy task program).run cells =
      match (program.run task).outcome with
      | .ok changed => .ok changed cells
      | .error failure => .error failure cells := by
  unfold onCopy
  cases program.run task <;> rfl

end StoreProgram

namespace StoreCall

/--
On the cells of a store, the program of a call ends as the call does, and where
it fails, all cells are as they were.
-/
theorem run_inPlace
    (call : StoreCall)
    (store : TaskStore) :
    call.inPlace.run store.cells =
      match store.complete call.request call.time with
      | .ok changed => .ok () changed.cells
      | .error failure => .error failure store.cells := by
  have sameKeys : call.request.key ∈ store.cells.applied ↔ store.keys.contains call.request.key :=
    List.mem_toFinset.trans List.contains_iff_mem.symm
  rw [inPlace, EStateM.run_bind, EStateM.run_get, TaskStore.complete]
  dsimp only
  by_cases known : store.keys.contains call.request.key = true
  · rw [if_pos (sameKeys.mpr known), if_pos known]
    rfl
  · rw [if_neg (mt sameKeys.mp known), if_neg known, EStateM.run_bind, StoreProgram.run_load]
    cases found : store.task? call.request.task with
    | none =>
        rfl
    | some task =>
        dsimp only
        rw [EStateM.run_bind, EStateM.run_get]
        dsimp only
        rw [EStateM.run_bind, StoreProgram.run_onCopy, TaskProgram.outcome_apply]
        have samePerformer : store.cells.performer = store.performer := rfl
        rw [samePerformer]
        cases call.request.applyTo task call.time store.performer with
        | error failure =>
            rfl
        | ok updated =>
            exact congrArg (EStateM.Result.ok ())
              (TaskStore.cells_recorded store call.request updated).symm

end StoreCall

namespace StoreCells

/-- The cells of a store of tasks that has recorded nothing yet. -/
def ofTasks
    (tasks : List FieldTask)
    (performer : String) :
    StoreCells where
  tasks := tasks.foldl (fun stored task => TaskStore.put task stored) []
  completions := []
  applied := ∅
  performer := performer

/-- The cells that a call in place leaves behind, whether it succeeds or fails. -/
def perform
    (cells : StoreCells)
    (call : StoreCall) :
    StoreCells :=
  (call.inPlace.run cells).left

/-- The cells after a run of calls in place. -/
def run
    (cells : StoreCells)
    (calls : List StoreCall) :
    StoreCells :=
  calls.foldl perform cells

/-- What is seen of a run from outside: each request, and whether it was answered well. -/
def answers
    (cells : StoreCells) :
    List StoreCall →
    List (CompletionRequest × Bool)
  | [] => []
  | call :: rest =>
      (call.request, (call.inPlace.run cells).outcome.isOk) ::
        (cells.perform call).answers rest

variable {cells left : StoreCells} {call : StoreCall} {failure : Failure}

theorem perform_cells
    (store : TaskStore)
    (call : StoreCall) :
    store.cells.perform call = (store.perform call).cells := by
  rw [perform, StoreCall.run_inPlace, TaskStore.perform]
  cases store.complete call.request call.time <;> rfl

/-- A run of calls in place is the run of the calls. -/
theorem run_cells
    (store : TaskStore)
    (calls : List StoreCall) :
    store.cells.run calls = (store.run calls).cells := by
  induction calls generalizing store with
  | nil =>
      rfl
  | cons call rest inductionHypothesis =>
      rw [run, List.foldl_cons, perform_cells, ← run, inductionHypothesis]
      rfl

theorem answers_cells
    (store : TaskStore)
    (calls : List StoreCall) :
    store.cells.answers calls = store.answers calls := by
  induction calls generalizing store with
  | nil =>
      rfl
  | cons call rest inductionHypothesis =>
      have sameAnswer :
          (call.inPlace.run store.cells).outcome.isOk =
            (store.complete call.request call.time).isOk := by
        rw [StoreCall.run_inPlace]
        cases store.complete call.request call.time <;> rfl
      rw [answers, TaskStore.answers, sameAnswer, perform_cells, inductionHypothesis]

theorem mem_applied_iff
    {store : TaskStore}
    {key : String} :
    key ∈ store.cells.applied ↔ ∃ request ∈ store.cells.completions, request.key = key :=
  List.mem_toFinset.trans List.mem_map

/-- A call under a key that was applied succeeds and changes no cell. -/
theorem run_inPlace_of_applied
    (store : TaskStore)
    (known : call.request.key ∈ store.cells.applied) :
    call.inPlace.run store.cells = .ok () store.cells := by
  rw [StoreCall.run_inPlace,
    TaskStore.complete_of_mem_keys call.time (List.mem_toFinset.mp known)]

/-- A call that fails changes no cell. -/
theorem eq_of_run_inPlace_error
    (store : TaskStore)
    (failed : call.inPlace.run store.cells = .error failure left) :
    left = store.cells := by
  rw [StoreCall.run_inPlace] at failed
  cases completed : store.complete call.request call.time with
  | error cause =>
      rw [completed] at failed
      cases failed
      rfl
  | ok changed =>
      rw [completed] at failed
      cases failed

/-- A call that succeeds under a new key changes all three cells, by what became of its copy. -/
theorem exists_copy_of_run_inPlace_ok
    (store : TaskStore)
    (succeeded : call.inPlace.run store.cells = .ok () left)
    (unknown : call.request.key ∉ store.cells.applied) :
    ∃ task updated,
      (store.cells.tasks.find? fun task => task.id = call.request.task) = some task ∧
        (TaskProgram.apply call.request call.time store.performer).run task =
          .ok () updated ∧
        left.tasks = TaskStore.put updated store.cells.tasks ∧
        left.applied = insert call.request.key store.cells.applied ∧
        left.completions = store.cells.completions ++ [call.request] := by
  rw [StoreCall.run_inPlace] at succeeded
  cases completed : store.complete call.request call.time with
  | error cause =>
      rw [completed] at succeeded
      cases succeeded
  | ok changed =>
      rw [completed] at succeeded
      cases succeeded
      rcases TaskStore.complete_eq_ok_iff.mp completed with
        ⟨known, _⟩ | ⟨_, task, updated, found, applied, rfl⟩
      · exact (unknown (List.mem_toFinset.mpr known)).elim
      · have onCopy :=
          EStateM.Result.outcome_eq_ok_iff.mp ((TaskProgram.outcome_apply _ task).trans applied)
        rw [TaskStore.cells_recorded]
        exact ⟨task, updated, found, onCopy, rfl, rfl, rfl⟩

/--
The log is a journal of every run of calls, in place, on a store of any tasks,
which comes to the same cells and gives the same answers as the run of the calls.
It holds, in order, the requests that were answered well under a key not applied
before, and the applied keys are those of the log.  A further call that repeats
an applied key succeeds and changes none of the cells, one that fails changes
none of them either, however far the work on its copy had come, and one that
succeeds under a new key changes all three.  Replaying the log on the first
tasks, at whatever times, gives the present tasks up to these times.
-/
theorem log_is_journal
    (tasks : List FieldTask)
    (performer : String)
    (calls : List StoreCall) :
    let first := ofTasks tasks performer
    let cells := first.run calls
    cells = ((TaskStore.ofTasks tasks performer).run calls).cells ∧
      first.answers calls = (TaskStore.ofTasks tasks performer).answers calls ∧
      cells.completions = TaskStore.firstSuccesses [] (first.answers calls) ∧
      (∀ key, key ∈ cells.applied ↔ ∃ request ∈ cells.completions, request.key = key) ∧
      (∀ call : StoreCall,
        call.request.key ∈ cells.applied →
        call.inPlace.run cells = .ok () cells) ∧
      (∀ (call : StoreCall) failure left,
        call.inPlace.run cells = .error failure left →
        left = cells) ∧
      (∀ (call : StoreCall) left,
        call.inPlace.run cells = .ok () left →
        call.request.key ∉ cells.applied →
        ∃ task updated,
          (cells.tasks.find? fun task => task.id = call.request.task) = some task ∧
            (TaskProgram.apply call.request call.time performer).run task = .ok () updated ∧
            left.tasks = TaskStore.put updated cells.tasks ∧
            left.applied = insert call.request.key cells.applied ∧
            left.completions = cells.completions ++ [call.request]) ∧
      ∀ noted : List StoreCall,
        noted.map StoreCall.request = cells.completions →
        ∃ rebuilt,
          TaskStore.replay performer first.tasks noted = .ok rebuilt ∧
            rebuilt.map FieldTask.timeless = cells.tasks.map FieldTask.timeless := by
  intro first cells
  let begun := TaskStore.ofTasks tasks performer
  let store := begun.run calls
  have isStore : cells = store.cells := run_cells begun calls
  have sameAnswers : first.answers calls = begun.answers calls := answers_cells begun calls
  have samePerformer : store.performer = performer := TaskStore.performer_run begun calls
  rw [isStore, sameAnswers]
  refine ⟨rfl, rfl, TaskStore.completions_run begun calls, fun _ => mem_applied_iff,
    fun _ => run_inPlace_of_applied store, fun _ _ _ => eq_of_run_inPlace_error store,
    fun _ _ succeeded unknown => ?_, fun noted sameRequests => ?_⟩
  · have changed := exists_copy_of_run_inPlace_ok store succeeded unknown
    rwa [samePerformer] at changed
  · obtain ⟨own, isLog, rebuilds⟩ := TaskStore.replay_run begun calls
    exact TaskStore.replay_of_timeless rfl (isLog.symm.trans sameRequests.symm) rebuilds

/--
After a completion, the same one again changes nothing, nor does a jump that
fails on its way, with one more step of its copy completed by then; the task is
rebuilt from the log an hour later.
-/
theorem log_is_journal_cleaning :
    let first := ofTasks [TaskStore.cleaning] "Ada"
    let cells := first.run [⟨TaskStore.unlocked, TaskStore.atNoon⟩]
    let again : StoreCall := ⟨TaskStore.unlocked, TaskStore.atOne⟩
    let jump : StoreCall := ⟨TaskStore.overPolish, TaskStore.atOne⟩
    let refusal : Failure := .task (.forbiddenMove 13 .unrecognized .skipped)
    cells.completions = [TaskStore.unlocked] ∧
      cells.applied = {"first"} ∧
      again.inPlace.run cells = .ok () cells ∧
      cells.tasks.map (fun task => task.steps.map Step.status) =
        [[.completed, .pending, .unrecognized, .pending]] ∧
      cells.tasks.map (fun task =>
          ((TaskProgram.apply jump.request jump.time "Ada").run task).left.steps.map
            Step.status) =
        [[.completed, .completed, .unrecognized, .pending]] ∧
      jump.inPlace.run cells = .error refusal cells ∧
      ∃ rebuilt,
        TaskStore.replay "Ada" [TaskStore.cleaning] [again] = .ok rebuilt ∧
          rebuilt.map FieldTask.timeless = cells.tasks.map FieldTask.timeless := by
  intro first cells again jump refusal
  let store := (TaskStore.ofTasks [TaskStore.cleaning] "Ada").run
    [⟨TaskStore.unlocked, TaskStore.atNoon⟩]
  obtain ⟨isRun, _, noted, keys, repeated, unchanged, _, rebuilt⟩ :=
    log_is_journal [TaskStore.cleaning] "Ada" [⟨TaskStore.unlocked, TaskStore.atNoon⟩]
  have onlyOne : cells.completions = [TaskStore.unlocked] := noted.trans rfl
  have onlyKey : cells.applied = {"first"} := by
    ext key
    rw [keys key, onlyOne]
    simp [TaskStore.unlocked, eq_comm]
  have refused : store.complete jump.request jump.time = .error refusal := rfl
  have failed : jump.inPlace.run cells = .error refusal store.cells := by
    rw [show cells = store.cells from isRun, StoreCall.run_inPlace, refused]
  refine ⟨onlyOne, onlyKey, repeated again ?_, by decide, by decide, ?_,
    rebuilt [again] (by rw [onlyOne]; rfl)⟩
  · rw [onlyKey]
    exact Finset.mem_singleton_self _
  · rw [failed, unchanged jump refusal store.cells failed]

end StoreCells

end Fieldwork
