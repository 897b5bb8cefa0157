import Fieldwork.Proofs.Store.Times

namespace Fieldwork

/-!
# The log of a store as a journal

A store notes the completions that it records.  What it notes can be read off
its answers alone, and it is all that happened: whoever applies the noted
requests to the first tasks, one after the other, comes to the present tasks, up
to the times at which steps were resolved.
-/

/-- A completion that is handed to a store, and when. -/
structure StoreCall where
  request : CompletionRequest
  time : Timestamp

namespace TaskStore

/-- The store after a call, which is the one before it where the call fails. -/
def perform
    (store : TaskStore)
    (call : StoreCall) :
    TaskStore :=
  match store.complete call.request call.time with
  | .ok updated => updated
  | .error _ => store

/-- The store after a run of calls. -/
def run
    (store : TaskStore)
    (calls : List StoreCall) :
    TaskStore :=
  calls.foldl perform store

/-- What is seen of a run from outside: each request, and whether it was answered well. -/
def answers
    (store : TaskStore) :
    List StoreCall →
    List (CompletionRequest × Bool)
  | [] => []
  | call :: rest =>
      (call.request, (store.complete call.request call.time).isOk) ::
        (store.perform call).answers rest

/--
The requests of a run that were answered well and whose keys were not applied
before.
-/
def firstSuccesses
    (applied : List String) :
    List (CompletionRequest × Bool) →
    List CompletionRequest
  | [] => []
  | (request, succeeded) :: rest =>
      if succeeded = true ∧ request.key ∉ applied then
        request :: firstSuccesses (applied ++ [request.key]) rest
      else
        firstSuccesses applied rest

/-- Apply requests to tasks one after the other, without a look at their keys. -/
def replay
    (performer : String) :
    List FieldTask →
    List StoreCall →
    Except Failure (List FieldTask)
  | tasks, [] => .ok tasks
  | tasks, call :: rest =>
      match tasks.find? fun task => task.id = call.request.task with
      | none => .error (.store (.taskMissing call.request.task))
      | some task =>
          (call.request.applyTo task call.time performer).bind fun updated =>
            replay performer (put updated tasks) rest

variable {store : TaskStore} {call : StoreCall}

@[simp] theorem tasks_recorded
    (store : TaskStore)
    (request : CompletionRequest)
    (task : FieldTask) :
    (store.recorded request task).tasks = put task store.tasks :=
  rfl

@[simp] theorem performer_recorded
    (store : TaskStore)
    (request : CompletionRequest)
    (task : FieldTask) :
    (store.recorded request task).performer = store.performer :=
  rfl

/-- A call leaves the store as it is, or it records its request under a new key. -/
theorem perform_cases
    (store : TaskStore)
    (call : StoreCall) :
    (store.perform call = store ∧
        ((store.complete call.request call.time).isOk = true →
          call.request.key ∈ store.keys)) ∨
      ((store.complete call.request call.time).isOk = true ∧
        call.request.key ∉ store.keys ∧
        ∃ task updated,
          store.task? call.request.task = some task ∧
            call.request.applyTo task call.time store.performer = .ok updated ∧
            store.perform call = store.recorded call.request updated) := by
  unfold perform
  cases completed : store.complete call.request call.time with
  | error failure =>
      exact .inl ⟨rfl, fun succeeded => nomatch succeeded⟩
  | ok changed =>
      rcases complete_eq_ok_iff.mp completed with
        ⟨known, same⟩ | ⟨unknown, task, updated, found, applied, recorded⟩
      · exact .inl ⟨same, fun _ => known⟩
      · exact .inr ⟨rfl, unknown, task, updated, found, applied, recorded⟩

theorem performer_run
    (store : TaskStore)
    (calls : List StoreCall) :
    (store.run calls).performer = store.performer := by
  induction calls generalizing store with
  | nil =>
      rfl
  | cons call rest inductionHypothesis =>
      have later := inductionHypothesis (store.perform call)
      rcases perform_cases store call with ⟨same, _⟩ | ⟨_, _, task, updated, _, _, recorded⟩
      · rw [same] at later
        simpa [run, same] using later
      · rw [recorded, performer_recorded] at later
        simpa [run, recorded] using later

/-- The log grows by the requests that are answered well under a new key. -/
theorem completions_run
    (store : TaskStore)
    (calls : List StoreCall) :
    (store.run calls).completions =
      store.completions ++ firstSuccesses store.keys (store.answers calls) := by
  induction calls generalizing store with
  | nil =>
      simp [run, answers, firstSuccesses]
  | cons call rest inductionHypothesis =>
      have later := inductionHypothesis (store.perform call)
      rw [answers, firstSuccesses]
      rcases perform_cases store call with
        ⟨same, knownOfSuccess⟩ | ⟨succeeded, unknown, task, updated, _, _, recorded⟩
      · have notFirst :
            ¬ ((store.complete call.request call.time).isOk = true ∧
              call.request.key ∉ store.keys) :=
          fun first => first.2 (knownOfSuccess first.1)
        rw [same] at later
        rw [if_neg notFirst, same]
        simpa [run, same] using later
      · rw [if_pos ⟨succeeded, unknown⟩]
        rw [recorded, completions_recorded, keys_recorded] at later
        rw [recorded]
        simpa [run, recorded] using later

/--
Some of the calls of a run make up its log, and replaying these, at their own
times, gives the tasks that the store holds.
-/
theorem replay_run
    (store : TaskStore)
    (calls : List StoreCall) :
    ∃ noted,
      (store.run calls).completions =
          store.completions ++ noted.map StoreCall.request ∧
        replay store.performer store.tasks noted = .ok (store.run calls).tasks := by
  induction calls generalizing store with
  | nil =>
      exact ⟨[], by simp [run], rfl⟩
  | cons call rest inductionHypothesis =>
      obtain ⟨noted, isLog, rebuilds⟩ := inductionHypothesis (store.perform call)
      rcases perform_cases store call with
        ⟨same, _⟩ | ⟨_, _, task, updated, found, applied, recorded⟩
      · rw [same] at isLog rebuilds
        refine ⟨noted, ?_, ?_⟩
        · simpa [run, same] using isLog
        · simpa [run, same] using rebuilds
      · rw [recorded] at isLog rebuilds
        refine ⟨call :: noted, ?_, ?_⟩
        · simpa [run, recorded] using isLog
        · unfold task? at found
          rw [replay, found]
          simpa [run, recorded, applied, Except.bind] using rebuilds

end TaskStore

/-! ## Times -/

namespace CompletionRequest

/-- What applies to a task applies to one that is alike, at any time, with a like result. -/
theorem applyTo_of_timeless
    {request : CompletionRequest}
    {task task' updated : FieldTask}
    {time : Timestamp}
    {performer : String}
    (alike : task.timeless = task'.timeless)
    (applied : request.applyTo task time performer = .ok updated)
    (time' : Timestamp) :
    ∃ updated',
      request.applyTo task' time' performer = .ok updated' ∧
        updated'.timeless = updated.timeless := by
  have answered := request.timeless_applyTo alike time time' performer
  rw [applied] at answered
  exact Except.map_eq_ok_iff.mp answered.symm

end CompletionRequest

namespace TaskStore

/-- Tasks that are alike, put into lists that are alike. -/
theorem timeless_put
    {task task' : FieldTask}
    {tasks tasks' : List FieldTask}
    (alike : task.timeless = task'.timeless)
    (alikeTasks : tasks.map FieldTask.timeless = tasks'.map FieldTask.timeless) :
    (put task tasks).map FieldTask.timeless =
      (put task' tasks').map FieldTask.timeless := by
  have sameId : task.id = task'.id := congrArg Prod.fst alike
  induction tasks generalizing tasks' with
  | nil =>
      cases tasks' with
      | nil =>
          simp [put, alike]
      | cons head rest =>
          cases alikeTasks
  | cons head rest inductionHypothesis =>
      cases tasks' with
      | nil =>
          cases alikeTasks
      | cons head' rest' =>
          obtain ⟨alikeHead, alikeRest⟩ := List.cons.inj alikeTasks
          have sameHeadId : head.id = head'.id := congrArg Prod.fst alikeHead
          unfold put
          rw [sameHeadId, sameId]
          split
          · simp [alike, alikeRest]
          · simp [alikeHead, inductionHypothesis alikeRest]

theorem find?_of_timeless
    {tasks tasks' : List FieldTask}
    {id : Int64}
    {task : FieldTask}
    (alike : tasks.map FieldTask.timeless = tasks'.map FieldTask.timeless)
    (found : (tasks.find? fun task => task.id = id) = some task) :
    ∃ task',
      (tasks'.find? fun task => task.id = id) = some task' ∧
        task.timeless = task'.timeless := by
  have sameLook :
      (tasks.find? fun task => task.id = id).map FieldTask.timeless =
        (tasks'.find? fun task => task.id = id).map FieldTask.timeless := by
    refine map_find?_congr (fun task task' alikeTasks => ?_) alike
    rw [FieldTask.id_eq_of_timeless alikeTasks]
  rw [found] at sameLook
  obtain ⟨task', found', alikeTask⟩ := Option.map_eq_some_iff.mp sameLook.symm
  exact ⟨task', found', alikeTask.symm⟩

/-- A replay at other times comes to tasks that are alike. -/
theorem replay_of_timeless
    {performer : String}
    {tasks tasks' rebuilt : List FieldTask}
    {noted noted' : List StoreCall}
    (alike : tasks.map FieldTask.timeless = tasks'.map FieldTask.timeless)
    (sameRequests : noted.map StoreCall.request = noted'.map StoreCall.request)
    (rebuilds : replay performer tasks noted = .ok rebuilt) :
    ∃ rebuilt',
      replay performer tasks' noted' = .ok rebuilt' ∧
        rebuilt'.map FieldTask.timeless = rebuilt.map FieldTask.timeless := by
  induction noted generalizing tasks tasks' noted' with
  | nil =>
      cases noted' with
      | nil =>
          cases rebuilds
          exact ⟨tasks', rfl, alike.symm⟩
      | cons call' rest' =>
          cases sameRequests
  | cons call rest inductionHypothesis =>
      cases noted' with
      | nil =>
          cases sameRequests
      | cons call' rest' =>
          obtain ⟨sameRequest, sameRest⟩ := List.cons.inj sameRequests
          rw [replay] at rebuilds
          cases found : tasks.find? fun task => task.id = call.request.task with
          | none =>
              rw [found] at rebuilds
              cases rebuilds
          | some task =>
              rw [found] at rebuilds
              obtain ⟨updated, applied, goesOn⟩ := Except.bind_eq_ok_iff.mp rebuilds
              obtain ⟨task', found', alikeTask⟩ := find?_of_timeless alike found
              obtain ⟨updated', applied', alikeUpdated⟩ :=
                CompletionRequest.applyTo_of_timeless alikeTask applied call'.time
              obtain ⟨rebuilt', goesOn', alikeRebuilt⟩ :=
                inductionHypothesis (timeless_put alikeUpdated.symm alike) sameRest goesOn
              refine ⟨rebuilt', ?_, alikeRebuilt⟩
              rw [replay, ← sameRequest, found']
              exact Except.bind_eq_ok_iff.mpr ⟨updated', applied', goesOn'⟩

/-- Four steps, the third of which has a status that is not known. -/
def cleaning : FieldTask where
  id := 7
  templateId := none
  steps := [
    Step.plain 11 1 "Unlock" (by decide),
    Step.plain 12 2 "Sweep" (by decide),
    (Step.plain 13 3 "Polish" (by decide)).withRecord { status := .unrecognized },
    Step.plain 14 4 "Sign off" (by decide)]
  percentage := .zero
  wellOrdered := by simp [WellOrdered, Step.plain, Step.withRecord]

def unlocked : CompletionRequest :=
  ⟨7, 11, FieldValues.empty, .advance, "first"⟩

/-- A jump that resolves its own step before it meets the one that it cannot skip. -/
def overPolish : CompletionRequest :=
  ⟨7, 12, FieldValues.empty, .jump 4, "second"⟩

def atNoon : Timestamp :=
  ⟨⟨2024, 1, 1⟩, 43200, 0⟩

def atOne : Timestamp :=
  ⟨⟨2024, 1, 1⟩, 46800, 0⟩

end TaskStore

end Fieldwork
