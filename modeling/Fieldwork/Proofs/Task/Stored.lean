import Fieldwork.Proofs.Except
import Fieldwork.Proofs.Json.Stored
import Fieldwork.Proofs.Json.Typed
import Fieldwork.Proofs.Task.Built
import Fieldwork.Proofs.Timestamp

namespace Fieldwork

/-!
# Stored tasks are read back

What is written for a task is read as that task, in whatever order the fields
of its objects stand, and also after changes to it.  All that is asked for is
that the times of the task exist; those that were read do, and a change brings
in no other time than its own.
-/

open Json (Document Reading Stores Slot Legible Rearranged)
open Json.Document

/-! ## Stored numbers and times -/

section Scalars

variable {ε : Type}

theorem int64_inRange
    (value : Int64) :
    leastInt64 ≤ value.toInt ∧ value.toInt ≤ greatestInt64 := by
  have lower := value.le_toInt
  have upper := value.toInt_lt
  unfold leastInt64 greatestInt64
  omega

theorem int32_inRange
    (value : Int32) :
    leastInt32 ≤ value.toInt ∧ value.toInt ≤ greatestInt32 := by
  have lower := value.le_toInt
  have upper := value.toInt_lt
  unfold leastInt32 greatestInt32
  omega

theorem int64_wide
    (value : Int64) :
    leastInt64 ≤ value.toInt ∧ value.toInt ≤ greatestNat64 := by
  have inRange := int64_inRange value
  unfold greatestInt64 at inRange
  unfold greatestNat64
  omega

theorem int32_wide
    (value : Int32) :
    leastInt64 ≤ value.toInt ∧ value.toInt ≤ greatestNat64 := by
  have inRange := int32_inRange value
  unfold leastInt32 greatestInt32 at inRange
  unfold leastInt64 greatestNat64
  omega

theorem stores_int64
    (value : Int64) :
    Stores (readInt64 : Document → Reading ε Int64) value (.ofInt64 value) := by
  have stores :=
    (Json.stores_int (ε := ε) (int64_inRange value) (int64_wide value)).map Int64.ofInt
  rw [Int64.ofInt_toInt] at stores
  exact stores

theorem stores_int32
    (value : Int32) :
    Stores (readInt32 : Document → Reading ε Int32) value (.ofInt32 value) := by
  have stores :=
    (Json.stores_int (ε := ε) (int32_inRange value) (int32_wide value)).map Int32.ofInt
  rw [Int32.ofInt_toInt] at stores
  exact stores

theorem ofInt64_ne_null
    (value : Int64) :
    Json.ofInt64 value ≠ .null := by
  simp [Json.ofInt64, Json.ofInt_eq_number (int64_wide value)]

theorem ofInt32_ne_null
    (value : Int32) :
    Json.ofInt32 value ≠ .null := by
  simp [Json.ofInt32, Json.ofInt_eq_number (int32_wide value)]

/-- The stored form of a time that exists is read as that time. -/
theorem stores_time
    {time : Timestamp}
    (kept : time.Kept) :
    Stores Step.readTime time (.string (time.render .exact)) := by
  refine Json.stores_of_isScalar trivial ?_
  simp only [Step.readTime, ofJson, readString, demand, bind, Except.bind,
    Timestamp.read_render kept]

end Scalars

theorem accept_eq_ok_iff
    {α : Type}
    {built : Except TaskFault α}
    {value : α} :
    accept built = .ok value ↔ built = .ok value := by
  cases built <;> simp [accept]

theorem legible_ofInt64
    (room : Nat)
    (value : Int64) :
    Legible room (.ofInt64 value) :=
  Json.legible_ofInt (int64_wide value)

theorem legible_ofInt32
    (room : Nat)
    (value : Int32) :
    Legible room (.ofInt32 value) :=
  Json.legible_ofInt (int32_wide value)

/-! ## Authored outcomes -/

namespace AuthoredOutcome

/-- An action without the target that is stored apart from it. -/
def untargeted :
    OutcomeAction →
    OutcomeAction
  | .jump _ => .jump none
  | action => action

/-- The fields of an authored outcome, with what each does to the parts read so far. -/
def slots
    (outcome : AuthoredOutcome) :
    List (Slot Parts) :=
  [⟨"id", some (.string outcome.id), fun parts => { parts with id := some outcome.id }⟩,
    ⟨"label", some (.string outcome.label),
      fun parts => { parts with label := outcome.label }⟩,
    ⟨"action", some (.string outcome.action.name),
      fun parts => { parts with action := some (untargeted outcome.action) }⟩,
    ⟨"next_step", outcome.action.target?.map .ofInt32,
      fun parts => { parts with target := outcome.action.target? }⟩]

theorem toJson_eq
    (outcome : AuthoredOutcome) :
    outcome.toJson = .ofFields (Slot.fields outcome.slots) := by
  unfold toJson slots Slot.fields
  cases outcome.action.target? <;> rfl

theorem slots_kept
    (outcome : AuthoredOutcome) :
    ∀ slot ∈ outcome.slots, slot.Kept fieldNames Parts.take {} := by
  have action : action? none outcome.action.name = some (untargeted outcome.action) := by
    cases outcome.action <;> rfl
  simp only [slots, List.forall_mem_cons]
  refine ⟨?_, ?_, ?_, ?_, by simp⟩
  · exact Slot.kept_some (by decide) fun _ => (Json.stores_string _).map _
  · exact Slot.kept_some (by decide) fun _ => (Json.stores_string _).map _
  · exact Slot.kept_some (by decide) fun _ => (Json.stores_choice action).map _
  · exact Slot.kept_optional (fun (parts : Parts) target => { parts with target := target })
      (by decide) (fun _ _ => rfl) (fun target _ => ofInt32_ne_null target)
      (fun target _ => stores_int32 target) rfl

/-- An authored outcome is built from its own parts. -/
theorem build_self
    (outcome : AuthoredOutcome) :
    build outcome.id outcome.label outcome.action = .ok outcome := by
  unfold build
  split
  · rfl
  · rename_i blank
    rw [outcome.solidId] at blank
    cases blank

/-- The stored form of an authored outcome is read as that outcome. -/
theorem stores_outcome
    (outcome : AuthoredOutcome) :
    Stores AuthoredOutcome.read outcome outcome.toJson := by
  intro arranged rearranged
  rw [toJson_eq] at rearranged
  have commute : outcome.slots.Pairwise Slot.Commute := by
    simp [slots, Slot.Commute]
  have parts :=
    Json.stores_record (by simp [slots]) commute outcome.slots_kept arranged rearranged
  have aimed :
      (match untargeted outcome.action with
        | .jump _ => .jump outcome.action.target?
        | other => other) = outcome.action := by
    cases outcome.action <;> rfl
  unfold AuthoredOutcome.read
  rw [parts]
  change accept (build outcome.id outcome.label
      (match untargeted outcome.action with
        | .jump _ => .jump outcome.action.target?
        | other => other)) = .ok outcome
  rw [aimed, build_self]
  rfl

theorem legible
    (room : Nat)
    (outcome : AuthoredOutcome) :
    Legible (room + 1) outcome.toJson := by
  rw [toJson_eq]
  apply Json.legible_record
  simp only [slots, List.forall_mem_cons, Option.mem_some_iff, forall_eq']
  refine ⟨.string _, .string _, .string _, ?_, by simp⟩
  intro json stored
  obtain ⟨target, _, rfl⟩ := Option.map_eq_some_iff.mp stored
  exact legible_ofInt32 room target

end AuthoredOutcome

/-! ## Steps -/

namespace Step

/-- Whether the time that a step records exists. -/
def Timely
    (step : Step) :
    Prop :=
  ∀ time ∈ step.record.completedAt, time.Kept

/-- The fields of a step, with what each does to the parts read so far. -/
def slots
    (step : Step) :
    List (Slot Parts) :=
  [⟨"id", some (.ofInt64 step.id), fun parts => { parts with id := some step.id }⟩,
    ⟨"template_step_id", some (.ofOption .ofInt64 step.plan.templateStepId),
      fun parts => { parts with templateStepId := step.plan.templateStepId }⟩,
    ⟨"name", some (.string step.name), fun parts => { parts with name := some step.name }⟩,
    ⟨"status", some (.string step.status.name),
      fun parts => { parts with status := step.status }⟩,
    ⟨"step_order", some (.ofInt32 step.order),
      fun parts => { parts with order := some step.order }⟩,
    ⟨"is_conditional", some (.bool step.plan.isConditional),
      fun parts => { parts with isConditional := step.plan.isConditional }⟩,
    ⟨"forced_conditional", some (.bool step.plan.forcedConditional),
      fun parts => { parts with forcedConditional := step.plan.forcedConditional }⟩,
    ⟨"success_record_type", some (.string step.plan.recordKind.name),
      fun parts => { parts with recordKind := step.plan.recordKind }⟩,
    ⟨"success_options", some (.array (step.plan.outcomes.map AuthoredOutcome.toJson)),
      fun parts => { parts with outcomes := step.plan.outcomes }⟩,
    ⟨"completed_at",
      some (.ofOption (fun time => .string (time.render .exact)) step.record.completedAt),
      fun parts => { parts with completedAt := step.record.completedAt }⟩,
    ⟨"performed_by", some (.ofOption .string step.record.performedBy),
      fun parts => { parts with performedBy := step.record.performedBy }⟩]

theorem toJson_eq
    (step : Step) :
    step.toJson = .ofFields (Slot.fields step.slots) :=
  rfl

theorem slots_kept
    {step : Step}
    (timely : step.Timely) :
    ∀ slot ∈ step.slots, slot.Kept fieldNames Parts.take {} := by
  have templateId :
      Stores (readOptional readInt64 : Document → TaskReading (Option Int64))
        step.plan.templateStepId (.ofOption .ofInt64 step.plan.templateStepId) :=
    Json.stores_ofOption (fun id _ => ofInt64_ne_null id) fun id _ => stores_int64 id
  have status : Stores readStatus step.status (.string step.status.name) :=
    Json.stores_choice (by rw [StepStatus.ofName_name])
  have recordKind :=
    (Json.stores_choice (ε := TaskFault) (RecordKind.ofName?_name step.plan.recordKind)).orDefault
      .none (by simp)
  have outcomes :=
    (Json.stores_list fun outcome (_ : outcome ∈ step.plan.outcomes) =>
      outcome.stores_outcome).orDefault [] (by simp)
  have completedAt :
      Stores (readOptional readTime) step.record.completedAt
        (.ofOption (fun time => .string (time.render .exact)) step.record.completedAt) :=
    Json.stores_ofOption (fun _ _ => by simp) fun time isTime => stores_time (timely time isTime)
  have performedBy :
      Stores (readOptional readString : Document → TaskReading (Option String))
        step.record.performedBy (.ofOption .string step.record.performedBy) :=
    Json.stores_ofOption (fun _ _ => by simp) fun text _ => Json.stores_string text
  simp only [slots, List.forall_mem_cons]
  refine ⟨?_, ?_, ?_, ?_, ?_, ?_, ?_, ?_, ?_, ?_, ?_, by simp⟩
  · exact Slot.kept_some (by decide) fun _ => (stores_int64 _).map _
  · exact Slot.kept_some (by decide) fun _ => templateId.map _
  · exact Slot.kept_some (by decide) fun _ => (Json.stores_string _).map _
  · exact Slot.kept_some (by decide) fun _ => status.map _
  · exact Slot.kept_some (by decide) fun _ => (stores_int32 _).map _
  · exact Slot.kept_some (by decide) fun _ => (Json.stores_bool _).map _
  · exact Slot.kept_some (by decide) fun _ => (Json.stores_bool _).map _
  · exact Slot.kept_some (by decide) fun _ => recordKind.map _
  · exact Slot.kept_some (by decide) fun _ => outcomes.map _
  · exact Slot.kept_some (by decide) fun _ => completedAt.map _
  · exact Slot.kept_some (by decide) fun _ => performedBy.map _

/-- A step is built from its own parts. -/
theorem build_self
    (step : Step) :
    build {
        id := step.id
        name := step.name
        order := step.order
        templateStepId := step.plan.templateStepId
        isConditional := step.plan.isConditional
        forcedConditional := step.plan.forcedConditional
        recordKind := step.plan.recordKind
        outcomes := step.plan.outcomes
        record := step.record } =
      .ok step := by
  have noneRepeated : firstRepeated? [] (step.plan.outcomes.map AuthoredOutcome.id) = none :=
    firstRepeated?_eq_none_of_nodup step.plan.distinctOutcomes (by simp)
  unfold build
  split
  · rename_i blank
    rw [name, step.plan.solidName] at blank
    cases blank
  · split
    · rename_i repeated
      rw [noneRepeated] at repeated
      cases repeated
    · rfl

/-- The stored form of a step is read as that step. -/
theorem stores_step
    {step : Step}
    (timely : step.Timely) :
    Stores Step.read step step.toJson := by
  intro arranged rearranged
  rw [toJson_eq] at rearranged
  have commute : step.slots.Pairwise Slot.Commute := by
    simp [slots, Slot.Commute]
  have parts :=
    Json.stores_record (by simp [slots]) commute (slots_kept timely) arranged rearranged
  unfold Step.read
  rw [parts]
  exact congrArg accept (build_self step)

/-- Taking a field leaves the time of the parts alone, or reads one that exists. -/
theorem timely_of_take
    {parts taken : Parts}
    {name : String}
    {value : Document}
    (timely : ∀ time ∈ parts.completedAt, time.Kept)
    (takes : parts.take name value = .ok taken) :
    ∀ time ∈ taken.completedAt, time.Kept := by
  have changed :
      taken.completedAt = parts.completedAt ∨
        value.readOptional readTime = .ok taken.completedAt := by
    unfold Parts.take at takes
    split at takes <;> obtain ⟨inner, reads, rfl⟩ := Except.map_eq_ok_iff.mp takes <;>
      first
        | exact .inr reads
        | exact .inl rfl
  rcases changed with same | reads
  · rw [same]
    exact timely
  · intro time isTime
    rw [Option.mem_def.mp isTime] at reads
    obtain ⟨written, _, found⟩ := Except.bind_eq_ok_iff.mp (read_of_readOptional reads)
    cases given : Timestamp.read written with
    | none =>
        rw [given] at found
        cases found
    | some kept =>
        rw [given] at found
        cases found
        exact Timestamp.kept_of_read given

theorem record_of_build
    {parts : StepParts}
    {step : Step}
    (built : build parts = .ok step) :
    step.record = parts.record := by
  unfold build at built
  split at built
  · cases built
  · split at built
    · cases built
    · cases built
      rfl

/-- The time of a step that was read exists. -/
theorem timely_of_read
    {document : Document}
    {step : Step}
    (reads : Step.read document = .ok step) :
    step.Timely := by
  obtain ⟨parts, readsParts, reads⟩ := Except.bind_eq_ok_iff.mp reads
  obtain ⟨id, _, reads⟩ := Except.bind_eq_ok_iff.mp reads
  obtain ⟨name, _, reads⟩ := Except.bind_eq_ok_iff.mp reads
  obtain ⟨order, _, reads⟩ := Except.bind_eq_ok_iff.mp reads
  have timely : ∀ time ∈ parts.completedAt, time.Kept :=
    readRecord_induction (motive := fun parts => ∀ time ∈ parts.completedAt, time.Kept)
      (by simp) (fun _ _ _ _ _ timely takes => timely_of_take timely takes) readsParts
  have sameRecord := record_of_build (accept_eq_ok_iff.mp reads)
  unfold Timely
  rw [sameRecord]
  exact timely

theorem legible
    (room : Nat)
    (step : Step) :
    Legible (room + 3) step.toJson := by
  rw [toJson_eq]
  apply Json.legible_record
  have outcomes :
      Legible (room + 2) (.array (step.plan.outcomes.map AuthoredOutcome.toJson)) :=
    Json.legible_list fun outcome _ => outcome.legible room
  simp only [slots, List.forall_mem_cons, Option.mem_some_iff, forall_eq']
  refine ⟨legible_ofInt64 _ _, ?_, .string _, .string _, legible_ofInt32 _ _, .bool _, .bool _,
    .string _, outcomes, ?_, ?_, by simp⟩
  · exact Json.legible_ofOption fun id _ => legible_ofInt64 _ id
  · exact Json.legible_ofOption fun time _ => .string _
  · exact Json.legible_ofOption fun text _ => .string text

end Step

/-! ## Tasks -/

namespace FieldTask

/-- Whether the times that the steps of a task record exist. -/
def Timely
    (task : FieldTask) :
    Prop :=
  ∀ step ∈ task.steps, step.Timely

/-- The fields of a task, with what each does to the parts read so far. -/
def slots
    (task : FieldTask) :
    List (Slot Parts) :=
  [⟨"id", some (.ofInt64 task.id), fun parts => { parts with id := some task.id }⟩,
    ⟨"template_id", some (.ofOption .ofInt64 task.templateId),
      fun parts => { parts with templateId := task.templateId }⟩,
    ⟨"steps", some (.array (task.steps.map Step.toJson)),
      fun parts => { parts with steps := task.steps }⟩,
    ⟨"completion_percentage", some (.ofReal task.percentage.value),
      fun parts => { parts with percentage := task.percentage.value }⟩]

theorem toJson_eq
    (task : FieldTask) :
    task.toJson = .ofFields (Slot.fields task.slots) :=
  rfl

theorem slots_kept
    {task : FieldTask}
    (timely : task.Timely) :
    ∀ slot ∈ task.slots, slot.Kept fieldNames Parts.take {} := by
  have templateId :
      Stores (readOptional readInt64 : Document → TaskReading (Option Int64))
        task.templateId (.ofOption .ofInt64 task.templateId) :=
    Json.stores_ofOption (fun id _ => ofInt64_ne_null id) fun id _ => stores_int64 id
  have steps :=
    Json.stores_list fun step (member : step ∈ task.steps) =>
      Step.stores_step (timely step member)
  simp only [slots, List.forall_mem_cons]
  refine ⟨?_, ?_, ?_, ?_, by simp⟩
  · exact Slot.kept_some (by decide) fun _ => (stores_int64 _).map _
  · exact Slot.kept_some (by decide) fun _ => templateId.map _
  · exact Slot.kept_some (by decide) fun _ => steps.map _
  · exact Slot.kept_some (by decide) fun _ => (Json.stores_real _).map _

/-- A task is built from its own parts. -/
theorem build_self
    (task : FieldTask) :
    build {
        id := task.id
        templateId := task.templateId
        steps := task.steps
        percentage := task.percentage.value } =
      .ok task :=
  build_eq_ok_iff.mpr
    ⟨rfl, task.ids_nodup, orders_nodup_of_ascending task.ascending, rfl, rfl,
      (sortSteps_of_ascending task.ascending).symm⟩

/-- The stored form of a task is read as that task. -/
theorem stores_task
    {task : FieldTask}
    (timely : task.Timely) :
    Stores FieldTask.read task task.toJson := by
  intro arranged rearranged
  rw [toJson_eq] at rearranged
  have commute : task.slots.Pairwise Slot.Commute := by
    simp [slots, Slot.Commute]
  have parts :=
    Json.stores_record (by simp [slots]) commute (slots_kept timely) arranged rearranged
  unfold FieldTask.read
  rw [parts]
  exact congrArg accept (build_self task)

theorem legible
    (room : Nat)
    {task : FieldTask}
    (percentage : (Json.Number.real task.percentage.value).ReadsBack) :
    Legible (room + 5) task.toJson := by
  rw [toJson_eq]
  apply Json.legible_record
  have steps : Legible (room + 4) (.array (task.steps.map Step.toJson)) :=
    Json.legible_list fun step _ => step.legible room
  simp only [slots, List.forall_mem_cons, Option.mem_some_iff, forall_eq']
  refine ⟨legible_ofInt64 _ _, ?_, steps, .number percentage, by simp⟩
  exact Json.legible_ofOption fun id _ => legible_ofInt64 _ id

/-- The times of a task that was read exist. -/
theorem timely_of_read
    {document : Document}
    {task : FieldTask}
    (reads : FieldTask.read document = .ok task) :
    task.Timely := by
  obtain ⟨parts, readsParts, reads⟩ := Except.bind_eq_ok_iff.mp reads
  obtain ⟨id, _, reads⟩ := Except.bind_eq_ok_iff.mp reads
  have timely : ∀ step ∈ parts.steps, step.Timely := by
    refine readRecord_induction (motive := fun parts => ∀ step ∈ parts.steps, step.Timely)
      (by simp) ?_ readsParts
    intro draft name value taken _ timely takes
    have changed :
        taken.steps = draft.steps ∨ value.readList Step.read = .ok taken.steps := by
      unfold Parts.take at takes
      split at takes <;> obtain ⟨inner, reads, rfl⟩ := Except.map_eq_ok_iff.mp takes <;>
        first
          | exact .inr reads
          | exact .inl rfl
    rcases changed with same | readsSteps
    · rw [same]
      exact timely
    · intro step member
      obtain ⟨_, _, readsStep⟩ := exists_part_of_readList readsSteps member
      exact Step.timely_of_read readsStep
  obtain ⟨_, _, _, _, _, sorted⟩ := build_eq_ok_iff.mp (accept_eq_ok_iff.mp reads)
  intro step member
  rw [sorted, (sortSteps_perm _).mem_iff] at member
  exact timely step member

/-- A change whose own time exists brings in no time that does not. -/
theorem timely_of_perform
    {task : FieldTask}
    {edit : TaskEdit}
    (timely : task.Timely)
    (kept : ∀ step next time performer, edit = .move step next time performer → time.Kept) :
    (task.perform edit).Timely := by
  intro step member
  obtain ⟨old, inTask, same | blank | ⟨next, time, performer, isMove, moves⟩⟩ :=
    record_of_perform member
  · unfold Step.Timely
    rw [same]
    exact timely old inTask
  · unfold Step.Timely
    rw [blank]
    simp [Step.reopened]
  · unfold Step.Timely
    rcases Step.completedAt_of_moveTo moves with new | unchanged
    · rw [new]
      rintro _ ⟨⟩
      exact kept _ _ _ _ isMove
    · rw [unchanged]
      exact timely old inTask

theorem timely_of_run
    {task : FieldTask}
    {edits : List TaskEdit}
    (timely : task.Timely)
    (kept : ∀ step next time performer, .move step next time performer ∈ edits → time.Kept) :
    (task.run edits).Timely := by
  induction edits generalizing task with
  | nil =>
      exact timely
  | cons edit rest inductionHypothesis =>
      refine inductionHypothesis (timely_of_perform timely ?_) ?_
      · rintro step next time performer rfl
        exact kept step next time performer (by simp)
      · intro step next time performer member
        exact kept step next time performer (by simp [member])

/--
Whatever document a task was read from and whatever changes were made to it,
its stored form is read as the same task, in whatever order the fields of its
objects are written.  So is the text of that form, provided that the text of
the percentage is read as that percentage.
-/
theorem stored_task_is_read_back
    {document : Document}
    {task : FieldTask}
    {edits : List TaskEdit}
    {written : Json}
    (reads : read document = .ok task)
    (kept : ∀ step next time performer, .move step next time performer ∈ edits → time.Kept)
    (rearranged : Rearranged (task.run edits).toJson written) :
    ofJson written = .ok (task.run edits) ∧
      ((Json.Number.real (task.run edits).percentage.value).ReadsBack →
        ofText written.render = .ok (task.run edits)) := by
  have timely : (task.run edits).Timely := timely_of_run (timely_of_read reads) kept
  have readsBack : ofJson written = .ok (task.run edits) := stores_task timely written rearranged
  refine ⟨readsBack, fun percentage => ?_⟩
  have sameDocument : Document.ofText written.render = (.ofJson written, true) :=
    Json.ofText_rearranged (legible 122 percentage) rearranged
  unfold ofJson at readsBack
  simp only [ofText, sameDocument, readsBack]
  rfl

/--
A task with a status that is not known, a target beside an action that takes
none, a time away from universal time and a percentage that is no integer.
-/
def halfDone : Json :=
  .ofFields
    [("id", .ofInt 7),
      ("steps", .array
        [.ofFields
          [("id", .ofInt 12),
            ("name", .string "Lock up"),
            ("status", .string "paused"),
            ("step_order", .ofInt 30),
            ("success_options", .array
              [.ofFields
                [("id", .string "later"),
                  ("action", .string "repeat"),
                  ("next_step", .ofInt 10)]]),
            ("completed_at", .string "2024-02-29T23:59:60.25-01:30")],
          .ofFields
            [("id", .ofInt 11),
              ("name", .string "Look in"),
              ("status", .string "pending"),
              ("step_order", .ofInt 10),
              ("success_options", .null)]]),
      ("completion_percentage", .ofReal ⟨false, 75 * 2 ^ 46, 1027, by decide⟩)]

/-- The first step is done, under a name, in the last second of a year. -/
def lookedIn : List TaskEdit :=
  [.move 11 .inProgress ⟨⟨2024, 12, 31⟩, 86399, 0⟩ none,
    .move 11 .completed ⟨⟨2024, 12, 31⟩, 86399, 1500000000⟩ (some "night shift")]

theorem stored_task_is_read_back_half_done :
    ∃ task,
      read (.ofJson halfDone) = .ok task ∧
        (task.run lookedIn).steps.map Step.status = [.completed, .unrecognized] ∧
        (task.run lookedIn).steps.map (fun step => step.plan.outcomes.map AuthoredOutcome.action) =
          [[], [.again]] ∧
        ofJson (task.run lookedIn).toJson = .ok (task.run lookedIn) ∧
        ofText (task.run lookedIn).toJson.render = .ok (task.run lookedIn) := by
  have facts :
      (read (.ofJson halfDone)).toOption.map (fun task =>
          ((task.run lookedIn).steps.map Step.status,
            (task.run lookedIn).steps.map fun step =>
              step.plan.outcomes.map AuthoredOutcome.action,
            decide (Json.Number.real (task.run lookedIn).percentage.value).ReadsBack)) =
        some ([.completed, .unrecognized], [[], [.again]], true) := by
    decide +kernel
  obtain ⟨task, isTask, facts⟩ := Option.map_eq_some_iff.mp facts
  have reads : read (.ofJson halfDone) = .ok task := Except.toOption_eq_some_iff.mp isTask
  simp only [Prod.mk.injEq, decide_eq_true_eq] at facts
  obtain ⟨statuses, actions, percentage⟩ := facts
  have kept :
      ∀ step next time performer,
        .move step next time performer ∈ lookedIn → time.Kept := by
    intro step next time performer member
    simp only [lookedIn, List.mem_cons, TaskEdit.move.injEq, List.not_mem_nil, or_false] at member
    rcases member with ⟨-, -, rfl, -⟩ | ⟨-, -, rfl, -⟩ <;>
      exact ⟨by decide, by decide, by decide, by decide⟩
  have readsBack := stored_task_is_read_back reads kept (Rearranged.refl _)
  exact ⟨task, reads, statuses, actions, readsBack.1, readsBack.2 percentage⟩

end FieldTask

end Fieldwork
