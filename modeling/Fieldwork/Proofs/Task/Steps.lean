import Mathlib.Data.List.Nodup
import Fieldwork.Task.Progress
import Fieldwork.Proofs.Fields

namespace Fieldwork

/-!
# Finding steps of a task

The steps of a task have distinct identifiers and stand in strictly ascending
order.  A step is therefore determined by its identifier and by its order, the
first step with a property is the one of least order, and the search by halves
finds what a look through the whole list finds.
-/

/-- Steps in strictly ascending order have distinct orders. -/
theorem orders_nodup_of_ascending
    {steps : List Step}
    (ascending : steps.Pairwise fun left right => left.order < right.order) :
    (steps.map Step.order).Nodup := by
  refine List.Pairwise.imp (fun before => ?_) (List.pairwise_map.mpr ascending)
  exact fun equal => Int32.lt_irrefl (equal ▸ before)

namespace FieldTask

theorem ids_nodup
    (task : FieldTask) :
    (task.steps.map Step.id).Nodup := by
  have distinct := task.wellOrdered.1
  rwa [List.map_map] at distinct

theorem ascending
    (task : FieldTask) :
    task.steps.Pairwise fun left right => left.order < right.order := by
  have ordered := task.wellOrdered.2
  rwa [List.map_map, List.pairwise_map] at ordered

/-- Two steps of a task with one identifier are the same. -/
theorem eq_of_id_eq
    {task : FieldTask}
    {left right : Step}
    (inLeft : left ∈ task.steps)
    (inRight : right ∈ task.steps)
    (same : left.id = right.id) :
    left = right :=
  List.inj_on_of_nodup_map task.ids_nodup inLeft inRight same

theorem eq_of_order_eq
    {task : FieldTask}
    {left right : Step}
    (inLeft : left ∈ task.steps)
    (inRight : right ∈ task.steps)
    (same : left.order = right.order) :
    left = right :=
  List.inj_on_of_nodup_map (orders_nodup_of_ascending task.ascending) inLeft inRight same

/-- The step found under an identifier is the one that has it. -/
theorem step?_eq_some_iff
    {task : FieldTask}
    {id : Int64}
    {step : Step} :
    task.step? id = some step ↔ step ∈ task.steps ∧ step.id = id :=
  find?_key_eq_some_iff task.ids_nodup

end FieldTask

/-- In ascending order, the first step with a property is the one of least order. -/
theorem find?_eq_some_iff_of_ascending
    {steps : List Step}
    {property : Step → Bool}
    {step : Step}
    (ascending : steps.Pairwise fun left right => left.order < right.order) :
    steps.find? property = some step ↔
      step ∈ steps ∧ property step ∧
        ∀ other ∈ steps, other.order < step.order → property other = false := by
  induction steps with
  | nil =>
      simp
  | cons head rest inductionHypothesis =>
      obtain ⟨headFirst, restAscending⟩ := List.pairwise_cons.mp ascending
      rw [List.find?_cons]
      cases holds : property head with
      | true =>
          constructor
          · intro found
            obtain rfl : head = step := by simpa using found
            refine ⟨by simp, holds, ?_⟩
            intro other member before
            rcases List.mem_cons.mp member with rfl | later
            · exact (Int32.lt_irrefl before).elim
            · exact (Int32.lt_asymm before (headFirst other later)).elim
          · rintro ⟨member, _, least⟩
            rcases List.mem_cons.mp member with rfl | later
            · rfl
            · have missing := least head (by simp) (headFirst step later)
              rw [holds] at missing
              cases missing
      | false =>
          simp only
          rw [inductionHypothesis restAscending]
          constructor
          · rintro ⟨member, found, least⟩
            refine ⟨by simp [member], found, ?_⟩
            intro other inSteps before
            rcases List.mem_cons.mp inSteps with rfl | later
            · exact holds
            · exact least other later before
          · rintro ⟨member, found, least⟩
            rcases List.mem_cons.mp member with rfl | later
            · rw [holds] at found
              cases found
            · exact ⟨later, found, fun other inRest =>
                least other (List.mem_cons_of_mem _ inRest)⟩

/-- In ascending order, a look for an order finds the step that has it. -/
theorem find?_order_eq_some_iff
    {steps : List Step}
    {order : Int32}
    {step : Step}
    (ascending : steps.Pairwise fun left right => left.order < right.order) :
    (steps.find? fun candidate => candidate.order = order) = some step ↔
      step ∈ steps ∧ step.order = order :=
  find?_key_eq_some_iff (orders_nodup_of_ascending ascending)

/-- A look for an order may compare with any step first and keep one side of it. -/
theorem find?_order_split
    {low high : List Step}
    {step : Step}
    (order : Int32)
    (ascending :
      (low ++ step :: high).Pairwise fun left right => left.order < right.order) :
    ((low ++ step :: high).find? fun candidate => candidate.order = order) =
      if step.order = order then some step
      else if order < step.order then
        low.find? fun candidate => candidate.order = order
      else
        high.find? fun candidate => candidate.order = order := by
  split
  · rename_i same
    exact (find?_order_eq_some_iff ascending).mpr ⟨by simp, same⟩
  · rename_i different
    rw [List.pairwise_append, List.pairwise_cons] at ascending
    obtain ⟨_, ⟨stepFirst, _⟩, lowFirst⟩ := ascending
    rw [List.find?_append, List.find?_cons_of_neg (by simpa using different)]
    split
    · rename_i below
      have noneHigh :
          (high.find? fun candidate => candidate.order = order) = none := by
        rw [List.find?_eq_none]
        intro candidate member same
        have same : candidate.order = order := by simpa using same
        exact Int32.lt_asymm below (same ▸ stepFirst candidate member)
      rw [noneHigh, Option.or_none]
    · rename_i notBelow
      have above : step.order < order :=
        Std.lt_of_le_of_ne (Int32.not_lt.mp notBelow) different
      have noneLow :
          (low.find? fun candidate => candidate.order = order) = none := by
        rw [List.find?_eq_none]
        intro candidate member same
        have same : candidate.order = order := by simpa using same
        exact Int32.lt_asymm above (same ▸ lowFirst candidate member step (by simp))
      rw [noneLow, Option.none_or]

namespace FieldTask

/--
The search by halves finds what a look through the whole list finds.  Every
round leaves a shorter list, so fuel beyond the length is never used up.
-/
theorem searchOrder_eq_find?
    {order : Int32}
    {fuel : Nat}
    {steps : List Step}
    (ascending : steps.Pairwise fun left right => left.order < right.order)
    (enough : steps.length < fuel) :
    searchOrder order fuel steps =
      steps.find? fun step => step.order = order := by
  induction fuel generalizing steps with
  | zero =>
      omega
  | succ fuel inductionHypothesis =>
      unfold searchOrder
      cases atMiddle : steps[steps.length / 2]? with
      | none =>
          have empty : steps = [] := by
            rw [List.getElem?_eq_none_iff] at atMiddle
            rw [← List.length_eq_zero_iff]
            omega
          simp [empty]
      | some step =>
          obtain ⟨inside, isMiddle⟩ := List.getElem?_eq_some_iff.mp atMiddle
          have halves :
              steps.take (steps.length / 2) ++
                  step :: steps.drop (steps.length / 2 + 1) =
                steps := by
            rw [← isMiddle, ← List.drop_eq_getElem_cons inside,
              List.take_append_drop]
          have lowShort : (steps.take (steps.length / 2)).length < fuel := by
            rw [List.length_take]
            omega
          have highShort : (steps.drop (steps.length / 2 + 1)).length < fuel := by
            rw [List.length_drop]
            omega
          have lowAscending :=
            ascending.sublist (List.take_sublist (steps.length / 2) steps)
          have highAscending :=
            ascending.sublist (List.drop_sublist (steps.length / 2 + 1) steps)
          have split := find?_order_split order (halves ▸ ascending)
          rw [halves] at split
          simp only [atMiddle]
          rw [split, inductionHypothesis lowAscending lowShort,
            inductionHypothesis highAscending highShort]

/-- The step found at an order is the one that has it. -/
theorem stepAt?_eq_some_iff
    {task : FieldTask}
    {order : Int32}
    {step : Step} :
    task.stepAt? order = some step ↔ step ∈ task.steps ∧ step.order = order := by
  rw [stepAt?, searchOrder_eq_find? task.ascending (by omega),
    find?_order_eq_some_iff task.ascending]

/-- A jump has a target where some step has the order. -/
theorem isNone_stepAt?_iff
    {task : FieldTask}
    {order : Int32} :
    (task.stepAt? order).isNone ↔ ∀ step ∈ task.steps, step.order ≠ order := by
  rw [Option.isNone_iff_eq_none, Option.eq_none_iff_forall_ne_some]
  constructor
  · intro missing step member same
    exact missing step (stepAt?_eq_some_iff.mpr ⟨member, same⟩)
  · intro missing step found
    obtain ⟨member, same⟩ := stepAt?_eq_some_iff.mp found
    exact missing step member same

/-- The step behind a step is the one that stands next in the list. -/
theorem stepAfter?_of_split
    {task : FieldTask}
    {earlier later : List Step}
    {step : Step}
    (shape : task.steps = earlier ++ step :: later) :
    task.stepAfter? step.id = later.head? := by
  have distinct := task.ids_nodup
  rw [shape, List.map_append, List.map_cons, List.nodup_append] at distinct
  have dropped :
      (task.steps.dropWhile fun other => other.id ≠ step.id) = step :: later := by
    rw [shape, List.dropWhile_append_of_pos]
    · simp
    · intro other member
      have different : other.id ≠ step.id :=
        distinct.2.2 other.id (List.mem_map_of_mem member) step.id (by simp)
      simpa using different
  rw [stepAfter?, dropped, List.head?_eq_getElem?]
  rfl

/-- The step behind a step is the least of those that come later, if there are any. -/
theorem stepAfter?_cases
    {task : FieldTask}
    {step : Step}
    (member : step ∈ task.steps) :
    (task.stepAfter? step.id = none ∧
        ∀ other ∈ task.steps, other.order ≤ step.order) ∨
      ∃ next ∈ task.steps,
        task.stepAfter? step.id = some next ∧
          step.order < next.order ∧
          ∀ other ∈ task.steps, step.order < other.order → next.order ≤ other.order := by
  obtain ⟨earlier, later, shape⟩ := List.append_of_mem member
  have ascending := task.ascending
  rw [shape, List.pairwise_append, List.pairwise_cons] at ascending
  obtain ⟨_, ⟨stepFirst, laterAscending⟩, earlierFirst⟩ := ascending
  rw [stepAfter?_of_split shape, shape]
  have notLater :
      ∀ other ∈ earlier, other.order ≤ step.order :=
    fun other inEarlier => Int32.le_of_lt (earlierFirst other inEarlier step (by simp))
  cases later with
  | nil =>
      refine .inl ⟨rfl, ?_⟩
      intro other inTask
      rcases List.mem_append.mp inTask with inEarlier | inRest
      · exact notLater other inEarlier
      · obtain rfl := List.mem_singleton.mp inRest
        exact Int32.le_refl other.order
  | cons next rest =>
      refine .inr ⟨next, by simp, rfl, stepFirst next (by simp), ?_⟩
      intro other inTask behind
      rcases List.mem_append.mp inTask with inEarlier | inRest
      · exact (Int32.lt_irrefl (Int32.lt_of_lt_of_le behind (notLater other inEarlier))).elim
      · rcases List.mem_cons.mp inRest with rfl | inLater
        · exact (Int32.lt_irrefl behind).elim
        · rcases List.mem_cons.mp inLater with rfl | inTail
          · exact Int32.le_refl other.order
          · exact Int32.le_of_lt ((List.pairwise_cons.mp laterAscending).1 other inTail)

end FieldTask

end Fieldwork
