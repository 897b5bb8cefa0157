import Fieldwork.Proofs.Number.Nearest
import Fieldwork.Proofs.Number.ReadBack
import Fieldwork.Proofs.Task.Records
import Fieldwork.Runner.Screen

namespace Fieldwork

/-!
# The percentage of completion

The percentage of a recounted task is the share of its steps in a final state, rounded
to a whole percent, a half going up.  It is one hundred where at most one step in two
hundred is open, and zero where fewer than one in two hundred are in a final state.  Only
of a task with fewer steps does it tell whether all of them are done.
-/

open Binary64 (stepsPerUnit stepsPerUnit_pos)

namespace Percentage

variable {percentage : Percentage} {percent other part whole : Nat}

/-- Whether a percentage is a whole number of percent. -/
def IsWhole
    (percentage : Percentage)
    (percent : Nat) :
    Prop :=
  percentage.value.steps = percent * (stepsPerUnit : Int)

theorem IsWhole.unique
    (isWhole : percentage.IsWhole percent)
    (isOther : percentage.IsWhole other) :
    percent = other := by
  have sameSteps : (percent : Int) * stepsPerUnit = other * stepsPerUnit :=
    isWhole.symm.trans isOther
  have unitPositive : (stepsPerUnit : Int) ≠ 0 := by
    exact_mod_cast stepsPerUnit_pos.ne'
  exact_mod_cast Int.eq_of_mul_eq_mul_right unitPositive sameSteps

/-- Up to one hundred, a natural is itself as a percentage. -/
theorem isWhole_ofNat
    (small : percent ≤ 100) :
    (ofNat percent).IsWhole percent := by
  obtain ⟨number, isNumber, steps⟩ :
      ∃ number : Binary64,
        Binary64.ofInt? percent = some number ∧
          number.steps = Binary64.nearestInteger percent * stepsPerUnit :=
    Binary64.exists_ofInt? (by omega)
  rw [Binary64.nearestInteger_of_lt (by omega)] at steps
  have atLeast : 0 ≤ number.steps := by
    rw [steps]
    exact Int.mul_nonneg (Int.natCast_nonneg percent) (Int.natCast_nonneg stepsPerUnit)
  have atMost : number.steps ≤ 100 * (stepsPerUnit : Int) := by
    rw [steps]
    exact Int.mul_le_mul_of_nonneg_right (by omega) (Int.natCast_nonneg stepsPerUnit)
  have isPercentage : ofNat percent = ⟨number, atLeast, atMost⟩ := by
    simp only [ofNat, isNumber, Option.bind_some, ofReal?, dif_pos atLeast, dif_pos atMost,
      Option.getD_some]
  rw [isPercentage]
  exact steps

/-- A share is the whole number of percent that is nearest to it, a half going up. -/
theorem isWhole_share
    (bounded : part ≤ whole)
    (some : 0 < whole) :
    (share part whole).IsWhole ((200 * part + whole) / (2 * whole)) := by
  have positive : 0 < 2 * whole := by omega
  rw [share, if_neg some.ne']
  refine isWhole_ofNat (Nat.lt_succ_iff.mp ((Nat.div_lt_iff_lt_mul positive).mpr ?_))
  omega

theorem isWhole_share_iff
    (bounded : part ≤ whole)
    (some : 0 < whole) :
    (share part whole).IsWhole percent ↔
      percent * (2 * whole) ≤ 200 * part + whole ∧
        200 * part + whole < (percent + 1) * (2 * whole) := by
  have positive : 0 < 2 * whole := by omega
  have nearest := isWhole_share bounded some
  have isQuotient :
      (share part whole).IsWhole percent ↔ (200 * part + whole) / (2 * whole) = percent :=
    ⟨nearest.unique, fun same => same ▸ nearest⟩
  rw [isQuotient, Nat.div_eq_iff positive, Nat.add_one_mul percent]
  omega

/-- All of nothing is everything. -/
theorem isWhole_share_of_none :
    (share part 0).IsWhole 100 := by
  rw [share, if_pos rfl]
  exact isWhole_ofNat (Nat.le_refl 100)

theorem exists_isWhole_share
    (bounded : part ≤ whole) :
    ∃ percent, (share part whole).IsWhole percent := by
  rcases Nat.eq_zero_or_pos whole with rfl | some
  · exact ⟨100, isWhole_share_of_none⟩
  · exact ⟨_, isWhole_share bounded some⟩

/-- A share is one hundred percent where at most one in two hundred is missing. -/
theorem isWhole_share_hundred_iff
    (bounded : part ≤ whole) :
    (share part whole).IsWhole 100 ↔ 200 * (whole - part) ≤ whole := by
  rcases Nat.eq_zero_or_pos whole with rfl | some
  · exact iff_of_true isWhole_share_of_none (by omega)
  · rw [isWhole_share_iff bounded some]
    omega

/-- A share is zero where it is less than one in two hundred. -/
theorem isWhole_share_zero_iff
    (bounded : part ≤ whole) :
    (share part whole).IsWhole 0 ↔ 200 * part < whole := by
  rcases Nat.eq_zero_or_pos whole with rfl | some
  · refine iff_of_false (fun isZero => ?_) (by omega)
    exact absurd (isZero.unique isWhole_share_of_none) (by decide)
  · rw [isWhole_share_iff bounded some]
    omega

/-- A whole percentage is written as a natural above zero where it is that natural. -/
theorem IsWhole.wholeText_eq_iff
    (isWhole : percentage.IsWhole percent)
    (positive : 0 < other) :
    percentage.value.wholeText = String.ofList (digitsOf other) ↔ percent = other := by
  unfold IsWhole Binary64.steps at isWhole
  simp only [Binary64.wholeText, String.ofList_inj]
  by_cases negative : percentage.value.negative = true
  · -- Of the whole percentages, only zero can have a minus sign, and it is written with it.
    rw [if_pos negative] at isWhole ⊢
    refine iff_of_false (fun same => ?_) ?_
    · have isDigit : isDigit '-' = true :=
        isDigit_of_mem_digitsOf (same ▸ List.mem_cons_self)
      exact absurd isDigit (by decide)
    · rintro rfl
      have above : 0 < (percent : Int) * stepsPerUnit :=
        Int.mul_pos (by exact_mod_cast positive) (by exact_mod_cast stepsPerUnit_pos)
      omega
  · rw [if_neg negative] at isWhole ⊢
    have magnitude : percentage.value.magnitude = percent * stepsPerUnit := by
      exact_mod_cast isWhole
    rw [magnitude, Binary64.roundQuotient_mul_self percent stepsPerUnit_pos]
    constructor
    · intro sameDigits
      rw [← naturalOf_digitsOf percent, sameDigits, naturalOf_digitsOf]
    · rintro rfl
      rfl

end Percentage

namespace FieldTask

/-- How many steps are not in a final state. -/
def openCount
    (task : FieldTask) :
    Nat :=
  (task.steps.filter fun step => !step.status.isTerminal).length

variable {task : FieldTask}

theorem percentage_recomputed
    (task : FieldTask) :
    task.recomputed.percentage = .share task.resolvedCount task.steps.length :=
  rfl

theorem openCount_add_resolvedCount
    (task : FieldTask) :
    task.openCount + task.resolvedCount = task.steps.length := by
  unfold openCount resolvedCount
  rw [Nat.add_comm]
  exact (List.length_eq_length_filter_add _).symm

theorem isTerminal_iff :
    task.isTerminal = true ↔ task.openCount = 0 := by
  simp [isTerminal, openCount, List.filter_eq_nil_iff]

theorem resolvedCount_eq_zero_iff :
    task.resolvedCount = 0 ↔ ∀ step ∈ task.steps, step.status.isTerminal = false := by
  simp [resolvedCount, List.filter_eq_nil_iff]

/-- The first line of the screen shows a whole percentage. -/
theorem head?_taskLines_eq_iff
    {percent other : Nat}
    (isWhole : task.percentage.IsWhole percent)
    (positive : 0 < other) :
    (Screen.taskLines task).head? =
        some ("task " ++ integerText task.id.toInt ++ " (" ++ String.ofList (digitsOf other) ++
          "% complete)") ↔
      task.percentage.IsWhole other := by
  have isOther : task.percentage.IsWhole other ↔ percent = other :=
    ⟨isWhole.unique, fun same => same ▸ isWhole⟩
  rw [isOther, ← isWhole.wholeText_eq_iff positive]
  simp [Screen.taskLines, String.append_left_inj, String.append_right_inj]

/--
The percentage of a recounted task is one hundred where at most one step in two hundred
is open, which is when the screen shows it as done, and zero where fewer than one in two
hundred are in a final state.  So it tells whether every step of a task is in a final
state where there are fewer than two hundred, and whether none is where there are no more.
-/
theorem percentage_tells_the_ends
    (task : FieldTask) :
    (task.recomputed.percentage.IsWhole 100 ↔ 200 * task.openCount ≤ task.steps.length) ∧
      (task.recomputed.percentage.IsWhole 0 ↔ 200 * task.resolvedCount < task.steps.length) ∧
      ((Screen.taskLines task.recomputed).head? =
          some ("task " ++ integerText task.id.toInt ++ " (100% complete)") ↔
        200 * task.openCount ≤ task.steps.length) ∧
      (task.steps.length < 200 →
        (task.recomputed.percentage.IsWhole 100 ↔ task.isTerminal = true)) ∧
      (task.steps.length ≤ 200 →
        (task.recomputed.percentage.IsWhole 0 ↔
          task.steps ≠ [] ∧ ∀ step ∈ task.steps, step.status.isTerminal = false)) := by
  have counts := task.openCount_add_resolvedCount
  have bounded : task.resolvedCount ≤ task.steps.length := by omega
  have hundred :
      task.recomputed.percentage.IsWhole 100 ↔ 200 * task.openCount ≤ task.steps.length := by
    refine (Percentage.isWhole_share_hundred_iff bounded).trans ?_
    omega
  have zero :
      task.recomputed.percentage.IsWhole 0 ↔ 200 * task.resolvedCount < task.steps.length :=
    Percentage.isWhole_share_zero_iff bounded
  obtain ⟨percent, isWhole⟩ := Percentage.exists_isWhole_share bounded
  have shown :
      (Screen.taskLines task.recomputed).head? =
          some ("task " ++ integerText task.id.toInt ++ " (" ++ String.ofList (digitsOf 100) ++
            "% complete)") ↔
        task.recomputed.percentage.IsWhole 100 :=
    head?_taskLines_eq_iff isWhole (by decide)
  refine ⟨hundred, zero, ?_, ?_, ?_⟩
  · rw [← hundred, ← shown]
    simp only [String.append_assoc]
    rfl
  · intro few
    rw [hundred, isTerminal_iff]
    omega
  · intro few
    rw [zero, ← resolvedCount_eq_zero_iff, ← List.length_pos_iff]
    omega

/-- The plan of closing one of many valves. -/
def valvePlan
    (number : Nat) :
    StepPlan :=
  (Step.plain (.ofNat number) (.ofNat number) "Close the valve" (by decide)).plan

theorem wellOrdered_valvePlans
    {count : Nat}
    (few : count ≤ 2 ^ 31) :
    WellOrdered ((List.range count).map valvePlan) := by
  constructor
  · rw [List.map_map]
    refine List.Nodup.map_on ?_ List.nodup_range
    intro left leftMember right rightMember same
    have leftSmall := List.mem_range.mp leftMember
    have rightSmall := List.mem_range.mp rightMember
    have sameNumber : (Int64.ofNat left).toInt = (Int64.ofNat right).toInt :=
      congrArg Int64.toInt same
    rw [Int64.toInt_ofNat_of_lt (by omega), Int64.toInt_ofNat_of_lt (by omega)] at sameNumber
    omega
  · rw [List.map_map, List.pairwise_map]
    refine List.pairwise_lt_range.imp_of_mem ?_
    intro left right leftMember rightMember before
    have leftSmall := List.mem_range.mp leftMember
    have rightSmall := List.mem_range.mp rightMember
    exact (Int32.ofNat_lt_iff_lt (by omega) (by omega)).mpr before

/-- Valves to be closed one by one, of which the first ones are. -/
def valves
    (count closed : Nat)
    (few : count ≤ 2 ^ 31) :
    FieldTask where
  id := 7
  templateId := none
  steps := (List.range count).map fun number =>
    ⟨valvePlan number, { status := if number < closed then .completed else .pending }⟩
  percentage := .zero
  wellOrdered := by
    rw [List.map_map]
    exact wellOrdered_valvePlans few

theorem length_steps_valves
    {count closed : Nat}
    (few : count ≤ 2 ^ 31) :
    (valves count closed few).steps.length = count := by
  simp [valves]

/-- Of three valves, the percentage tells that all are closed, and that two are not all. -/
theorem percentage_tells_the_ends_three_valves :
    (valves 3 3 (by decide)).steps.length < 200 ∧
      (valves 3 3 (by decide)).recomputed.percentage.IsWhole 100 ∧
      ¬ (valves 3 2 (by decide)).recomputed.percentage.IsWhole 100 ∧
      ¬ (valves 3 2 (by decide)).recomputed.percentage.IsWhole 0 := by
  obtain ⟨_, _, _, allOf, _⟩ := percentage_tells_the_ends (valves 3 3 (by decide))
  obtain ⟨_, _, _, allOfTwo, noneOfTwo⟩ := percentage_tells_the_ends (valves 3 2 (by decide))
  rw [length_steps_valves] at allOf allOfTwo noneOfTwo
  refine ⟨by decide, (allOf (by decide)).mpr rfl, ?_, ?_⟩
  · rw [allOfTwo (by decide)]
    decide
  · rw [noneOfTwo (by decide), ← resolvedCount_eq_zero_iff]
    decide

/--
With one valve of two hundred open the percentage is one hundred, and with one of two
hundred and one closed it is zero.
-/
theorem rounding_hides_a_step :
    (valves 200 199 (by decide)).recomputed.percentage.IsWhole 100 ∧
      (valves 200 199 (by decide)).isTerminal = false ∧
      (valves 201 1 (by decide)).recomputed.percentage.IsWhole 0 ∧
      ∃ step ∈ (valves 201 1 (by decide)).steps, step.status.isTerminal = true := by
  have allButOne : (valves 200 199 (by decide)).resolvedCount = 199 := by
    decide +kernel
  have one : (valves 201 1 (by decide)).resolvedCount = 1 := by
    decide +kernel
  refine ⟨?_, by decide +kernel, ?_, _, List.mem_cons_self, rfl⟩
  · rw [percentage_recomputed, allButOne, length_steps_valves]
    exact (Percentage.isWhole_share_hundred_iff (by decide)).mpr (by decide)
  · rw [percentage_recomputed, one, length_steps_valves]
    exact (Percentage.isWhole_share_zero_iff (by decide)).mpr (by decide)

end FieldTask

end Fieldwork
