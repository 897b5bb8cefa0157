import Mathlib.Data.List.Forall2
import Fieldwork.FieldValues

namespace Fieldwork

/-!
# What sameness of values leaves open

Sameness of recorded values compares numbers by their value.  Among values
without parts it is therefore equality, with one exception: the real zeros of
both signs are the same and yet not equal.
-/

namespace Binary64

/-- A canonical magnitude has one significand and one scale. -/
theorem Canonical.unique
    {significand significand' scale scale' : Nat}
    (left : Canonical significand scale)
    (right : Canonical significand' scale')
    (equal : significand * Nat.pow 2 scale = significand' * Nat.pow 2 scale') :
    significand = significand' ∧ scale = scale' := by
  wlog below : scale ≤ scale' generalizing significand significand' scale scale'
  · have flipped := this right left equal.symm (by omega)
    exact ⟨flipped.1.symm, flipped.2.symm⟩
  obtain ⟨more, rfl⟩ := Nat.exists_eq_add_of_le below
  have cancelled : significand = significand' * 2 ^ more := by
    have expanded :
        significand * 2 ^ scale = significand' * 2 ^ more * 2 ^ scale := by
      rw [Nat.mul_assoc, ← Nat.pow_add, Nat.add_comm more scale]
      exact equal
    exact Nat.eq_of_mul_eq_mul_right (Nat.two_pow_pos scale) expanded
  -- A greater scale would need all 53 bits, and then the magnitude has more.
  cases more with
  | zero =>
      exact ⟨by simpa using cancelled, rfl⟩
  | succ more =>
      have full : Nat.pow 2 52 ≤ significand' :=
        right.2.2.resolve_right (by omega)
      have tooGreat : Nat.pow 2 53 ≤ significand := by
        calc Nat.pow 2 53 = Nat.pow 2 52 * 2 := rfl
          _ ≤ significand' * 2 := Nat.mul_le_mul_right 2 full
          _ ≤ significand' * 2 ^ (more + 1) :=
              Nat.mul_le_mul_left significand' (by
                rw [Nat.pow_succ]
                have := Nat.one_le_two_pow (n := more)
                omega)
          _ = significand := cancelled.symm
      have small := left.1
      omega

/-- Reals of the same value have one magnitude, and one sign unless they are zero. -/
theorem magnitude_eq_of_same
    {left right : Binary64}
    (alike : left.same right = true) :
    left.magnitude = right.magnitude ∧
      (left.magnitude = 0 ∨ left.negative = right.negative) := by
  have equalSteps : left.steps = right.steps := beq_iff_eq.mp alike
  unfold steps at equalSteps
  cases leftSign : left.negative <;> cases rightSign : right.negative <;>
    simp only [leftSign, rightSign, Bool.false_eq_true, ↓reduceIte] at equalSteps <;>
    simp <;> omega

/-- Reals of the same value are equal or both zero. -/
theorem eq_or_zero_of_same
    {left right : Binary64}
    (alike : left.same right = true) :
    left = right ∨ left.magnitude = 0 ∧ right.magnitude = 0 := by
  obtain ⟨equal, zero | sameSign⟩ := magnitude_eq_of_same alike
  · exact .inr ⟨zero, equal ▸ zero⟩
  · left
    obtain ⟨negative, significand, scale, canonical⟩ := left
    obtain ⟨negative', significand', scale', canonical'⟩ := right
    obtain ⟨rfl, rfl⟩ := canonical.unique canonical' equal
    cases sameSign
    rfl

theorem same_self
    (number : Binary64) :
    number.same number = true :=
  beq_self_eq_true number.steps

end Binary64

/-- Two values are equal, or they are real zeros, whatever their signs. -/
def Json.EqualButZeroSign
    (left right : Json) :
    Prop :=
  left = right ∨
    ∃ zero zero' : Binary64,
      left = .number (.real zero) ∧ right = .number (.real zero') ∧
        zero.magnitude = 0 ∧ zero'.magnitude = 0

/-- Whether a value has no parts. -/
def Json.IsScalar :
    Json →
    Prop
  | .array _ => False
  | .object _ => False
  | _ => True

/-- Values under the same names, each equal or a zero of either sign. -/
def FieldValues.EqualButZeroSign
    (left right : FieldValues) :
    Prop :=
  List.Forall₂
    (fun leftField rightField =>
      leftField.1 = rightField.1 ∧ leftField.2.EqualButZeroSign rightField.2)
    left.fields right.fields

namespace Json

theorem Number.equalButZeroSign_of_same
    {left right : Number}
    (alike : left.same right = true) :
    (Json.number left).EqualButZeroSign (.number right) := by
  cases left with
  | integer value inRange =>
      cases right with
      | integer value' inRange' =>
          obtain rfl : value = value' := beq_iff_eq.mp alike
          exact .inl rfl
      | real value' =>
          cases alike
  | real value =>
      cases right with
      | integer value' inRange' =>
          cases alike
      | real value' =>
          rcases Binary64.eq_or_zero_of_same alike with rfl | ⟨zero, zero'⟩
          · exact .inl rfl
          · exact .inr ⟨value, value', rfl, rfl, zero, zero'⟩

/-- A scalar is the same as equal values only, up to the sign of a zero. -/
theorem equalButZeroSign_of_same
    {left right : Json}
    (scalar : right.IsScalar)
    (alike : left.same right = true) :
    left.EqualButZeroSign right := by
  cases right with
  | null =>
      cases left <;> simp_all [same, EqualButZeroSign]
  | bool value =>
      cases left <;> simp_all [same, EqualButZeroSign]
  | number value =>
      cases left with
      | number value' =>
          simp only [same] at alike
          exact Number.equalButZeroSign_of_same alike
      | _ =>
          simp [same] at alike
  | string value =>
      cases left <;> simp_all [same, EqualButZeroSign]
  | array items =>
      cases scalar
  | object fields =>
      cases scalar

theorem forall₂_of_sameFields
    {left right : List (String × Json)}
    (scalars : ∀ field ∈ right, field.2.IsScalar)
    (alike : sameFields left right = true) :
    List.Forall₂
      (fun leftField rightField =>
        leftField.1 = rightField.1 ∧ leftField.2.EqualButZeroSign rightField.2)
      left right := by
  induction right generalizing left with
  | nil =>
      cases left with
      | nil =>
          exact .nil
      | cons field rest =>
          simp [sameFields] at alike
  | cons field rest inductionHypothesis =>
      cases left with
      | nil =>
          simp [sameFields] at alike
      | cons leftField leftRest =>
          simp only [sameFields, Bool.and_eq_true, beq_iff_eq] at alike
          obtain ⟨⟨sameName, sameValue⟩, sameRest⟩ := alike
          refine .cons ⟨sameName, ?_⟩ ?_
          · exact equalButZeroSign_of_same (scalars field (by simp)) sameValue
          · exact inductionHypothesis
              (fun later member => scalars later (List.mem_cons_of_mem _ member))
              sameRest

theorem Number.same_self
    (number : Number) :
    number.same number = true := by
  cases number with
  | integer value inRange =>
      exact beq_self_eq_true value
  | real value =>
      exact value.same_self

mutual

theorem same_self :
    ∀ value : Json,
      same value value = true
  | .null => by
      simp [same]
  | .bool value => by
      simp [same]
  | .number value => by
      simpa [same] using value.same_self
  | .string value => by
      simp [same]
  | .array items => by
      simpa [same] using sameItems_self items
  | .object fields => by
      simpa [same] using sameFields_self fields

theorem sameItems_self :
    ∀ items : List Json,
      sameItems items items = true
  | [] => by
      simp [sameItems]
  | item :: rest => by
      simp [sameItems, same_self item, sameItems_self rest]

theorem sameFields_self :
    ∀ fields : List (String × Json),
      sameFields fields fields = true
  | [] => by
      simp [sameFields]
  | (name, value) :: rest => by
      simp [sameFields, same_self value, sameFields_self rest]

end

/-- Zeros of either sign are the same. -/
theorem same_of_equalButZeroSign
    {left right : Json}
    (equal : left.EqualButZeroSign right) :
    left.same right = true := by
  rcases equal with rfl | ⟨zero, zero', rfl, rfl, isZero, isZero'⟩
  · exact same_self left
  · have value : zero.steps = 0 := by
      simp [Binary64.steps, isZero]
    have value' : zero'.steps = 0 := by
      simp [Binary64.steps, isZero']
    simp [same, Number.same, Binary64.same, value, value']

theorem sameFields_of_forall₂
    {left right : List (String × Json)}
    (equal :
      List.Forall₂
        (fun leftField rightField =>
          leftField.1 = rightField.1 ∧ leftField.2.EqualButZeroSign rightField.2)
        left right) :
    sameFields left right = true := by
  induction equal with
  | nil =>
      simp [sameFields]
  | cons head _ inductionHypothesis =>
      obtain ⟨sameName, equalValue⟩ := head
      simp [sameFields, sameName, same_of_equalButZeroSign equalValue,
        inductionHypothesis]

end Json

namespace FieldValues

/-- Scalars that are the same are equal, up to the signs of zeros. -/
theorem equalButZeroSign_of_same
    {left right : FieldValues}
    (scalars : ∀ field ∈ right.fields, field.2.IsScalar)
    (alike : left.same right = true) :
    left.EqualButZeroSign right :=
  Json.forall₂_of_sameFields scalars alike

/-- Values that are equal up to the signs of zeros are the same. -/
theorem same_of_equalButZeroSign
    {left right : FieldValues}
    (equal : left.EqualButZeroSign right) :
    left.same right = true :=
  Json.sameFields_of_forall₂ equal

end FieldValues

end Fieldwork
