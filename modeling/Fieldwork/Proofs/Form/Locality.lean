import Mathlib.Data.List.Forall2
import Fieldwork.Proofs.Form.Visible

namespace Fieldwork

/-!
# What visibility does not depend on

The visible set is told by the rules of the elements: an identifier is in it where an
element that carries it is not held back by its rule.  Neither the order of the elements
nor that of the conditions of a rule plays a part, and elements are of no consequence for
the others where no rule that is on looks at their names.
-/

/--
Whether a condition holds among elements.  On a field that no element is named after it
does not, whatever its operator.
-/
def Condition.HoldsAmong
    (elements : List Element)
    (values : FieldValues)
    (condition : Condition) :
    Prop :=
  (∃ element ∈ elements, element.name = condition.field) ∧ condition.holds values = true

/-- Whether the rule of an element, if it has one, lets it be seen among elements. -/
inductive Element.IsShownAmong
    (elements : List Element)
    (values : FieldValues)
    (element : Element) :
    Prop where
  | unruled
      (noRule : element.rule = none)
  | off
      {rule : VisibilityRule}
      (isRule : element.rule = some rule)
      (off : rule.enabled = false)
  | shown
      {rule : VisibilityRule}
      (isRule : element.rule = some rule)
      (on : rule.enabled = true)
      (shows : rule.action = .shown)
      (allHold : ∀ condition ∈ rule.conditions, condition.HoldsAmong elements values)
  | notHidden
      {rule : VisibilityRule}
      (isRule : element.rule = some rule)
      (on : rule.enabled = true)
      (hides : rule.action = .hidden)
      (oneFails : ∃ condition ∈ rule.conditions, ¬ condition.HoldsAmong elements values)

/-- The same element, where the conditions of its rule may stand in another order. -/
inductive Element.Reordered : Element → Element → Prop where
  | same
      (element : Element) :
      Reordered element element
  | conditions
      {element : Element}
      {rule : VisibilityRule}
      {conditions : List Condition}
      (isRule : element.rule = some rule)
      (reordered : rule.conditions.Perm conditions) :
      Reordered element { element with rule := some { rule with conditions } }

namespace Visibility

variable {elements others added all : List Element} {element other : Element}
  {names names' : List String} {values : FieldValues} {rule : VisibilityRule} {id : String}

/-- The same elements in any order, with the conditions of each rule in any order. -/
def Reordered
    (elements others : List Element) :
    Prop :=
  ∃ between, List.Forall₂ Element.Reordered elements between ∧ between.Perm others

/-! ## The visible set as a set -/

theorem pairwise_insertId
    {ids : List String}
    (ascending : ids.Pairwise (· < ·)) :
    (insertId id ids).Pairwise (· < ·) := by
  induction ids with
  | nil =>
      simp [insertId]
  | cons first rest inductionHypothesis =>
      rw [List.pairwise_cons] at ascending
      unfold insertId
      split
      · rename_i before
        rw [List.pairwise_cons]
        refine ⟨?_, List.pairwise_cons.mpr ascending⟩
        intro later member
        rcases List.mem_cons.mp member with rfl | inRest
        · exact before
        · exact String.lt_trans before (ascending.1 later inRest)
      · rename_i notBefore
        split
        · exact List.pairwise_cons.mpr ascending
        · rename_i different
          rw [List.pairwise_cons]
          refine ⟨?_, inductionHypothesis ascending.2⟩
          intro later member
          rcases mem_insertId_iff.mp member with rfl | inRest
          · exact Std.lt_of_le_of_ne (String.not_lt.mp notBefore) (Ne.symm different)
          · exact ascending.1 later inRest

theorem pairwise_visibleIds
    (elements : List Element)
    (values : FieldValues) :
    (visibleIds elements values).Pairwise (· < ·) := by
  unfold visibleIds sortIds
  generalize (elements.filter _).map Element.id = ids
  induction ids with
  | nil =>
      exact List.Pairwise.nil
  | cons first rest inductionHypothesis =>
      exact pairwise_insertId inductionHypothesis

/-- Visible sets with the same identifiers are the same. -/
theorem visibleIds_ext
    (same : ∀ id, id ∈ visibleIds elements values ↔ id ∈ visibleIds others values) :
    visibleIds elements values = visibleIds others values := by
  have ascending := pairwise_visibleIds elements values
  have ascending' := pairwise_visibleIds others values
  refine List.Perm.eq_of_pairwise ?_ ascending ascending' ?_
  · intro left right _ _ before after
    exact absurd after (String.lt_asymm before)
  · exact (List.perm_ext_iff_of_nodup (ascending.imp fun before => String.ne_of_lt before)
      (ascending'.imp fun before => String.ne_of_lt before)).mpr same

/-! ## The rule of an element -/

theorem conditionsHold_iff :
    conditionsHold rule (elements.map Element.name) values = true ↔
      ∀ condition ∈ rule.conditions, condition.HoldsAmong elements values := by
  simp [conditionsHold, Condition.HoldsAmong]

/-- An element is visible where its rule lets it be seen. -/
theorem isVisible_iff_isShownAmong :
    isVisible (elements.map Element.name) values element = true ↔
      element.IsShownAmong elements values := by
  unfold isVisible
  constructor
  · intro visible
    cases isRule : element.rule with
    | none =>
        exact .unruled isRule
    | some rule =>
        rw [isRule] at visible
        cases on : rule.enabled with
        | false =>
            exact .off isRule on
        | true =>
            cases action : rule.action with
            | shown =>
                simp only [on, action, if_true] at visible
                exact .shown isRule on action (conditionsHold_iff.mp visible)
            | hidden =>
                simp only [on, action, if_true, Bool.not_eq_true', ← Bool.not_eq_true,
                  conditionsHold_iff, not_forall] at visible
                obtain ⟨condition, member, fails⟩ := visible
                exact .notHidden isRule on action ⟨condition, member, fails⟩
  · rintro (noRule | ⟨isRule, off⟩ | ⟨isRule, on, shows, allHold⟩ | ⟨isRule, on, hides, oneFails⟩)
    · rw [noRule]
    · simp [isRule, off]
    · simpa [isRule, on, shows] using conditionsHold_iff.mpr allHold
    · obtain ⟨condition, member, fails⟩ := oneFails
      simp only [isRule, on, hides, if_true, Bool.not_eq_true', ← Bool.not_eq_true,
        conditionsHold_iff, not_forall]
      exact ⟨condition, member, fails⟩

/-- An identifier is in the visible set where an element that carries it is let be seen. -/
theorem mem_visibleIds_iff_isShownAmong :
    id ∈ visibleIds elements values ↔
      ∃ element ∈ elements, element.id = id ∧ element.IsShownAmong elements values := by
  simp only [mem_visibleIds_iff, isVisible_iff_isShownAmong, and_comm]

/-! ## Order -/

theorem id_of_reordered
    (reordered : element.Reordered other) :
    other.id = element.id := by
  cases reordered <;> rfl

theorem name_of_reordered
    (reordered : element.Reordered other) :
    other.name = element.name := by
  cases reordered <;> rfl

/-- All conditions of a rule hold in any order of them. -/
theorem isVisible_of_reordered
    (reordered : element.Reordered other) :
    isVisible names values other = isVisible names values element := by
  cases reordered with
  | same =>
      rfl
  | conditions isRule reordered =>
      simp only [isVisible, isRule, conditionsHold, reordered.all_eq]

/-- The visible set is the same for elements in any order. -/
theorem visibleIds_of_perm
    (rearranged : elements.Perm others) :
    visibleIds others values = visibleIds elements values := by
  refine visibleIds_ext fun id => ?_
  have sameNames := rearranged.map Element.name
  have sameVisible :
      ∀ element,
        isVisible (others.map Element.name) values element =
          isVisible (elements.map Element.name) values element :=
    fun element => isVisible_of_sameNames fun name _ => sameNames.mem_iff.symm
  simp only [mem_visibleIds_iff, sameVisible, rearranged.mem_iff]

theorem names_of_forall₂
    (reordered : List.Forall₂ Element.Reordered elements others) :
    others.map Element.name = elements.map Element.name := by
  induction reordered with
  | nil =>
      rfl
  | cons first _ inductionHypothesis =>
      rw [List.map_cons, List.map_cons, name_of_reordered first, inductionHypothesis]

theorem ids_of_forall₂
    (reordered : List.Forall₂ Element.Reordered elements others) :
    (others.filter (isVisible names values)).map Element.id =
      (elements.filter (isVisible names values)).map Element.id := by
  induction reordered with
  | nil =>
      rfl
  | cons first _ inductionHypothesis =>
      rw [List.filter_cons, List.filter_cons, isVisible_of_reordered first]
      split
      · rw [List.map_cons, List.map_cons, id_of_reordered first, inductionHypothesis]
      · exact inductionHypothesis

/-- The visible set is the same for conditions in any order, too. -/
theorem visibleIds_of_reordered
    (reordered : Reordered elements others) :
    visibleIds others values = visibleIds elements values := by
  obtain ⟨between, conditions, rearranged⟩ := reordered
  rw [visibleIds_of_perm rearranged, visibleIds, names_of_forall₂ conditions,
    ids_of_forall₂ conditions, visibleIds]

/-! ## Additions -/

/-- Elements whose names no rule looks at change nothing for other identifiers. -/
theorem mem_visibleIds_of_added
    (unwatched : ∀ element ∈ elements, ∀ other ∈ added, other.name ∉ element.watched)
    (notAdded : ∀ other ∈ added, other.id ≠ id) :
    id ∈ visibleIds (elements ++ added) values ↔ id ∈ visibleIds elements values := by
  have sameVisible :
      ∀ element ∈ elements,
        isVisible ((elements ++ added).map Element.name) values element =
          isVisible (elements.map Element.name) values element := by
    intro element member
    refine isVisible_of_sameNames fun name watched => ?_
    rw [List.map_append, List.mem_append, or_iff_left]
    intro isAdded
    obtain ⟨other, otherAdded, rfl⟩ := List.mem_map.mp isAdded
    exact unwatched element member other otherAdded watched
  simp only [mem_visibleIds_iff, List.mem_append]
  constructor
  · rintro ⟨element, member | isAdded, visible, sameId⟩
    · exact ⟨element, member, sameVisible element member ▸ visible, sameId⟩
    · exact absurd sameId (notAdded element isAdded)
  · rintro ⟨element, member, visible, sameId⟩
    exact ⟨element, .inl member, (sameVisible element member).symm ▸ visible, sameId⟩

/--
The visible set holds an identifier where an element that carries it has no rule that is
on, or a rule that shows it and all conditions of which hold, or a rule that hides it and
one condition of which does not; and no condition holds on a field that no element is named
after.  The order of elements and of conditions plays no part, and added elements whose
names no rule that is on looks at change nothing for the identifiers of the others.
-/
theorem visibility_by_rules_alone
    (elements : List Element)
    (values : FieldValues) :
    (∀ id,
        id ∈ visibleIds elements values ↔
          ∃ element ∈ elements, element.id = id ∧ element.IsShownAmong elements values) ∧
      (∀ field operator operand,
        (∀ element ∈ elements, element.name ≠ field) →
          ¬ Condition.HoldsAmong elements values ⟨field, operator, operand⟩) ∧
      (∀ others,
        Reordered elements others → visibleIds others values = visibleIds elements values) ∧
      ∀ added all,
        all.Perm (elements ++ added) →
        (∀ element ∈ elements, ∀ other ∈ added, other.name ∉ element.watched) →
          ∀ id,
            (∀ other ∈ added, other.id ≠ id) →
              (id ∈ visibleIds all values ↔ id ∈ visibleIds elements values) := by
  refine ⟨fun id => mem_visibleIds_iff_isShownAmong, ?_, fun others => visibleIds_of_reordered, ?_⟩
  · rintro field operator operand unnamed ⟨⟨element, member, isNamed⟩, _⟩
    exact unnamed element member isNamed
  · intro added all rearranged unwatched id notAdded
    rw [← visibleIds_of_perm rearranged]
    exact mem_visibleIds_of_added unwatched notAdded

/-- A remark for a meter that may be missing from the form. -/
def meterRemark
    (name : String)
    (action : VisibilityAction)
    (operator : Operator) :
    Element :=
  { id := "remark", type := .text, name
    rule := some { enabled := true, action, conditions := [⟨"meter", operator, .string "7"⟩] } }

/-- A lamp, for which no rule is asked. -/
def lampField : Element :=
  { id := "lamp", type := .checkbox, name := "lamp" }

/--
Two remarks share their identifier and ask for a meter that the form does not have.  The
one that is hidden without a meter is seen, and a lamp in front of them changes nothing.
-/
theorem visibility_by_rules_alone_without_meter :
    let shown := meterRemark "shown" .shown .notEquals
    let hidden := meterRemark "hidden" .hidden .isEmpty
    "remark" ∈ visibleIds [shown, hidden] .empty ∧
      "remark" ∈ visibleIds [lampField, hidden, shown] .empty := by
  intro shown hidden
  obtain ⟨byRules, unnamed, _, added⟩ := visibility_by_rules_alone [shown, hidden] .empty
  have missing :
      ¬ Condition.HoldsAmong [shown, hidden] .empty ⟨"meter", .isEmpty, .string "7"⟩ :=
    unnamed "meter" .isEmpty (.string "7") (by decide)
  have seen : "remark" ∈ visibleIds [shown, hidden] .empty :=
    (byRules "remark").mpr ⟨hidden, by simp, rfl,
      .notHidden rfl rfl rfl ⟨_, List.mem_singleton_self _, missing⟩⟩
  have rearranged : [lampField, hidden, shown].Perm ([shown, hidden] ++ [lampField]) :=
    List.reverse_perm [shown, hidden, lampField]
  refine ⟨seen, (added [lampField] _ rearranged ?_ "remark" (by decide)).mpr seen⟩
  simp [shown, hidden, meterRemark, lampField, Element.watched]

end Visibility

end Fieldwork
