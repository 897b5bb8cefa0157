import Fieldwork.Form.Session
import Fieldwork.Proofs.Form.Checked

namespace Fieldwork

/-!
# What visibility depends on

An element is visible or not by the values that its rule looks at, and by no
others.  The visible set holds the identifiers of the visible elements; in a
checked form it tells the elements apart.
-/

/-- Values agree on names where the same is found under each of them. -/
def FieldValues.AgreeOn
    (names : List String)
    (left right : FieldValues) :
    Prop :=
  ∀ name ∈ names, left.get? name = right.get? name

/-- The names that the rule of an element looks at; a rule that is off looks at none. -/
def Element.watched
    (element : Element) :
    List String :=
  match element.rule with
  | none => []
  | some rule => if rule.enabled then rule.conditions.map Condition.field else []

theorem Element.field_mem_watched
    {element : Element}
    {rule : VisibilityRule}
    {condition : Condition}
    (isRule : element.rule = some rule)
    (enabled : rule.enabled = true)
    (member : condition ∈ rule.conditions) :
    condition.field ∈ element.watched := by
  simp only [watched, isRule, enabled, if_true]
  exact List.mem_map_of_mem member

/-- The names that the rules of a form look at. -/
def Schema.watched
    (schema : Schema) :
    List String :=
  schema.elements.flatMap Element.watched

namespace Visibility

variable {elements : List Element} {element : Element} {names names' : List String}
  {left right values : FieldValues} {id other : String}

theorem mem_insertId_iff
    {ids : List String} :
    other ∈ insertId id ids ↔ other = id ∨ other ∈ ids := by
  induction ids with
  | nil =>
      simp [insertId]
  | cons first rest inductionHypothesis =>
      unfold insertId
      split
      · simp
      · split
        · rename_i same
          simp [same]
        · rw [List.mem_cons, inductionHypothesis, List.mem_cons]
          tauto

theorem mem_sortIds_iff
    {ids : List String} :
    id ∈ sortIds ids ↔ id ∈ ids := by
  unfold sortIds
  induction ids with
  | nil =>
      simp
  | cons first rest inductionHypothesis =>
      rw [List.foldr_cons, mem_insertId_iff, inductionHypothesis, List.mem_cons]

/-- The visible set holds the identifiers of the visible elements. -/
theorem mem_visibleIds_iff :
    id ∈ visibleIds elements values ↔
      ∃ element ∈ elements,
        isVisible (elements.map Element.name) values element = true ∧ element.id = id := by
  unfold visibleIds
  simp only [mem_sortIds_iff, List.mem_map, List.mem_filter, and_assoc]

/-- Of a rule only the conditions count, and these only where it is on. -/
theorem isVisible_congr
    (same :
      ∀ rule,
        element.rule = some rule →
        rule.enabled = true → conditionsHold rule names left = conditionsHold rule names' right) :
    isVisible names left element = isVisible names' right element := by
  unfold isVisible
  split
  · rfl
  · rename_i rule isRule
    split
    · rename_i enabled
      rw [same rule isRule enabled]
    · rfl

/-- An element is visible by the values that its rule looks at. -/
theorem isVisible_of_agreeOn
    (agree : FieldValues.AgreeOn element.watched left right) :
    isVisible names left element = isVisible names right element := by
  refine isVisible_congr fun rule isRule enabled => ?_
  unfold conditionsHold
  rw [Bool.eq_iff_iff, List.all_eq_true, List.all_eq_true]
  refine forall₂_congr fun condition member => ?_
  unfold Condition.holds
  rw [agree condition.field (Element.field_mem_watched isRule enabled member)]

/-- The visibility of an element depends on which of the names that its rule looks at are taken. -/
theorem isVisible_of_sameNames
    (same : ∀ name ∈ element.watched, name ∈ names ↔ name ∈ names') :
    isVisible names values element = isVisible names' values element := by
  refine isVisible_congr fun rule isRule enabled => ?_
  unfold conditionsHold
  rw [Bool.eq_iff_iff, List.all_eq_true, List.all_eq_true]
  refine forall₂_congr fun condition member => ?_
  simp only [Bool.and_eq_true, List.contains_iff_mem,
    same condition.field (Element.field_mem_watched isRule enabled member)]

/-- The visible set is the same for values that make the same elements visible. -/
theorem visibleIds_congr
    (same :
      ∀ element ∈ elements,
        isVisible (elements.map Element.name) left element =
          isVisible (elements.map Element.name) right element) :
    visibleIds elements left = visibleIds elements right := by
  unfold visibleIds
  rw [List.filter_congr same]

end Visibility

/-- In a checked form, the visible set tells the visible elements from the others. -/
theorem Schema.mem_visibleIds_iff
    {schema : Schema}
    {values : FieldValues}
    {element : Element}
    (member : element ∈ schema.elements) :
    element.id ∈ Visibility.visibleIds schema.elements values ↔
      Visibility.isVisible (schema.elements.map Element.name) values element = true := by
  rw [Visibility.mem_visibleIds_iff]
  constructor
  · rintro ⟨other, otherMember, visible, sameId⟩
    rwa [← Schema.eq_of_id_eq otherMember member sameId]
  · intro visible
    exact ⟨element, member, visible, rfl⟩

/-- Values that agree on what the rules of a form look at make the same elements visible. -/
theorem Schema.visibleIds_of_agreeOn
    {schema : Schema}
    {left right : FieldValues}
    (agree : FieldValues.AgreeOn schema.watched left right) :
    Visibility.visibleIds schema.elements left =
      Visibility.visibleIds schema.elements right := by
  refine Visibility.visibleIds_congr ?_
  intro element member
  refine Visibility.isVisible_of_agreeOn ?_
  intro name watched
  exact agree name (List.mem_flatMap_of_mem member watched)

namespace FormSession

variable {session : FormSession} {element : Element} {name : String}

/-- A visible field is a visible element that carries a value. -/
theorem mem_visibleFields_iff :
    element ∈ session.visibleFields ↔
      element ∈ session.schema.elements ∧ element.id ∈ session.visible ∧
        element.carriesValue = true := by
  unfold visibleFields visibleElements
  simp only [List.mem_filter, List.contains_iff_mem, and_assoc]

theorem isVisible_iff :
    session.isVisible name = true ↔
      ∃ element ∈ session.schema.elements,
        element.name = name ∧ element.id ∈ session.visible := by
  unfold isVisible
  simp only [Option.any_eq_true, Schema.element?_eq_some_iff, List.contains_iff_mem, and_assoc]

/-- Asked by its name, an element of the form is visible where it is in the visible set. -/
theorem isVisible_name_iff
    (inForm : element ∈ session.schema.elements) :
    session.isVisible element.name = true ↔ element.id ∈ session.visible := by
  rw [isVisible_iff]
  constructor
  · rintro ⟨other, otherInForm, sameName, shown⟩
    rwa [← Schema.eq_of_name_eq otherInForm inForm sameName]
  · intro shown
    exact ⟨element, inForm, rfl, shown⟩

end FormSession

end Fieldwork
