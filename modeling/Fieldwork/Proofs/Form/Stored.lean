import Fieldwork.Form.Stored
import Fieldwork.Proofs.Except
import Fieldwork.Proofs.Form.Checked
import Fieldwork.Proofs.Json.Formed

namespace Fieldwork

/-!
# Stored forms are read back

What is written for a form is read as that form, in whatever order the fields
of its objects stand.  Absent parts are left out and come back as absent; an
operand comes back as the value that it is.  A form that was read from a text
is not nested too deeply to be read from a text again.
-/

open Json (Document Reading Stores Slot Formed Rearranged)
open Json.Document

/-! ## Conditions and rules -/

namespace Condition

/-- The fields of a condition, with what each does to the parts read so far. -/
def slots
    (condition : Condition) :
    List (Slot Parts) :=
  [⟨"field", some (.string condition.field),
      fun parts => { parts with field := some condition.field }⟩,
    ⟨"operator", some (.string condition.operator.name),
      fun parts => { parts with operator := some condition.operator }⟩,
    ⟨"value", some condition.operand,
      fun parts => { parts with operand := condition.operand }⟩]

theorem toJson_eq
    (condition : Condition) :
    condition.toJson = .ofFields (Slot.fields condition.slots) :=
  rfl

theorem slots_kept
    {room : Nat}
    {condition : Condition}
    (operand : Formed room condition.operand) :
    ∀ slot ∈ condition.slots, slot.Kept fieldNames Parts.take {} := by
  have operator : some (Operator.ofName condition.operator.name) = some condition.operator := by
    rw [Operator.ofName_name]
  simp only [slots, List.forall_mem_cons]
  refine ⟨?_, ?_, ?_, by simp⟩
  · exact Slot.kept_some (by decide) fun _ => (Json.stores_string _).map _
  · exact Slot.kept_some (by decide) fun _ => (Json.stores_choice operator).map _
  · exact Slot.kept_some (by decide) fun _ => operand.stores.map _

/-- The stored form of a condition is read as that condition. -/
theorem stores_condition
    {room : Nat}
    {condition : Condition}
    (operand : Formed room condition.operand) :
    Stores Condition.read condition condition.toJson := by
  intro arranged rearranged
  rw [toJson_eq] at rearranged
  have commute : condition.slots.Pairwise Slot.Commute := by
    simp [slots, Slot.Commute]
  have parts :=
    Json.stores_record (by simp [slots]) commute (slots_kept operand) arranged rearranged
  unfold Condition.read
  rw [parts]
  rfl

theorem formed
    {room : Nat}
    {condition : Condition}
    (operand : Formed room condition.operand) :
    Formed (room + 1) condition.toJson := by
  rw [toJson_eq]
  apply Json.formed_record
  simp only [slots, List.forall_mem_cons, Option.mem_some_iff, forall_eq']
  exact ⟨.scalar trivial, .scalar trivial, operand, by simp⟩

/-- The operand of a condition that was read is a value of its document. -/
theorem formed_of_read
    {room : Nat}
    {document : Document}
    {condition : Condition}
    (within : document.Within (room + 1))
    (reads : Condition.read document = .ok condition) :
    Formed room condition.operand := by
  obtain ⟨parts, readsParts, reads⟩ := Except.bind_eq_ok_iff.mp reads
  obtain ⟨field, _, reads⟩ := Except.bind_eq_ok_iff.mp reads
  obtain ⟨operator, _, reads⟩ := Except.bind_eq_ok_iff.mp reads
  cases reads
  refine readRecord_induction (motive := fun parts => Formed room parts.operand) ?_ ?_ readsParts
  · exact .scalar trivial
  intro parts name value taken isPart formed takes
  have changed : taken.operand = parts.operand ∨ value.json? = some taken.operand := by
    unfold Parts.take at takes
    split at takes <;> obtain ⟨inner, reads, rfl⟩ := Except.map_eq_ok_iff.mp takes
    · exact .inl rfl
    · exact .inl rfl
    · exact .inr (demand_eq_ok_iff.mp reads)
  rcases changed with same | isValue
  · rw [same]
    exact formed
  · exact (within.of_mem_parts isPart).formed isValue

end Condition

namespace VisibilityRule

/-- Whether the operands of a rule are values as they stand in documents. -/
def OperandsFormed
    (room : Nat)
    (rule : VisibilityRule) :
    Prop :=
  ∀ condition ∈ rule.conditions, Formed room condition.operand

/-- The fields of a rule, with what each does to the rule read so far. -/
def slots
    (rule : VisibilityRule) :
    List (Slot VisibilityRule) :=
  [⟨"enabled", some (.bool rule.enabled), fun draft => { draft with enabled := rule.enabled }⟩,
    ⟨"action", some (.string rule.action.name),
      fun draft => { draft with action := rule.action }⟩,
    ⟨"conditions", some (.array (rule.conditions.map Condition.toJson)),
      fun draft => { draft with conditions := rule.conditions }⟩]

theorem toJson_eq
    (rule : VisibilityRule) :
    rule.toJson = .ofFields (Slot.fields rule.slots) :=
  rfl

theorem slots_kept
    {room : Nat}
    {rule : VisibilityRule}
    (operands : rule.OperandsFormed room) :
    ∀ slot ∈ rule.slots, slot.Kept fieldNames take {} := by
  have action : VisibilityAction.ofName? rule.action.name = some rule.action := by
    cases rule.action <;> rfl
  have conditions :=
    Json.stores_list fun condition (member : condition ∈ rule.conditions) =>
      Condition.stores_condition (operands condition member)
  simp only [slots, List.forall_mem_cons]
  refine ⟨?_, ?_, ?_, by simp⟩
  · exact Slot.kept_some (by decide) fun _ => (Json.stores_bool _).map _
  · exact Slot.kept_some (by decide) fun _ => (Json.stores_choice action).map _
  · exact Slot.kept_some (by decide) fun _ => conditions.map _

/-- The stored form of a rule is read as that rule. -/
theorem stores_rule
    {room : Nat}
    {rule : VisibilityRule}
    (operands : rule.OperandsFormed room) :
    Stores VisibilityRule.read rule rule.toJson := by
  have commute : rule.slots.Pairwise Slot.Commute := by
    simp [slots, Slot.Commute]
  exact Json.stores_record (by simp [slots]) commute (slots_kept operands)

theorem formed
    {room : Nat}
    {rule : VisibilityRule}
    (operands : rule.OperandsFormed room) :
    Formed (room + 3) rule.toJson := by
  rw [toJson_eq]
  apply Json.formed_record
  have conditions : Formed (room + 2) (.array (rule.conditions.map Condition.toJson)) :=
    Json.formed_list fun condition member => Condition.formed (operands condition member)
  simp only [slots, List.forall_mem_cons, Option.mem_some_iff, forall_eq']
  exact ⟨.scalar trivial, .scalar trivial, conditions, by simp⟩

theorem operandsFormed_of_read
    {room : Nat}
    {document : Document}
    {rule : VisibilityRule}
    (within : document.Within (room + 3))
    (reads : VisibilityRule.read document = .ok rule) :
    rule.OperandsFormed room := by
  refine readRecord_induction (motive := OperandsFormed room) ?_ ?_ reads
  · intro _ impossible
    cases impossible
  intro rule name value taken isPart formed takes
  have changed :
      taken.conditions = rule.conditions ∨
        value.readList Condition.read = .ok taken.conditions := by
    unfold take at takes
    split at takes <;> obtain ⟨inner, reads, rfl⟩ := Except.map_eq_ok_iff.mp takes
    · exact .inl rfl
    · exact .inl rfl
    · exact .inr reads
  rcases changed with same | readsConditions
  · unfold OperandsFormed
    rw [same]
    exact formed
  · intro condition member
    obtain ⟨part, partOfList, readsCondition⟩ := exists_part_of_readList readsConditions member
    exact Condition.formed_of_read ((within.of_mem_parts isPart).of_mem_parts partOfList)
      readsCondition

end VisibilityRule

/-! ## Limits and elements -/

theorem uint64_inRange
    (value : UInt64) :
    0 ≤ (value.toNat : Int) ∧ (value.toNat : Int) ≤ greatestNat64 := by
  have upper := value.toNat_lt
  unfold greatestNat64
  omega

theorem uint64_wide
    (value : UInt64) :
    leastInt64 ≤ (value.toNat : Int) ∧ (value.toNat : Int) ≤ greatestNat64 := by
  have inRange := uint64_inRange value
  unfold leastInt64
  omega

namespace Limits

/-- The stored form of a length is read as that length. -/
theorem stores_length
    (length : UInt64) :
    Stores (fun document : Document => (document.readNat.map Nat.toUInt64 : FormReading UInt64))
      length (.ofInt length.toNat) := by
  have stores :=
    ((Json.stores_int (ε := FormFault) (uint64_inRange length) (uint64_wide length)).map
      Int.toNat).map Nat.toUInt64
  rw [Int.toNat_natCast, Nat.toUInt64_eq, UInt64.ofNat_toNat] at stores
  exact stores

/-- The fields of limits, with what each does to the limits read so far. -/
def slots
    (limits : Limits) :
    List (Slot Limits) :=
  let ofLength (length : UInt64) : Json := .ofInt length.toNat
  [⟨"min", limits.least.map .ofReal, fun draft => { draft with least := limits.least }⟩,
    ⟨"max", limits.greatest.map .ofReal,
      fun draft => { draft with greatest := limits.greatest }⟩,
    ⟨"minLength", limits.leastLength.map ofLength,
      fun draft => { draft with leastLength := limits.leastLength }⟩,
    ⟨"maxLength", limits.greatestLength.map ofLength,
      fun draft => { draft with greatestLength := limits.greatestLength }⟩,
    ⟨"pattern", limits.pattern.map .string,
      fun draft => { draft with pattern := limits.pattern }⟩]

theorem toJson_eq
    (limits : Limits) :
    limits.toJson = .ofFields (Slot.fields limits.slots) := by
  simp [toJson, slots, Slot.fields_cons, Slot.optionalField_map]

theorem slots_kept
    (limits : Limits) :
    ∀ slot ∈ limits.slots, slot.Kept fieldNames take {} := by
  have lengthNotNull : ∀ length : UInt64, Json.ofInt length.toNat ≠ .null := by
    intro length
    simp [Json.ofInt_eq_number (uint64_wide length)]
  simp only [slots, List.forall_mem_cons]
  refine ⟨?_, ?_, ?_, ?_, ?_, by simp⟩
  · exact Slot.kept_optional (fun (draft : Limits) least => { draft with least := least })
      (by decide) (fun _ _ => rfl) (fun _ _ => by simp [Json.ofReal])
      (fun real _ => Json.stores_real real) rfl
  · exact Slot.kept_optional (fun (draft : Limits) greatest => { draft with greatest := greatest })
      (by decide) (fun _ _ => rfl) (fun _ _ => by simp [Json.ofReal])
      (fun real _ => Json.stores_real real) rfl
  · exact Slot.kept_optional (fun (draft : Limits) least => { draft with leastLength := least })
      (by decide) (fun _ _ => rfl) (fun length _ => lengthNotNull length)
      (fun length _ => stores_length length) rfl
  · exact Slot.kept_optional
      (fun (draft : Limits) greatest => { draft with greatestLength := greatest })
      (by decide) (fun _ _ => rfl) (fun length _ => lengthNotNull length)
      (fun length _ => stores_length length) rfl
  · exact Slot.kept_optional (fun (draft : Limits) pattern => { draft with pattern := pattern })
      (by decide) (fun _ _ => rfl) (fun _ _ => by simp)
      (fun text _ => Json.stores_string text) rfl

/-- The stored form of limits is read as those limits. -/
theorem stores_limits
    (limits : Limits) :
    Stores Limits.read limits limits.toJson := by
  have commute : limits.slots.Pairwise Slot.Commute := by
    simp [slots, Slot.Commute]
  rw [toJson_eq]
  exact Json.stores_record (by simp [slots]) commute limits.slots_kept

theorem formed
    (room : Nat)
    (limits : Limits) :
    Formed (room + 1) limits.toJson := by
  rw [toJson_eq]
  apply Json.formed_record
  have formedLength : ∀ length : UInt64, Formed room (.ofInt length.toNat) := by
    intro length
    rw [Json.ofInt_eq_number (uint64_wide length)]
    exact .scalar trivial
  simp only [slots, List.forall_mem_cons]
  refine ⟨?_, ?_, ?_, ?_, ?_, by simp⟩
  · exact Json.formed_map fun least _ => .scalar trivial
  · exact Json.formed_map fun greatest _ => .scalar trivial
  · exact Json.formed_map fun least _ => formedLength least
  · exact Json.formed_map fun greatest _ => formedLength greatest
  · exact Json.formed_map fun pattern _ => .scalar trivial

end Limits

namespace Element

/-- Whether the operands of an element's rule are values as they stand in documents. -/
def OperandsFormed
    (room : Nat)
    (element : Element) :
    Prop :=
  ∀ rule ∈ element.rule, rule.OperandsFormed room

/-- What is stored for the options of an element: nothing where there are none. -/
def storedOptions?
    (element : Element) :
    Option Json :=
  if element.options.isEmpty then none else some (.array (element.options.map .string))

/-- The fields of an element, with what each does to the parts read so far. -/
def slots
    (element : Element) :
    List (Slot Parts) :=
  [⟨"id", some (.string element.id), fun parts => { parts with id := some element.id }⟩,
    ⟨"type", some (.string element.type.name),
      fun parts => { parts with type := some element.type }⟩,
    ⟨"name", some (.string element.name),
      fun parts => { parts with name := some element.name }⟩,
    ⟨"label", some (.string element.label), fun parts => { parts with label := element.label }⟩,
    ⟨"required", some (.bool element.required),
      fun parts => { parts with required := element.required }⟩,
    ⟨"options", element.storedOptions?,
      fun parts => { parts with options := element.options }⟩,
    ⟨"validation", element.limits.map Limits.toJson,
      fun parts => { parts with limits := element.limits }⟩,
    ⟨"conditionalLogic", element.rule.map VisibilityRule.toJson,
      fun parts => { parts with rule := element.rule }⟩,
    ⟨"placeholder", element.placeholder.map .string,
      fun parts => { parts with placeholder := element.placeholder }⟩,
    ⟨"helpText", element.helpText.map .string,
      fun parts => { parts with helpText := element.helpText }⟩]

theorem toJson_eq
    (element : Element) :
    element.toJson = .ofFields (Slot.fields element.slots) := by
  have options :
      (if element.options.isEmpty then []
        else [("options", Json.array (element.options.map .string))]) =
        Json.optionalField "options" (fun json => json) element.storedOptions? := by
    unfold storedOptions?
    split <;> rfl
  simp only [toJson, options]
  simp [slots, Slot.fields_cons, Slot.optionalField_map, Slot.optionalField_some]

theorem slots_kept
    {room : Nat}
    {element : Element}
    (operands : element.OperandsFormed room) :
    ∀ slot ∈ element.slots, slot.Kept fieldNames Parts.take {} := by
  have type : ElementType.ofName? element.type.name = some element.type :=
    ElementType.ofName?_name element.type
  have options :
      Stores (readList readString : Document → FormReading (List String)) element.options
        (.array (element.options.map .string)) :=
    Json.stores_list fun option _ => Json.stores_string option
  simp only [slots, List.forall_mem_cons]
  refine ⟨?_, ?_, ?_, ?_, ?_, ?_, ?_, ?_, ?_, ?_, by simp⟩
  · exact Slot.kept_some (by decide) fun _ => (Json.stores_string _).map _
  · exact Slot.kept_some (by decide) fun _ => (Json.stores_choice type).map _
  · exact Slot.kept_some (by decide) fun _ => (Json.stores_string _).map _
  · exact Slot.kept_some (by decide) fun _ => (Json.stores_string _).map _
  · exact Slot.kept_some (by decide) fun _ => (Json.stores_bool _).map _
  · unfold storedOptions?
    by_cases none : element.options.isEmpty = true
    · refine ⟨by simp [fieldNames], by simp [none], fun _ => ?_⟩
      rw [List.isEmpty_iff.mp none]
    · rw [if_neg none]
      exact Slot.kept_some (by decide) fun _ => options.map _
  · exact Slot.kept_optional (fun (parts : Parts) limits => { parts with limits := limits })
      (by decide) (fun _ _ => rfl) (fun _ _ => by simp [Limits.toJson, Json.ofFields])
      (fun limits _ => limits.stores_limits) rfl
  · exact Slot.kept_optional (fun (parts : Parts) rule => { parts with rule := rule })
      (by decide) (fun _ _ => rfl) (fun _ _ => by simp [VisibilityRule.toJson, Json.ofFields])
      (fun rule isRule => VisibilityRule.stores_rule (operands rule isRule)) rfl
  · exact Slot.kept_optional
      (fun (parts : Parts) placeholder => { parts with placeholder := placeholder })
      (by decide) (fun _ _ => rfl) (fun _ _ => by simp) (fun text _ => Json.stores_string text) rfl
  · exact Slot.kept_optional (fun (parts : Parts) helpText => { parts with helpText := helpText })
      (by decide) (fun _ _ => rfl) (fun _ _ => by simp) (fun text _ => Json.stores_string text) rfl

/-- The stored form of an element is read as that element. -/
theorem stores_element
    {room : Nat}
    {element : Element}
    (operands : element.OperandsFormed room) :
    Stores Element.read element element.toJson := by
  intro arranged rearranged
  rw [toJson_eq] at rearranged
  have commute : element.slots.Pairwise Slot.Commute := by
    simp [slots, Slot.Commute]
  have parts :=
    Json.stores_record (by simp [slots]) commute (slots_kept operands) arranged rearranged
  unfold Element.read
  rw [parts]
  rfl

theorem formed
    {room : Nat}
    {element : Element}
    (operands : element.OperandsFormed room) :
    Formed (room + 4) element.toJson := by
  rw [toJson_eq]
  apply Json.formed_record
  simp only [slots, List.forall_mem_cons, Option.mem_some_iff, forall_eq']
  refine ⟨.scalar trivial, .scalar trivial, .scalar trivial, .scalar trivial, .scalar trivial,
    ?_, ?_, ?_, ?_, ?_, by simp⟩
  · intro json stored
    unfold storedOptions? at stored
    split at stored
    · cases stored
    · cases stored
      exact Json.formed_list fun option _ => .scalar trivial
  · exact Json.formed_map fun limits _ => limits.formed _
  · exact Json.formed_map fun rule isRule => VisibilityRule.formed (operands rule isRule)
  · exact Json.formed_map fun placeholder _ => .scalar trivial
  · exact Json.formed_map fun helpText _ => .scalar trivial

theorem operandsFormed_of_read
    {room : Nat}
    {document : Document}
    {element : Element}
    (within : document.Within (room + 4))
    (reads : Element.read document = .ok element) :
    element.OperandsFormed room := by
  obtain ⟨parts, readsParts, reads⟩ := Except.bind_eq_ok_iff.mp reads
  obtain ⟨id, _, reads⟩ := Except.bind_eq_ok_iff.mp reads
  obtain ⟨type, _, reads⟩ := Except.bind_eq_ok_iff.mp reads
  obtain ⟨name, _, reads⟩ := Except.bind_eq_ok_iff.mp reads
  cases reads
  refine readRecord_induction
    (motive := fun parts => ∀ rule ∈ parts.rule, rule.OperandsFormed room) (by simp) ?_ readsParts
  intro parts name value taken isPart formed takes
  have changed :
      taken.rule = parts.rule ∨ value.readOptional VisibilityRule.read = .ok taken.rule := by
    unfold Parts.take at takes
    split at takes <;> obtain ⟨inner, reads, rfl⟩ := Except.map_eq_ok_iff.mp takes <;>
      first
        | exact .inr reads
        | exact .inl rfl
  rcases changed with same | readsRule
  · rw [same]
    exact formed
  · intro rule isRule
    rw [Option.mem_def.mp isRule] at readsRule
    exact VisibilityRule.operandsFormed_of_read (within.of_mem_parts isPart)
      (read_of_readOptional readsRule)

end Element

/-! ## Forms -/

namespace FormSettings

/-- The fields of settings, with what each does to the settings read so far. -/
def slots
    (settings : FormSettings) :
    List (Slot FormSettings) :=
  [⟨"requireGpsLocation", some (.bool settings.requireGpsLocation),
      fun draft => { draft with requireGpsLocation := settings.requireGpsLocation }⟩,
    ⟨"allowOffline", some (.bool settings.allowOffline),
      fun draft => { draft with allowOffline := settings.allowOffline }⟩,
    ⟨"submitLabel", settings.submitLabel.map .string,
      fun draft => { draft with submitLabel := settings.submitLabel }⟩]

theorem toJson_eq
    (settings : FormSettings) :
    settings.toJson = .ofFields (Slot.fields settings.slots) := by
  simp [toJson, slots, Slot.fields_cons, Slot.optionalField_map, Slot.optionalField_some]

/-- The stored form of settings is read as those settings. -/
theorem stores_settings
    (settings : FormSettings) :
    Stores FormSettings.read settings settings.toJson := by
  have commute : settings.slots.Pairwise Slot.Commute := by
    simp [slots, Slot.Commute]
  have kept : ∀ slot ∈ settings.slots, slot.Kept fieldNames take {} := by
    simp only [slots, List.forall_mem_cons]
    refine ⟨?_, ?_, ?_, by simp⟩
    · exact Slot.kept_some (by decide) fun _ => (Json.stores_bool _).map _
    · exact Slot.kept_some (by decide) fun _ => (Json.stores_bool _).map _
    · exact Slot.kept_optional
        (fun (draft : FormSettings) label => { draft with submitLabel := label })
        (by decide) (fun _ _ => rfl) (fun _ _ => by simp) (fun text _ => Json.stores_string text)
        rfl
  rw [toJson_eq]
  exact Json.stores_record (by simp [slots]) commute kept

theorem formed
    (room : Nat)
    (settings : FormSettings) :
    Formed (room + 1) settings.toJson := by
  rw [toJson_eq]
  apply Json.formed_record
  simp only [slots, List.forall_mem_cons, Option.mem_some_iff, forall_eq']
  exact ⟨.scalar trivial, .scalar trivial, Json.formed_map fun label _ => .scalar trivial, by simp⟩

end FormSettings

namespace FormDraft

/-- Whether the operands of a form are values as they stand in documents. -/
def OperandsFormed
    (room : Nat)
    (draft : FormDraft) :
    Prop :=
  ∀ element ∈ draft.elements, element.OperandsFormed room

/-- The fields of a form, with what each does to the form read so far. -/
def slots
    (form : FormDraft) :
    List (Slot FormDraft) :=
  [⟨"elements", some (.array (form.elements.map Element.toJson)),
      fun draft => { draft with elements := form.elements }⟩,
    ⟨"settings", some form.settings.toJson,
      fun draft => { draft with settings := form.settings }⟩]

theorem toJson_eq
    (form : FormDraft) :
    form.toJson = .ofFields (Slot.fields form.slots) :=
  rfl

/-- The stored form of a form is read as that form. -/
theorem stores_form
    {room : Nat}
    {form : FormDraft}
    (operands : form.OperandsFormed room) :
    Stores FormDraft.read form form.toJson := by
  have elements :=
    Json.stores_list fun element (member : element ∈ form.elements) =>
      Element.stores_element (operands element member)
  have commute : form.slots.Pairwise Slot.Commute := by
    simp [slots, Slot.Commute]
  have kept : ∀ slot ∈ form.slots, slot.Kept fieldNames take {} := by
    simp only [slots, List.forall_mem_cons]
    refine ⟨?_, ?_, by simp⟩
    · exact Slot.kept_some (by decide) fun _ => elements.map _
    · exact Slot.kept_some (by decide) fun _ => form.settings.stores_settings.map _
  exact Json.stores_record (by simp [slots]) commute kept

theorem formed
    {room : Nat}
    {form : FormDraft}
    (operands : form.OperandsFormed room) :
    Formed (room + 6) form.toJson := by
  rw [toJson_eq]
  apply Json.formed_record
  have elements : Formed (room + 5) (.array (form.elements.map Element.toJson)) :=
    Json.formed_list fun element member => Element.formed (operands element member)
  simp only [slots, List.forall_mem_cons, Option.mem_some_iff, forall_eq']
  exact ⟨elements, form.settings.formed _, by simp⟩

/-- The operands of a form that was read are values of its document. -/
theorem operandsFormed_of_read
    {room : Nat}
    {document : Document}
    {form : FormDraft}
    (within : document.Within (room + 6))
    (reads : FormDraft.read document = .ok form) :
    form.OperandsFormed room := by
  refine readRecord_induction (motive := OperandsFormed room) ?_ ?_ reads
  · intro _ impossible
    cases impossible
  intro form name value taken isPart formed takes
  have changed :
      taken.elements = form.elements ∨ value.readList Element.read = .ok taken.elements := by
    unfold take at takes
    split at takes <;> obtain ⟨inner, reads, rfl⟩ := Except.map_eq_ok_iff.mp takes
    · exact .inr reads
    · exact .inl rfl
  rcases changed with same | readsElements
  · unfold OperandsFormed
    rw [same]
    exact formed
  · intro element member
    obtain ⟨part, partOfList, readsElement⟩ := exists_part_of_readList readsElements member
    exact Element.operandsFormed_of_read ((within.of_mem_parts isPart).of_mem_parts partOfList)
      readsElement

end FormDraft

namespace Schema

/-- What a form that was read and accepted is stored as, and what that is nested to. -/
theorem stored_of_read
    {room : Nat}
    {document : Document}
    {draft : FormDraft}
    {schema : Schema}
    (within : document.Within (room + 6))
    (reads : FormDraft.read document = .ok draft)
    (accepted : ofDraft draft = .ok schema) :
    Stores FormDraft.read schema.draft schema.draft.toJson ∧
      Formed (room + 6) schema.draft.toJson := by
  rw [ofDraft_eq_ok_iff.mp accepted]
  have operands : draft.OperandsFormed room := FormDraft.operandsFormed_of_read within reads
  exact ⟨FormDraft.stores_form operands, FormDraft.formed operands⟩

/-- A form that is read from a text is read from its document and then accepted. -/
theorem ofText_eq_ok_iff
    {text : String}
    {schema : Schema} :
    ofText text = .ok schema ↔
      (Document.ofText text).2 = true ∧
        ∃ draft,
          FormDraft.read (Document.ofText text).1 = .ok draft ∧ ofDraft draft = .ok schema := by
  unfold ofText
  cases reads : FormDraft.read (Document.ofText text).1 with
  | error fault =>
      simp [reads]
  | ok draft =>
      cases complete : (Document.ofText text).2 with
      | true =>
          simp [reads, complete]
      | false =>
          simp [reads, complete]

/--
The stored form of a form that was read and accepted is read and accepted as
the same form, which has the same element and the same pattern under every
name, in whatever order the fields of its objects are written.  Where the form
was read from a text, the text of its stored form is so as well, provided that
the texts of the reals in it are read as those reals.
-/
theorem stored_form_is_read_back :
    (∀ document draft schema written,
        FormDraft.read document = .ok draft → ofDraft draft = .ok schema →
          Rearranged schema.draft.toJson written →
            ∃ again, FormDraft.read (.ofJson written) = .ok again ∧ ofDraft again = .ok schema) ∧
      ∀ text schema written,
        ofText text = .ok schema → Rearranged schema.draft.toJson written →
          (∀ real ∈ schema.draft.toJson.reals, (Json.Number.real real).ReadsBack) →
            ofText written.render = .ok schema := by
  have acceptedAgain : ∀ schema : Schema, ofDraft schema.draft = .ok schema :=
    fun schema => ofDraft_eq_ok_iff.mpr rfl
  constructor
  · intro document draft schema written reads accepted rearranged
    obtain ⟨room, within⟩ := exists_within document
    obtain ⟨stored, -⟩ := stored_of_read (within.mono (Nat.le_add_right room 6)) reads accepted
    exact ⟨schema.draft, stored written rearranged, acceptedAgain schema⟩
  · intro text schema written opened rearranged reals
    obtain ⟨-, draft, reads, accepted⟩ := ofText_eq_ok_iff.mp opened
    have within : (Document.ofText text).1.Within (121 + 6) := within_ofText text
    obtain ⟨stored, formed⟩ := stored_of_read within reads accepted
    have sameDocument : Document.ofText written.render = (.ofJson written, true) :=
      Json.ofText_rearranged (formed.legible reals) rearranged
    rw [ofText_eq_ok_iff, sameDocument]
    exact ⟨rfl, schema.draft, stored written rearranged, acceptedAgain schema⟩

/-- A form with absent parts, empty parts and an operand whose fields are out of order. -/
def meterForm : Json :=
  .object
    [("settings", .object [("submitLabel", .null), ("allowOffline", .bool true)]),
      ("elements", .array
        [.object
          [("name", .string "depth"),
            ("id", .string "e1"),
            ("type", .string "number"),
            ("validation", .object [("min", .ofReal ⟨false, 7205759403792794, 1019, by decide⟩),
              ("max", .ofInt 12)])],
          .object
            [("id", .string "e2"),
              ("type", .string "text"),
              ("name", .string "note"),
              ("options", .array []),
              ("validation", .object []),
              ("conditionalLogic", .object
                [("enabled", .bool true),
                  ("conditions", .array
                    [.object
                      [("field", .string "depth"),
                        ("operator", .string "resembles"),
                        ("value", .object [("b", .array [.ofInt 1]), ("a", .null)])]])])]])]

theorem stored_form_is_read_back_meter :
    ∃ draft schema,
      FormDraft.read (Document.ofText meterForm.render).1 = .ok draft ∧
        ofDraft draft = .ok schema ∧
        ofText meterForm.render = .ok schema ∧
        (schema.elements.map fun element => element.conditions.map Condition.operator) =
          [[], [.unknown]] ∧
        (∃ again,
          FormDraft.read (.ofJson schema.draft.toJson) = .ok again ∧
            ofDraft again = .ok schema) ∧
        ofText schema.draft.toJson.render = .ok schema := by
  have facts :
      (FormDraft.read (Document.ofText meterForm.render).1).toOption.map (fun draft =>
          ((Document.ofText meterForm.render).2, draft.fault?,
            draft.elements.map fun element => element.conditions.map Condition.operator,
            decide (∀ real ∈ draft.toJson.reals, (Json.Number.real real).ReadsBack))) =
        some (true, none, [[], [.unknown]], true) := by
    rw [Json.Document.ofText_render_eq_readValue]
    decide +kernel
  obtain ⟨draft, isDraft, facts⟩ := Option.map_eq_some_iff.mp facts
  have reads : FormDraft.read (Document.ofText meterForm.render).1 = .ok draft :=
    Except.toOption_eq_some_iff.mp isDraft
  simp only [Prod.mk.injEq, decide_eq_true_eq] at facts
  obtain ⟨complete, faultless, operators, reals⟩ := facts
  have accepted : ofDraft draft = .ok ⟨draft, faultless⟩ := ofDraft_eq_ok_iff.mpr rfl
  have opened : ofText meterForm.render = .ok ⟨draft, faultless⟩ :=
    ofText_eq_ok_iff.mpr ⟨complete, draft, reads, accepted⟩
  exact
    ⟨draft, ⟨draft, faultless⟩, reads, accepted, opened, operators,
      stored_form_is_read_back.1 _ _ _ _ reads accepted (Rearranged.refl _),
      stored_form_is_read_back.2 _ _ _ opened (Rearranged.refl _) reals⟩

end Schema

end Fieldwork
