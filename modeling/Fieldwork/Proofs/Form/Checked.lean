import Fieldwork.Form.Visibility
import Fieldwork.Proofs.Except
import Fieldwork.Proofs.Fields
import Fieldwork.Proofs.Form.Checking

namespace Fieldwork

/-!
# What a checked form guarantees

A form is accepted where it is sound.  Its elements then have distinct identifiers and
distinct names, none of which is reserved.  An element is therefore determined by its
name and by its identifier.  A pattern that an element declares can be read, and the
conditions of an element are on fields of the form.
-/

/-- Whether an element declares a pattern. -/
def Element.Declares
    (element : Element)
    (written : String) :
    Prop :=
  ∃ limits, element.limits = some limits ∧ limits.pattern = some written

/-- What is looked up in a form by its names is what its elements say. -/
structure Schema.FindsItsElements
    (schema : Schema) :
    Prop where
  elements :
    ∀ name,
      schema.elements.filter (fun element => element.name = name) =
        (schema.element? name).toList
  patterns :
    ∀ name pattern,
      schema.pattern? name = some pattern ↔
        ∃ element written,
          schema.element? name = some element ∧
            element.Declares written ∧ Pattern.read written = .ok pattern
  noPattern :
    ∀ name,
      schema.pattern? name = none ↔
        ∀ element, schema.element? name = some element → ∀ written, ¬ element.Declares written
  fields :
    ∀ element ∈ schema.elements, ∀ rule values,
      element.rule = some rule →
      (∀ condition ∈ rule.conditions,
          condition.field ∈ schema.elements.map Element.name) ∧
        Visibility.conditionsHold rule (schema.elements.map Element.name) values =
          rule.conditions.all fun condition => condition.holds values

namespace Schema

variable {schema : Schema} {element left right : Element} {condition : Condition} {name : String}

theorem ofDraft_eq_ok_iff
    {draft : FormDraft}
    {schema : Schema} :
    ofDraft draft = .ok schema ↔ schema.draft = draft := by
  unfold ofDraft
  split
  · rename_i faultless
    constructor
    · intro accepted
      cases accepted
      rfl
    · rintro rfl
      rfl
  · rename_i fault faulty
    constructor
    · intro accepted
      cases accepted
    · rintro rfl
      rw [schema.faultless] at faulty
      cases faulty

theorem ofDraft_eq_error_iff
    {draft : FormDraft}
    {fault : FormFault} :
    ofDraft draft = .error fault ↔ draft.fault? = some fault := by
  unfold ofDraft
  split
  · rename_i faultless
    simp [faultless]
  · rename_i found faulty
    simp [faulty]

theorem isSound
    (schema : Schema) :
    schema.draft.IsSound :=
  FormDraft.fault?_eq_none_iff.mp schema.faultless

theorem ids_nodup
    (schema : Schema) :
    (schema.elements.map Element.id).Nodup :=
  schema.isSound.idsApart

theorem names_nodup
    (schema : Schema) :
    (schema.elements.map Element.name).Nodup :=
  schema.isSound.namesApart

/-- No element of a checked form takes a name of the submission itself. -/
theorem not_isReservedName
    (member : element ∈ schema.elements) :
    isReservedName element.name = false := by
  rw [Bool.eq_false_iff, Ne, isReservedName_iff]
  exact not_or.mpr (schema.isSound.namesFree element member)

/-- The patterns that a checked form declares can be read. -/
theorem exists_pattern
    {limits : Limits}
    {written : String}
    (member : element ∈ schema.elements)
    (limited : element.limits = some limits)
    (declared : limits.pattern = some written) :
    ∃ pattern, Pattern.read written = .ok pattern :=
  schema.isSound.patternsRead element member limits written limited declared

/-- Two elements of a checked form with one identifier are the same. -/
theorem eq_of_id_eq
    (inLeft : left ∈ schema.elements)
    (inRight : right ∈ schema.elements)
    (same : left.id = right.id) :
    left = right :=
  List.inj_on_of_nodup_map schema.ids_nodup inLeft inRight same

theorem eq_of_name_eq
    (inLeft : left ∈ schema.elements)
    (inRight : right ∈ schema.elements)
    (same : left.name = right.name) :
    left = right :=
  List.inj_on_of_nodup_map schema.names_nodup inLeft inRight same

/-- The element found under a name is the one that has it. -/
theorem element?_eq_some_iff :
    schema.element? name = some element ↔
      element ∈ schema.elements ∧ element.name = name :=
  find?_key_eq_some_iff schema.names_nodup

/-- The pattern kept under the name of an element is the one that it declares. -/
theorem pattern?_of_mem
    (member : element ∈ schema.elements) :
    schema.pattern? element.name = patternOf element := by
  rw [pattern?, element?_eq_some_iff.mpr ⟨member, rfl⟩, Option.bind_some]

theorem patternOf_eq_some_iff
    {pattern : Pattern} :
    patternOf element = some pattern ↔
      ∃ written, element.Declares written ∧ Pattern.read written = .ok pattern := by
  simp only [patternOf, Option.bind_eq_some_iff, Except.toOption_eq_some_iff, Element.Declares]

/-- The elements with a name are the one that is found under it, or none. -/
theorem filter_name_eq
    (schema : Schema)
    (name : String) :
    schema.elements.filter (fun element => element.name = name) =
      (schema.element? name).toList := by
  have nodup : schema.elements.Nodup := .of_map _ schema.names_nodup
  have found :
      (schema.elements.filter fun element => element.name = name).Perm
        (schema.element? name).toList := by
    refine (List.perm_ext_iff_of_nodup (nodup.filter _) ?_).mpr ?_
    · cases schema.element? name <;> simp
    · intro element
      simp [element?_eq_some_iff]
  cases isFound : schema.element? name with
  | none =>
      rw [isFound] at found
      exact found.eq_nil
  | some element =>
      rw [isFound] at found
      exact List.perm_singleton.mp found

theorem pattern?_eq_some_iff
    {pattern : Pattern} :
    schema.pattern? name = some pattern ↔
      ∃ element written,
        schema.element? name = some element ∧
          element.Declares written ∧ Pattern.read written = .ok pattern := by
  simp only [pattern?, Option.bind_eq_some_iff, patternOf_eq_some_iff, exists_and_left]

/-- No pattern is missing, as each that is declared can be read. -/
theorem pattern?_eq_none_iff :
    schema.pattern? name = none ↔
      ∀ element, schema.element? name = some element → ∀ written, ¬ element.Declares written := by
  constructor
  · rintro noPattern element found written ⟨limits, limited, declared⟩
    obtain ⟨pattern, reads⟩ :=
      schema.exists_pattern (element?_eq_some_iff.mp found).1 limited declared
    have kept : schema.pattern? name = some pattern :=
      pattern?_eq_some_iff.mpr ⟨element, written, found, ⟨limits, limited, declared⟩, reads⟩
    rw [noPattern] at kept
    cases kept
  · intro undeclared
    rw [Option.eq_none_iff_forall_ne_some]
    intro pattern kept
    obtain ⟨element, written, found, declares, -⟩ := pattern?_eq_some_iff.mp kept
    exact undeclared element found written declares

/-- The conditions of a checked form are on fields that it has. -/
theorem field_mem_names
    {rule : VisibilityRule}
    (inForm : element ∈ schema.elements)
    (isRule : element.rule = some rule)
    (inRule : condition ∈ rule.conditions) :
    condition.field ∈ schema.elements.map Element.name :=
  Condition.isKnownAmong_iff.mp
    (schema.isSound.fieldsKnown element inForm rule isRule condition inRule)

theorem findsItsElements
    (schema : Schema) :
    schema.FindsItsElements where
  elements := schema.filter_name_eq
  patterns _ _ := pattern?_eq_some_iff
  noPattern _ := pattern?_eq_none_iff
  fields element inForm rule values isRule := by
    refine ⟨fun condition inRule => field_mem_names inForm isRule inRule, ?_⟩
    rw [Bool.eq_iff_iff, Visibility.conditionsHold, List.all_eq_true, List.all_eq_true]
    refine forall₂_congr fun condition inRule => ?_
    rw [List.contains_iff_mem.mpr (field_mem_names inForm isRule inRule), Bool.true_and]

/--
A form is accepted exactly where it is sound.  It is refused with its first fault: that of
the first element that fails a check, by the first check that it fails, and only where no
element fails one, that of the first condition on a field without an element.  An accepted
form has the elements and the settings of its draft, finds its elements and their patterns
by name, and leaves no condition on a field that is not there.
-/
theorem form_accepted_when_sound
    (draft : FormDraft) :
    ((∃ schema, ofDraft draft = .ok schema) ↔ draft.IsSound) ∧
      (∀ fault, ofDraft draft = .error fault ↔ draft.FirstFault fault) ∧
      ∀ schema,
        ofDraft draft = .ok schema →
          schema.elements = draft.elements ∧
            schema.settings = draft.settings ∧ schema.FindsItsElements := by
  refine ⟨?_, ?_, ?_⟩
  · rw [← FormDraft.fault?_eq_none_iff]
    constructor
    · rintro ⟨schema, accepted⟩
      exact ofDraft_eq_ok_iff.mp accepted ▸ schema.faultless
    · intro faultless
      exact ⟨⟨draft, faultless⟩, ofDraft_eq_ok_iff.mpr rfl⟩
  · intro fault
    rw [ofDraft_eq_error_iff, FormDraft.fault?_eq_some_iff]
  · intro schema accepted
    obtain rfl := ofDraft_eq_ok_iff.mp accepted
    exact ⟨rfl, rfl, schema.findsItsElements⟩

/-- A note whose rule is off and looks at the depth behind it. -/
def noteField : Element :=
  { id := "n", type := .text, name := "note"
    rule := some { conditions := [⟨"depth", .equals, .ofInt 1⟩] } }

def depthField : Element :=
  { id := "d", type := .number, name := "depth" }

def depthForm : FormDraft :=
  { elements := [noteField, depthField] }

/-- The note, and behind it an element without an identifier of its own, a name or options. -/
def tornForm : FormDraft :=
  { elements := [noteField, { id := "n", type := .select, name := " " }] }

/-- The rule of the note refers ahead; where the depth is missing, other checks come first. -/
theorem form_accepted_when_sound_depth :
    (∃ schema,
      ofDraft depthForm = .ok schema ∧
        schema.elements = [noteField, depthField] ∧ schema.FindsItsElements) ∧
      depthForm.IsSound ∧
      tornForm.FirstFault (.duplicateId "n") := by
  obtain ⟨schema, accepted⟩ : ∃ schema, ofDraft depthForm = .ok schema :=
    ⟨⟨depthForm, by decide +kernel⟩, ofDraft_eq_ok_iff.mpr rfl⟩
  have refused : ofDraft tornForm = .error (.duplicateId "n") :=
    ofDraft_eq_error_iff.mpr (by decide +kernel)
  obtain ⟨sound, -, found⟩ := form_accepted_when_sound depthForm
  obtain ⟨sameElements, -, finds⟩ := found schema accepted
  exact ⟨⟨schema, accepted, sameElements, finds⟩, sound.mp ⟨schema, accepted⟩,
    ((form_accepted_when_sound tornForm).2.1 _).mp refused⟩

end Schema

end Fieldwork
