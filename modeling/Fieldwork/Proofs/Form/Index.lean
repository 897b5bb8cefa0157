import Std.Data.HashMap
import Std.Data.HashSet
import Fieldwork.Proofs.Form.Checked

namespace Fieldwork

/-!
# What is noted while a form is checked

The elements of a form need not be searched each time that a name is looked up.
Their identifiers, the places of their names and their patterns may be noted while
they are checked, each element against the notes on those before it.  Forms are then
refused for the same faults, and what is looked up in the notes afterwards is what a
search through the elements finds.
-/

/-- What is noted of the elements of a form while they are checked. -/
structure FormIndex where
  ids : Std.HashSet String := ∅
  positions : Std.HashMap String Nat := ∅
  patterns : Std.HashMap String Pattern := ∅

/-- Check the limits of an element, and read the pattern that they declare. -/
def Limits.compile
    (limits : Limits)
    (element : String) :
    Except FormFault (Option Pattern) :=
  match (limits.failure? element .bounds).or (limits.failure? element .lengths) with
  | some fault => .error fault
  | none =>
      match limits.pattern with
      | none => .ok none
      | some written => ((Pattern.read written).mapError (.badPattern element)).map some

namespace FormIndex

/-- Note an element at a position, and the pattern that it declares. -/
def add
    (index : FormIndex)
    (position : Nat)
    (element : Element)
    (pattern : Option Pattern) :
    FormIndex where
  ids := index.ids.insert element.id
  positions := index.positions.insert element.name position
  patterns :=
    match pattern with
    | none => index.patterns
    | some pattern => index.patterns.insert element.name pattern

/-- Check an element at a position against the notes on those before it, and note it. -/
def note
    (index : FormIndex)
    (position : Nat)
    (element : Element) :
    Except FormFault FormIndex :=
  if Text.isBlank element.id then
    .error (.missingId position)
  else if index.ids.contains element.id then
    .error (.duplicateId element.id)
  else if Text.isBlank element.name then
    .error (.missingName element.id)
  else if isReservedName element.name then
    .error (.reservedName element.name)
  else if index.positions.contains element.name then
    .error (.duplicateName element.name)
  else if element.type.isChoice && element.options.isEmpty then
    .error (.missingOptions element.type element.name)
  else
    match element.limits with
    | none => .ok (index.add position element none)
    | some limits => (limits.compile element.name).map (index.add position element)

/-- Check and note elements from a position on. -/
def noteAll
    (index : FormIndex)
    (position : Nat) :
    List Element →
    Except FormFault FormIndex
  | [] => .ok index
  | element :: rest =>
      (index.note position element).bind fun later => later.noteAll (position + 1) rest

/-- The first condition of an element on a field whose place is not noted. -/
def unknownField?
    (index : FormIndex)
    (element : Element) :
    Option FormFault :=
  (element.conditions.find? fun condition => !index.positions.contains condition.field).map
    fun condition => .unknownConditionField element.name condition.field

/-- Check a form, and note its elements meanwhile. -/
def build
    (draft : FormDraft) :
    Except FormFault FormIndex :=
  (noteAll {} 0 draft.elements).bind fun index =>
    match draft.elements.findSome? index.unknownField? with
    | some fault => .error fault
    | none => .ok index

/-- The element whose place is noted under a name. -/
def element?
    (index : FormIndex)
    (elements : List Element)
    (name : String) :
    Option Element :=
  index.positions[name]?.bind fun position => elements[position]?

/-- Whether what an index notes is what a search through elements finds. -/
structure Notes
    (index : FormIndex)
    (elements : List Element) :
    Prop where
  ids :
    ∀ id, id ∈ index.ids ↔ id ∈ elements.map Element.id
  positions :
    ∀ name, index.positions[name]? = elements.findIdx? fun element => element.name = name
  patterns :
    ∀ name,
      index.patterns[name]? =
        (elements.find? fun element => element.name = name).bind Schema.patternOf

end FormIndex

/-- The limits of an element are refused for their fault, and otherwise yield the pattern. -/
theorem Limits.compile_eq
    (limits : Limits)
    (element : String) :
    limits.compile element =
      match limits.fault? element with
      | some fault => .error fault
      | none => .ok (limits.pattern.bind fun written => (Pattern.read written).toOption) := by
  rw [fault?_eq, ← Option.or_assoc]
  unfold compile
  cases (limits.failure? element .bounds).or (limits.failure? element .lengths) with
  | some fault =>
      rfl
  | none =>
      rw [Option.none_or]
      unfold failure?
      cases limits.pattern with
      | none =>
          rfl
      | some written =>
          cases reads : Pattern.read written <;> simp [reads, Except.map, Except.toOption]

namespace FormIndex

variable {index later : FormIndex} {earlier rest : List Element} {element : Element}
  {fault : FormFault} {name : String}

namespace Notes

theorem empty :
    Notes {} [] where
  ids _ := by simp
  positions _ := by simp
  patterns _ := by simp

theorem contains_id
    (notes : index.Notes earlier)
    (id : String) :
    index.ids.contains id = (earlier.map Element.id).contains id := by
  rw [Bool.eq_iff_iff, Std.HashSet.contains_iff_mem, notes.ids, List.contains_iff_mem]

theorem contains_name
    (notes : index.Notes earlier)
    (name : String) :
    index.positions.contains name = (earlier.map Element.name).contains name := by
  rw [Std.HashMap.contains_eq_isSome_getElem?, notes.positions, List.findIdx?_isSome,
    Bool.eq_iff_iff, contains_map_iff, List.any_eq_true]
  simp only [decide_eq_true_eq]

/-- An element is refused for its fault behind the earlier ones, and noted where it has none. -/
theorem note_eq
    (notes : index.Notes earlier)
    (element : Element) :
    index.note earlier.length element =
      match element.fault? earlier.length earlier with
      | some fault => .error fault
      | none => .ok (index.add earlier.length element (Schema.patternOf element)) := by
  unfold note Element.fault?
  rw [notes.contains_id, notes.contains_name]
  split_ifs
  case neg =>
    unfold Schema.patternOf
    cases element.limits with
    | none =>
        rfl
    | some limits =>
        simp only [Option.bind_some, Limits.compile_eq]
        cases limits.fault? element.name <;> rfl
  all_goals rfl

/-- Where a name is not taken, noting its element adds to what a search finds. -/
theorem add
    (notes : index.Notes earlier)
    (notTaken : element.name ∉ earlier.map Element.name) :
    (index.add earlier.length element (Schema.patternOf element)).Notes
      (earlier ++ [element]) where
  ids id := by
    simp only [FormIndex.add, Std.HashSet.mem_insert, notes.ids, List.map_append, List.mem_append,
      List.map_cons, List.map_nil, List.mem_singleton, beq_iff_eq]
    exact or_comm.trans (or_congr_right eq_comm)
  positions name := by
    simp only [FormIndex.add, Std.HashMap.getElem?_insert, List.findIdx?_append, notes.positions,
      beq_iff_eq]
    by_cases same : element.name = name
    · subst same
      rw [List.findIdx?_eq_none_iff.mpr (by simpa using notTaken)]
      simp
    · simp [same]
  patterns name := by
    simp only [List.find?_append]
    by_cases same : element.name = name
    · subst same
      have missing : earlier.find? (fun other => other.name = element.name) = none :=
        List.find?_eq_none.mpr (by simpa using notTaken)
      have noPattern := notes.patterns element.name
      rw [missing] at noPattern ⊢
      cases declared : Schema.patternOf element with
      | none =>
          simp [FormIndex.add, noPattern, declared]
      | some pattern =>
          simp [FormIndex.add, declared]
    · cases Schema.patternOf element <;>
        simp [FormIndex.add, Std.HashMap.getElem?_insert, notes.patterns, same]

/-- Elements are noted up to the first with a fault, for which they are refused. -/
theorem noteAll_cases
    (notes : index.Notes earlier)
    (rest : List Element) :
    (∃ fault,
        FormDraft.elementFault? earlier rest = some fault ∧
          index.noteAll earlier.length rest = .error fault) ∨
      ∃ later,
        FormDraft.elementFault? earlier rest = none ∧
          index.noteAll earlier.length rest = .ok later ∧ later.Notes (earlier ++ rest) := by
  induction rest generalizing index earlier with
  | nil =>
      exact .inr ⟨index, rfl, rfl, by rwa [List.append_nil]⟩
  | cons element rest inductionHypothesis =>
      rw [FormDraft.elementFault?, FormIndex.noteAll, notes.note_eq]
      cases passes : element.fault? earlier.length earlier with
      | some fault =>
          exact .inl ⟨fault, rfl, rfl⟩
      | none =>
          have notTaken : element.name ∉ earlier.map Element.name := by
            rintro taken
            obtain ⟨other, before, same⟩ := List.mem_map.mp taken
            exact Element.fault?_eq_none_iff.mp passes _ _ (.ownName before same)
          simpa [Except.bind] using inductionHypothesis (notes.add notTaken)

/-- A field is known where its place is noted. -/
theorem unknownField?_eq
    (notes : index.Notes earlier) :
    index.unknownField? = Element.conditionFault? (earlier.map Element.name) := by
  funext element
  simp only [FormIndex.unknownField?, Element.conditionFault?, notes.contains_name]

theorem element?_eq
    (notes : index.Notes earlier)
    (name : String) :
    index.element? earlier name = earlier.find? fun element => element.name = name := by
  rw [FormIndex.element?, notes.positions, List.find?_eq_bind_findIdx?_getElem?]

end Notes

/-- A form without a fault is noted as a whole, and any other is refused for its fault. -/
theorem build_cases
    (draft : FormDraft) :
    (∃ fault, draft.fault? = some fault ∧ build draft = .error fault) ∨
      ∃ index, draft.fault? = none ∧ build draft = .ok index ∧ index.Notes draft.elements := by
  unfold FormDraft.fault? build
  rcases Notes.empty.noteAll_cases draft.elements with
    ⟨fault, faulty, refused⟩ | ⟨index, passes, noted, notes⟩
  · rw [List.length_nil] at refused
    rw [faulty, refused]
    exact .inl ⟨fault, rfl, rfl⟩
  · rw [List.length_nil] at noted
    rw [List.nil_append] at notes
    rw [passes, noted, Option.none_or, Except.bind, notes.unknownField?_eq]
    cases draft.elements.findSome? (Element.conditionFault? (draft.elements.map Element.name)) with
    | some fault =>
        exact .inl ⟨fault, rfl, rfl⟩
    | none =>
        exact .inr ⟨index, rfl, rfl, notes⟩

/--
A form is checked alike with and without notes: it is refused for the same fault, and
where it is accepted, the notes tell the element and the pattern of each name.
-/
theorem build_agrees
    (draft : FormDraft) :
    (∀ fault, build draft = .error fault ↔ Schema.ofDraft draft = .error fault) ∧
      ∀ schema,
        Schema.ofDraft draft = .ok schema →
          ∃ index,
            build draft = .ok index ∧
              ∀ name,
                index.element? schema.elements name = schema.element? name ∧
                  index.patterns[name]? = schema.pattern? name := by
  rcases build_cases draft with ⟨found, faulty, refused⟩ | ⟨index, passes, noted, notes⟩
  · refine ⟨fun fault => ?_, fun schema accepted => ?_⟩
    · rw [refused, Schema.ofDraft_eq_error_iff, faulty, Except.error.injEq, Option.some.injEq]
    · rw [Schema.ofDraft_eq_error_iff.mpr faulty] at accepted
      cases accepted
  · refine ⟨fun fault => ?_, fun schema accepted => ?_⟩
    · rw [noted, Schema.ofDraft_eq_error_iff, passes]
      exact iff_of_false nofun nofun
    · obtain rfl := Schema.ofDraft_eq_ok_iff.mp accepted
      exact ⟨index, noted, fun name => ⟨notes.element?_eq name, notes.patterns name⟩⟩

end FormIndex

end Fieldwork
