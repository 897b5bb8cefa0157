import Fieldwork.Json.Basic

namespace Fieldwork

/-!
# Field values

The values recorded under field names, each name once.  Names are kept in
ascending order, so that two collections with the same entries are equal.
-/

namespace Json

/-- The names after an insertion are the inserted name and the earlier ones. -/
theorem mem_keys_insertField
    {name key : String}
    {value : α}
    {fields : List (String × α)}
    (member : key ∈ (insertField name value fields).map Prod.fst) :
    key = name ∨ key ∈ fields.map Prod.fst := by
  induction fields with
  | nil =>
      simpa [insertField] using member
  | cons field rest inductionHypothesis =>
      obtain ⟨other, kept⟩ := field
      unfold insertField at member
      split at member
      · simpa using member
      · split at member
        · simp only [List.map_cons, List.mem_cons] at member ⊢
          rcases member with same | later
          · exact .inl same
          · exact .inr (.inr later)
        · simp only [List.map_cons, List.mem_cons] at member ⊢
          rcases member with same | later
          · exact .inr (.inl same)
          · exact (inductionHypothesis later).imp_right .inr

/-- Inserting a field keeps the names in ascending order. -/
theorem pairwise_insertField
    (name : String)
    (value : α)
    {fields : List (String × α)}
    (ascending : (fields.map Prod.fst).Pairwise (· < ·)) :
    ((insertField name value fields).map Prod.fst).Pairwise (· < ·) := by
  induction fields with
  | nil =>
      simp [insertField]
  | cons field rest inductionHypothesis =>
      obtain ⟨other, kept⟩ := field
      simp only [List.map_cons, List.pairwise_cons] at ascending
      unfold insertField
      split
      · rename_i before
        simp only [List.map_cons, List.pairwise_cons, List.mem_cons]
        refine ⟨?_, ascending⟩
        rintro key (rfl | later)
        · exact before
        · exact String.lt_trans before (ascending.1 key later)
      · rename_i notBefore
        split
        · rename_i same
          subst same
          exact List.pairwise_cons.mpr ascending
        · rename_i different
          have after : other < name :=
            Std.lt_of_le_of_ne (String.not_lt.mp notBefore) (Ne.symm different)
          simp only [List.map_cons, List.pairwise_cons]
          refine ⟨?_, inductionHypothesis ascending.2⟩
          intro key member
          rcases mem_keys_insertField member with rfl | later
          · exact after
          · exact ascending.1 key later

/-- Sorting fields puts their names in ascending order. -/
theorem pairwise_sortFields
    (fields : List (String × α)) :
    ((sortFields fields).map Prod.fst).Pairwise (· < ·) := by
  unfold sortFields
  suffices general :
      ∀ sorted : List (String × α),
        (sorted.map Prod.fst).Pairwise (· < ·) →
          ((fields.foldl (fun sorted field =>
            insertField field.1 field.2 sorted) sorted).map Prod.fst).Pairwise
              (· < ·) from
    general [] (by simp)
  induction fields with
  | nil =>
      intro sorted ascending
      exact ascending
  | cons field rest inductionHypothesis =>
      intro sorted ascending
      exact inductionHypothesis _ (pairwise_insertField field.1 field.2 ascending)

/-- A field that was inserted is found under its name, and others as before. -/
theorem find?_insertField
    (name other : String)
    (value : α)
    (fields : List (String × α)) :
    ((insertField name value fields).find? fun field => field.1 = other) =
      if name = other then some (name, value)
      else fields.find? fun field => field.1 = other := by
  induction fields with
  | nil =>
      by_cases same : name = other <;> simp [insertField, same]
  | cons field rest inductionHypothesis =>
      obtain ⟨head, kept⟩ := field
      unfold insertField
      split
      · by_cases same : name = other <;> simp [same]
      · split
        · rename_i sameHead
          subst sameHead
          by_cases same : name = other <;> simp [same]
        · rename_i differentHead
          rw [List.find?_cons, List.find?_cons, inductionHypothesis]
          by_cases same : name = other
          · subst same
            simp [Ne.symm differentHead]
          · simp [same]

end Json

/-- Values under names in ascending order. -/
structure FieldValues where
  fields : List (String × Json)
  ascending : (fields.map Prod.fst).Pairwise (· < ·)

namespace FieldValues

def empty : FieldValues :=
  ⟨[], by simp⟩

instance : Inhabited FieldValues :=
  ⟨empty⟩

/-- The values given under names in any order; the last one of a name stays. -/
def ofFields
    (fields : List (String × Json)) :
    FieldValues :=
  ⟨Json.sortFields fields, Json.pairwise_sortFields fields⟩

def get?
    (values : FieldValues)
    (name : String) :
    Option Json :=
  (values.fields.find? fun field => field.1 = name).map Prod.snd

/-- Record a value under a name, in place of an earlier one. -/
def insert
    (values : FieldValues)
    (name : String)
    (value : Json) :
    FieldValues :=
  ⟨Json.insertField name value values.fields,
    Json.pairwise_insertField name value values.ascending⟩

/-- Keep the fields that satisfy a test. -/
def filter
    (values : FieldValues)
    (keep : String × Json → Bool) :
    FieldValues :=
  ⟨values.fields.filter keep,
    values.ascending.sublist (List.filter_sublist.map Prod.fst)⟩

def erase
    (values : FieldValues)
    (name : String) :
    FieldValues :=
  values.filter fun field => field.1 ≠ name

def names
    (values : FieldValues) :
    List String :=
  values.fields.map Prod.fst

def toJson
    (values : FieldValues) :
    Json :=
  .object values.fields

/-- The fields of an object, if the value is one. -/
def ofJson? :
    Json →
    Option FieldValues
  | .object fields => some (ofFields fields)
  | _ => none

/-- Sameness of values, name by name. -/
def same
    (left right : FieldValues) :
    Bool :=
  Json.sameFields left.fields right.fields

/-- Nothing is recorded in the empty collection. -/
@[simp] theorem get?_empty
    (name : String) :
    empty.get? name = none :=
  rfl

/-- A value that was recorded is found under its name, and others as before. -/
theorem get?_insert
    (values : FieldValues)
    (name other : String)
    (value : Json) :
    (values.insert name value).get? other =
      if name = other then some value else values.get? other := by
  unfold get? insert
  rw [Json.find?_insertField]
  split <;> rfl

/-- Nothing is found under a name whose value was removed, and others as before. -/
theorem get?_erase
    (values : FieldValues)
    (name other : String) :
    (values.erase name).get? other =
      if name = other then none else values.get? other := by
  unfold get? erase filter
  rw [List.find?_filter]
  by_cases same : name = other
  · subst same
    simp
  · have agree :
        (fun field : String × Json =>
            decide (decide (field.1 ≠ name) = true ∧ decide (field.1 = other) = true)) =
          fun field => decide (field.1 = other) := by
      funext field
      by_cases found : field.1 = other
      · simp [found, Ne.symm same]
      · simp [found]
    simp only [agree, same, if_false]

/-- The names are those under which a value is found. -/
theorem mem_names_iff
    {values : FieldValues}
    {name : String} :
    name ∈ values.names ↔ (values.get? name).isSome := by
  unfold names get?
  simp only [Option.isSome_map, List.find?_isSome, List.mem_map, decide_eq_true_eq]

end FieldValues

end Fieldwork
