import Mathlib.Data.List.Nodup
import Mathlib.Data.List.Sort
import Fieldwork.FieldValues

namespace Fieldwork

/-!
# Looking up by distinct keys

A look for a key finds the one item that has it, where no two items share a
key.  Field values are such a list; the values given for them in any order are
too, unless a name is given twice.
-/

/-- Among items with distinct keys, the one found under a key is the one that has it. -/
theorem find?_key_eq_some_iff
    {α κ : Type}
    [DecidableEq κ]
    {key : α → κ}
    {items : List α}
    {wanted : κ}
    {item : α}
    (distinct : (items.map key).Nodup) :
    (items.find? fun candidate => key candidate = wanted) = some item ↔
      item ∈ items ∧ key item = wanted := by
  constructor
  · intro found
    exact ⟨List.mem_of_find?_eq_some found, by simpa using List.find?_some found⟩
  · rintro ⟨member, rfl⟩
    obtain ⟨other, found⟩ :
        ∃ other, (items.find? fun candidate => key candidate = key item) = some other := by
      rw [← Option.isSome_iff_exists, List.find?_isSome]
      exact ⟨item, member, by simp⟩
    have sameKey : key other = key item := by
      simpa using List.find?_some found
    rw [found, List.inj_on_of_nodup_map distinct
      (List.mem_of_find?_eq_some found) member sameKey]

/-- Among fields given in any order, the last one of a name is found. -/
theorem Json.find?_sortFields
    {α : Type}
    (name : String)
    (fields : List (String × α)) :
    ((sortFields fields).find? fun field => field.1 = name) =
      fields.reverse.find? fun field => field.1 = name := by
  unfold sortFields
  suffices general :
      ∀ sorted : List (String × α),
        ((fields.foldl (fun sorted field =>
            insertField field.1 field.2 sorted) sorted).find?
              fun field => field.1 = name) =
          (fields.reverse.find? fun field => field.1 = name).or
            (sorted.find? fun field => field.1 = name) by
    simpa using general []
  induction fields with
  | nil =>
      intro sorted
      rfl
  | cons field rest inductionHypothesis =>
      intro sorted
      rw [List.foldl_cons, inductionHypothesis, find?_insertField, List.reverse_cons,
        List.find?_append, Option.or_assoc]
      by_cases found : field.1 = name
      · subst found
        simp
      · simp [found]

/-- A value that was inserted is the only new one. -/
theorem Json.mem_insertField
    {α : Type}
    {name : String}
    {value : α}
    {fields : List (String × α)}
    {field : String × α}
    (member : field ∈ insertField name value fields) :
    field = (name, value) ∨ field ∈ fields := by
  induction fields with
  | nil =>
      simpa [insertField] using member
  | cons head rest inductionHypothesis =>
      obtain ⟨other, kept⟩ := head
      unfold insertField at member
      split at member
      · simpa using member
      · split at member
        · rcases List.mem_cons.mp member with isNew | later
          · exact .inl isNew
          · exact .inr (List.mem_cons_of_mem _ later)
        · rcases List.mem_cons.mp member with isHead | later
          · exact .inr (isHead ▸ List.mem_cons_self)
          · exact (inductionHypothesis later).imp_right (List.mem_cons_of_mem _)

/-- Sorting adds no field. -/
theorem Json.mem_sortFields
    {α : Type}
    {fields : List (String × α)}
    {field : String × α}
    (member : field ∈ sortFields fields) :
    field ∈ fields := by
  suffices general :
      ∀ sorted : List (String × α),
        field ∈ fields.foldl (fun sorted field => insertField field.1 field.2 sorted) sorted →
          field ∈ sorted ∨ field ∈ fields by
    simpa using general [] member
  clear member
  induction fields with
  | nil =>
      intro sorted member
      exact .inl member
  | cons first rest inductionHypothesis =>
      intro sorted member
      rcases inductionHypothesis _ member with inserted | later
      · rcases mem_insertField inserted with isFirst | earlier
        · exact .inr (isFirst ▸ List.mem_cons_self)
        · exact .inl earlier
      · exact .inr (List.mem_cons_of_mem _ later)

namespace FieldValues

variable {values : FieldValues} {fields : List (String × Json)} {name : String}
  {value : Json}

theorem names_nodup
    (values : FieldValues) :
    (values.fields.map Prod.fst).Nodup := by
  refine List.Pairwise.imp (fun before => ?_) values.ascending
  exact fun same => String.lt_irrefl _ (same ▸ before)

/-- A value is found under a name exactly where the field is there. -/
theorem get?_eq_some_iff :
    values.get? name = some value ↔ (name, value) ∈ values.fields := by
  unfold get?
  rw [Option.map_eq_some_iff]
  simp only [find?_key_eq_some_iff values.names_nodup]
  constructor
  · rintro ⟨⟨_, _⟩, ⟨member, rfl⟩, rfl⟩
    exact member
  · intro member
    exact ⟨(name, value), ⟨member, rfl⟩, rfl⟩

theorem get?_eq_none_iff :
    values.get? name = none ↔ ∀ value, (name, value) ∉ values.fields := by
  rw [Option.eq_none_iff_forall_ne_some]
  simp only [ne_eq, get?_eq_some_iff]

theorem mem_names_iff_exists :
    name ∈ values.names ↔ ∃ value, (name, value) ∈ values.fields := by
  simp [names]

/-- A value that was recorded stands under its name alone, beside the others. -/
theorem mem_fields_insert_iff
    {other : String}
    {kept : Json} :
    (other, kept) ∈ (values.insert name value).fields ↔
      if name = other then value = kept else (other, kept) ∈ values.fields := by
  rw [← get?_eq_some_iff, get?_insert]
  split
  · exact Option.some_inj
  · exact get?_eq_some_iff

/-- Recording a value under a name that has none adds one field and takes none away. -/
theorem mem_fields_insert_of_absent_iff
    {other : String}
    {kept : Json}
    (absent : ∀ earlier, (name, earlier) ∉ values.fields) :
    (other, kept) ∈ (values.insert name value).fields ↔
      (other = name ∧ kept = value) ∨ (other, kept) ∈ values.fields := by
  rw [mem_fields_insert_iff]
  by_cases same : name = other
  · subst same
    simp [absent kept, eq_comm]
  · simp [same, Ne.symm same]

/-- Fields given under distinct names are all there, and no others are. -/
theorem mem_fields_ofFields_iff
    (distinct : (fields.map Prod.fst).Nodup) :
    (name, value) ∈ (ofFields fields).fields ↔ (name, value) ∈ fields := by
  have distinctReversed : (fields.reverse.map Prod.fst).Nodup := by
    rw [List.map_reverse]
    exact List.nodup_reverse.mpr distinct
  rw [← get?_eq_some_iff]
  unfold get? ofFields
  rw [Json.find?_sortFields, Option.map_eq_some_iff]
  simp only [find?_key_eq_some_iff distinctReversed, List.mem_reverse]
  constructor
  · rintro ⟨⟨_, _⟩, ⟨member, rfl⟩, rfl⟩
    exact member
  · intro member
    exact ⟨(name, value), ⟨member, rfl⟩, rfl⟩

/-- Sorting fields of distinct names only rearranges them. -/
theorem sortFields_perm
    (distinct : (fields.map Prod.fst).Nodup) :
    (Json.sortFields fields).Perm fields := by
  have sortedDistinct : (Json.sortFields fields).Nodup := (ofFields fields).names_nodup.of_map
  rw [List.perm_ext_iff_of_nodup sortedDistinct distinct.of_map]
  rintro ⟨name, value⟩
  exact mem_fields_ofFields_iff distinct

/-- The order in which fields are kept: by their names. -/
def NamedBefore
    (earlier later : String × Json) :
    Prop :=
  earlier.1 < later.1

instance : Std.Irrefl NamedBefore where
  irrefl field := String.lt_irrefl field.1

instance : Std.Antisymm NamedBefore where
  antisymm _ _ before after := (String.lt_asymm before after).elim

theorem pairwise_namedBefore
    (values : FieldValues) :
    values.fields.Pairwise NamedBefore := by
  have ordered := List.pairwise_map.mp values.ascending
  exact ordered

/-- Values with the same fields are equal, since both keep them in ascending order. -/
theorem eq_of_mem_fields_iff
    {left right : FieldValues}
    (same :
      ∀ name value, (name, value) ∈ left.fields ↔ (name, value) ∈ right.fields) :
    left = right := by
  have sameFields : left.fields = right.fields :=
    left.pairwise_namedBefore.eq_of_mem_iff right.pairwise_namedBefore
      fun field => same field.1 field.2
  obtain ⟨fields, _⟩ := left
  cases sameFields
  rfl

end FieldValues

end Fieldwork
