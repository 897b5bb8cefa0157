import Mathlib.Data.List.Forall2
import Mathlib.Data.List.Pairwise
import Mathlib.Data.List.Perm.Basic
import Fieldwork.Json.Typed
import Fieldwork.Proofs.Fields
import Fieldwork.Proofs.Json.Written
import Fieldwork.Proofs.Sameness

namespace Fieldwork.Json

/-!
# Stored forms and what they are read as

A stored form keeps its value if every arrangement of its fields is read as
that value.  The parts of a stored form are scalars, lists and records.  A
record is read field by field into a draft; since no two fields touch the same
part of the draft, the order in which they come does not matter.
-/

/-! ## The order of fields -/

/-- Two values that differ in the order of fields only, in any of their objects. -/
inductive Rearranged : Json → Json → Prop where
  | scalar {value : Json} (noParts : value.IsScalar) :
      Rearranged value value
  | array {items items' : List Json} (each : List.Forall₂ Rearranged items items') :
      Rearranged (.array items) (.array items')
  | object
      {fields aligned fields' : List (String × Json)}
      (names : fields.map Prod.fst = aligned.map Prod.fst)
      (each : List.Forall₂ Rearranged (fields.map Prod.snd) (aligned.map Prod.snd))
      (order : aligned.Perm fields') :
      Rearranged (.object fields) (.object fields')

namespace Rearranged

variable {value arranged : Json}

theorem eq_of_isScalar
    (rearranged : Rearranged value arranged)
    (noParts : value.IsScalar) :
    arranged = value := by
  cases rearranged with
  | scalar _ =>
      rfl
  | array _ =>
      cases noParts
  | object _ _ _ =>
      cases noParts

theorem ne_null
    (rearranged : Rearranged value arranged)
    (someValue : value ≠ .null) :
    arranged ≠ .null := by
  cases rearranged with
  | scalar _ =>
      exact someValue
  | array _ =>
      simp
  | object _ _ _ =>
      simp

mutual

theorem refl :
    ∀ value : Json,
      Rearranged value value
  | .null => .scalar trivial
  | .bool _ => .scalar trivial
  | .number _ => .scalar trivial
  | .string _ => .scalar trivial
  | .array items => .array (items_refl items)
  | .object fields => .object rfl (values_refl fields) (.refl _)

theorem items_refl :
    ∀ items : List Json,
      List.Forall₂ Rearranged items items
  | [] => .nil
  | item :: rest => .cons (refl item) (items_refl rest)

theorem values_refl :
    ∀ fields : List (String × Json),
      List.Forall₂ Rearranged (fields.map Prod.snd) (fields.map Prod.snd)
  | [] => .nil
  | (_, value) :: rest => .cons (refl value) (values_refl rest)

end

/-- Field by field, an arrangement keeps the name and rearranges the value. -/
theorem forall₂_fields
    {fields aligned : List (String × Json)}
    (names : fields.map Prod.fst = aligned.map Prod.fst)
    (each : List.Forall₂ Rearranged (fields.map Prod.snd) (aligned.map Prod.snd)) :
    List.Forall₂ (fun left right => left.1 = right.1 ∧ Rearranged left.2 right.2)
      fields aligned := by
  induction fields generalizing aligned with
  | nil =>
      cases aligned with
      | nil =>
          exact .nil
      | cons _ _ =>
          cases names
  | cons field rest inductionHypothesis =>
      cases aligned with
      | nil =>
          cases names
      | cons field' rest' =>
          rw [List.map_cons, List.map_cons, List.cons.injEq] at names
          rw [List.map_cons, List.map_cons, List.forall₂_cons] at each
          exact .cons ⟨names.1, each.1⟩ (inductionHypothesis names.2 each.2)

end Rearranged

/-- Every item of an arrangement rearranges an item. -/
theorem exists_rearranged
    {items items' : List Json}
    (each : List.Forall₂ Rearranged items items')
    {item' : Json}
    (member : item' ∈ items') :
    ∃ item ∈ items, Rearranged item item' := by
  induction each with
  | nil =>
      cases member
  | cons alike _ inductionHypothesis =>
      rcases List.mem_cons.mp member with rfl | later
      · exact ⟨_, List.mem_cons_self, alike⟩
      · obtain ⟨item, inRest, restAlike⟩ := inductionHypothesis later
        exact ⟨item, List.mem_cons_of_mem _ inRest, restAlike⟩

/-- An arrangement of a legible value is legible. -/
theorem Legible.rearranged
    {room : Nat}
    {value arranged : Json}
    (legible : Legible room value)
    (rearranged : Rearranged value arranged) :
    Legible room arranged := by
  induction legible generalizing arranged with
  | null =>
      rw [rearranged.eq_of_isScalar trivial]
      exact .null
  | bool value =>
      rw [rearranged.eq_of_isScalar trivial]
      exact .bool value
  | number readsBack =>
      rw [rearranged.eq_of_isScalar trivial]
      exact .number readsBack
  | string text =>
      rw [rearranged.eq_of_isScalar trivial]
      exact .string text
  | array _ inductionHypothesis =>
      cases rearranged with
      | scalar noParts =>
          cases noParts
      | array each =>
          refine .array fun item' member => ?_
          obtain ⟨item, inItems, alike⟩ := exists_rearranged each member
          exact inductionHypothesis item inItems alike
  | object _ inductionHypothesis =>
      cases rearranged with
      | scalar noParts =>
          cases noParts
      | object _ each order =>
          refine .object fun field' member => ?_
          have inAligned := List.mem_map_of_mem (f := Prod.snd) (order.mem_iff.mpr member)
          obtain ⟨value, inValues, alike⟩ := exists_rearranged each inAligned
          obtain ⟨field, inFields, rfl⟩ := List.mem_map.mp inValues
          exact inductionHypothesis field inFields alike

/-- The text of any arrangement of a legible value is read as that arrangement. -/
theorem ofText_rearranged
    {value written : Json}
    (legible : Legible Document.greatestDepth value)
    (rearranged : Rearranged value written) :
    Document.ofText written.render = (.ofJson written, true) :=
  Document.ofText_render (legible.rearranged rearranged)

/-! ## Stored scalars and lists -/

variable {ε α β : Type} {read : Document → Reading ε α} {value : α} {json : Json}

/-- Whether a stored form is read as a value, in whatever order its fields stand. -/
def Stores
    (read : Document → Reading ε α)
    (value : α)
    (json : Json) :
    Prop :=
  ∀ arranged, Rearranged json arranged → read (.ofJson arranged) = .ok value

/-- A scalar has one arrangement only. -/
theorem stores_of_isScalar
    (noParts : json.IsScalar)
    (reads : read (.ofJson json) = .ok value) :
    Stores read value json := by
  intro arranged rearranged
  rw [rearranged.eq_of_isScalar noParts]
  exact reads

theorem Stores.map
    (change : α → β)
    (stores : Stores read value json) :
    Stores (fun document => (read document).map change) (change value) json := by
  intro arranged rearranged
  simp only [stores arranged rearranged]
  rfl

namespace Document

theorem ofJson_ne_null
    (someValue : json ≠ .null) :
    ofJson json ≠ .null := by
  cases json <;> simp [ofJson] at someValue ⊢

theorem readOptional_of_ne_null
    {document : Document}
    (someValue : document ≠ .null) :
    document.readOptional read = (read document).map some := by
  cases document <;> simp [readOptional] at someValue ⊢

end Document

open Document

theorem Stores.optional
    (stores : Stores read value json)
    (someValue : json ≠ .null) :
    Stores (Document.readOptional read) (some value) json := by
  intro arranged rearranged
  rw [readOptional_of_ne_null (ofJson_ne_null (rearranged.ne_null someValue)),
    stores arranged rearranged]
  rfl

/-- An absent value is stored as null. -/
theorem stores_ofOption
    {encode : α → Json}
    {value : Option α}
    (someValue : ∀ inner ∈ value, encode inner ≠ .null)
    (stores : ∀ inner ∈ value, Stores read inner (encode inner)) :
    Stores (Document.readOptional read) value (ofOption encode value) := by
  cases value with
  | none =>
      exact stores_of_isScalar trivial rfl
  | some inner =>
      exact (stores inner rfl).optional (someValue inner rfl)

theorem Stores.orDefault
    (default : α)
    (stores : Stores read value json)
    (someValue : json ≠ .null) :
    Stores (Document.readOrDefault default read) value json := by
  intro arranged rearranged
  unfold Document.readOrDefault
  rw [stores.optional someValue arranged rearranged]
  rfl

/-- A list is stored item by item. -/
theorem stores_list
    {encode : α → Json}
    {items : List α}
    (each : ∀ item ∈ items, Stores read item (encode item)) :
    Stores (Document.readList read) items (.array (items.map encode)) := by
  intro arranged rearranged
  cases rearranged with
  | scalar noParts =>
      cases noParts
  | @array _ items' alike =>
      simp only [ofJson, readList]
      induction items generalizing items' with
      | nil =>
          cases alike
          rfl
      | cons item rest inductionHypothesis =>
          cases alike with
          | @cons _ item' _ rest' itemAlike restAlike =>
              have readsItem := each item (by simp) item' itemAlike
              have readsRest :=
                inductionHypothesis (fun later member => each later (by simp [member])) restAlike
              simp only [ofItems, List.mapM_cons, readsItem, readsRest]
              rfl

section Scalars

theorem stores_string
    (text : String) :
    Stores (readString : Document → Reading ε String) text (.string text) :=
  stores_of_isScalar trivial rfl

theorem stores_bool
    (value : Bool) :
    Stores (readBool : Document → Reading ε Bool) value (.bool value) :=
  stores_of_isScalar trivial rfl

theorem stores_real
    (value : Binary64) :
    Stores (Document.readReal : Document → Reading ε Binary64) value (.ofReal value) :=
  stores_of_isScalar trivial rfl

theorem ofInt_eq_number
    {value : Int}
    (wide : leastInt64 ≤ value ∧ value ≤ greatestNat64) :
    Json.ofInt value = .number (.integer value wide) := by
  simp [ofInt, Number.ofInt?, wide]

/-- An integer is read back wherever its bounds allow for it. -/
theorem stores_int
    {least greatest value : Int}
    (inRange : least ≤ value ∧ value ≤ greatest)
    (wide : leastInt64 ≤ value ∧ value ≤ greatestNat64) :
    Stores (readInt least greatest : Document → Reading ε Int) value (.ofInt value) := by
  rw [ofInt_eq_number wide]
  refine stores_of_isScalar trivial ?_
  simp [ofJson, readInt, inRange]

/-- A choice is read back from its name. -/
theorem stores_choice
    {decode : String → Option α}
    {name : String}
    (found : decode name = some value) :
    Stores (readChoice decode : Document → Reading ε α) value (.string name) := by
  refine stores_of_isScalar trivial ?_
  simp [ofJson, readChoice, found, demand]

end Scalars

/-! ## Stored records -/

/-- A field of a record: its name, what is stored for it, and what it does to the draft. -/
structure Slot (δ : Type) where
  name : String
  stored? : Option Json
  update : δ → δ

namespace Slot

variable {δ : Type}

/-- The fields that are stored for slots; an absent one is left out. -/
def fields
    (slots : List (Slot δ)) :
    List (String × Json) :=
  slots.filterMap fun slot => slot.stored?.map fun json => (slot.name, json)

/-- What slots make of a draft, one after the other. -/
def updateAll
    (slots : List (Slot δ))
    (draft : δ) :
    δ :=
  slots.foldl (fun draft slot => slot.update draft) draft

@[simp] theorem updateAll_nil
    (draft : δ) :
    updateAll [] draft = draft :=
  rfl

@[simp] theorem updateAll_cons
    (slot : Slot δ)
    (slots : List (Slot δ))
    (draft : δ) :
    updateAll (slot :: slots) draft = updateAll slots (slot.update draft) :=
  rfl

/-- A stored field is what a slot stores. -/
theorem exists_of_mem_fields
    {slots : List (Slot δ)}
    {field : String × Json}
    (member : field ∈ fields slots) :
    ∃ slot ∈ slots, field.2 ∈ slot.stored? := by
  obtain ⟨slot, inSlots, stored⟩ := List.mem_filterMap.mp member
  obtain ⟨json, isJson, rfl⟩ := Option.map_eq_some_iff.mp stored
  exact ⟨slot, inSlots, isJson⟩

/-- An optional field is stored as the field of what is written for it. -/
theorem optionalField_map
    (name : String)
    (encode : α → Json)
    (value : Option α) :
    optionalField name (fun json => json) (value.map encode) = optionalField name encode value := by
  cases value <;> rfl

theorem optionalField_some
    (name : String)
    (encode : α → Json)
    (value : α) :
    optionalField name encode (some value) = [(name, encode value)] :=
  rfl

/-- A stored record has the fields of its slots, one after the other. -/
theorem fields_cons
    (slot : Slot δ)
    (slots : List (Slot δ)) :
    fields (slot :: slots) =
      optionalField slot.name (fun json => json) slot.stored? ++ fields slots := by
  unfold fields
  cases stored : slot.stored? <;> simp [stored, optionalField]

@[simp] theorem fields_nil :
    fields ([] : List (Slot δ)) = [] :=
  rfl

/-- Whether two slots may come in either order. -/
def Commute
    (left right : Slot δ) :
    Prop :=
  ∀ draft, left.update (right.update draft) = right.update (left.update draft)

instance :
    Std.Symm (Commute (δ := δ)) where
  symm _ _ same draft := (same draft).symm

/-- Whether a stored slot is taken as it was, and an absent one leaves the draft alone. -/
structure Kept
    (names : List String)
    (take : δ → String → Document → Reading ε δ)
    (draft : δ)
    (slot : Slot δ) :
    Prop where
  known : slot.name ∈ names
  taken : ∀ json ∈ slot.stored?, ∀ draft, Stores (take draft slot.name) (slot.update draft) json
  absent : slot.stored? = none → slot.update draft = draft

variable {names : List String} {take : δ → String → Document → Reading ε δ} {draft : δ}
  {slots : List (Slot δ)}

theorem kept_some
    {name : String}
    {json : Json}
    {update : δ → δ}
    (known : name ∈ names)
    (stores : ∀ draft, Stores (take draft name) (update draft) json) :
    Kept names take draft ⟨name, some json, update⟩ where
  known := known
  taken := by
    rintro _ ⟨⟩
    exact stores
  absent := by
    intro isNone
    cases isNone

/-- An optional field is left out where it is absent, and then the draft stays unset. -/
theorem kept_optional
    {name : String}
    {read : Document → Reading ε α}
    {encode : α → Json}
    {value : Option α}
    (set : δ → Option α → δ)
    (known : name ∈ names)
    (takes :
      ∀ draft document,
        take draft name document = (Document.readOptional read document).map (set draft))
    (someValue : ∀ inner ∈ value, encode inner ≠ .null)
    (stores : ∀ inner ∈ value, Stores read inner (encode inner))
    (unset : set draft none = draft) :
    Kept names take draft ⟨name, value.map encode, fun draft => set draft value⟩ where
  known := known
  taken := by
    intro json stored draft
    obtain ⟨inner, isInner, rfl⟩ := Option.map_eq_some_iff.mp stored
    subst isInner
    have takesField : take draft name = fun document =>
        (Document.readOptional read document).map (set draft) :=
      funext (takes draft)
    simp only [takesField]
    exact ((stores inner rfl).optional (someValue inner rfl)).map (set draft)
  absent := by
    intro isNone
    rw [Option.map_eq_none_iff.mp isNone]
    exact unset

/-- Whether a written field is an arrangement of what is stored for a slot. -/
def WrittenAs
    (slot : Slot δ)
    (field : String × Json) :
    Prop :=
  field.1 = slot.name ∧ ∃ json ∈ slot.stored?, Rearranged json field.2

/-- The fields of a record are taken one after the other, each under a name of its own. -/
theorem readMembersOf_written
    {fields : List (String × Json)}
    {seen : List String}
    (kept : ∀ slot ∈ slots, slot.name ∈ names ∧ ∀ json ∈ slot.stored?,
      ∀ draft, Stores (take draft slot.name) (slot.update draft) json)
    (distinct : (slots.map Slot.name).Nodup)
    (fresh : ∀ slot ∈ slots, slot.name ∉ seen)
    (written : List.Forall₂ WrittenAs slots fields) :
    readMembersOf names take seen draft (Document.ofFields fields) =
      .ok (updateAll slots draft) := by
  induction written generalizing seen draft with
  | nil =>
      rfl
  | @cons slot field slots fields writtenAs _ inductionHypothesis =>
      obtain ⟨name, value⟩ := field
      obtain ⟨rfl, json, stored, rearranged⟩ := writtenAs
      obtain ⟨known, taken⟩ := kept slot (by simp)
      have notSeen : slot.name ∉ seen := fresh slot (by simp)
      rw [List.map_cons, List.nodup_cons] at distinct
      have takes : take draft slot.name (.ofJson value) = .ok (slot.update draft) :=
        taken json stored draft value rearranged
      have readsRest :
          readMembersOf names take (slot.name :: seen) (slot.update draft)
              (Document.ofFields fields) =
            .ok (updateAll slots (slot.update draft)) := by
        apply inductionHypothesis (fun later member => kept later (by simp [member])) distinct.2
        intro later member inSeen
        rcases List.mem_cons.mp inSeen with same | inSeen
        · exact distinct.1 (same ▸ List.mem_map_of_mem member)
        · exact fresh later (by simp [member]) inSeen
      simp [Document.ofFields, readMembersOf, known, notSeen, takes, readsRest]

/-- Absent slots may be passed over. -/
theorem updateAll_stored
    (commute : slots.Pairwise Commute)
    (absent : ∀ slot ∈ slots, slot.stored? = none → slot.update draft = draft) :
    updateAll (slots.filter fun slot => slot.stored?.isSome) draft = updateAll slots draft := by
  induction slots generalizing draft with
  | nil =>
      rfl
  | cons slot rest inductionHypothesis =>
      rw [List.pairwise_cons] at commute
      rw [updateAll_cons]
      cases stored : slot.stored? with
      | none =>
          have unchanged : slot.update draft = draft := absent slot (by simp) stored
          rw [List.filter_cons_of_neg (by simp [stored]), unchanged]
          exact inductionHypothesis commute.2 fun later member => absent later (by simp [member])
      | some json =>
          rw [List.filter_cons_of_pos (by simp [stored]), updateAll_cons]
          apply inductionHypothesis commute.2
          intro later member leftOut
          rw [← commute.1 later member draft, absent later (by simp [member]) leftOut]

/-- Slots that commute may come in any order. -/
theorem updateAll_perm
    {slots' : List (Slot δ)}
    (commute : ∀ left ∈ slots, ∀ right ∈ slots, Commute left right)
    (order : slots.Perm slots')
    (draft : δ) :
    updateAll slots draft = updateAll slots' draft := by
  refine order.foldl_eq' ?_ draft
  intro left leftIn right rightIn draft
  exact commute right rightIn left leftIn draft

/-- The stored fields belong to the slots that are not absent. -/
theorem forall₂_fields
    (slots : List (Slot δ)) :
    List.Forall₂ (fun field slot => field.1 = slot.name ∧ field.2 ∈ slot.stored?)
      (fields slots) (slots.filter fun slot => slot.stored?.isSome) := by
  induction slots with
  | nil =>
      exact .nil
  | cons slot rest inductionHypothesis =>
      unfold fields at inductionHypothesis ⊢
      cases stored : slot.stored? with
      | none =>
          rw [List.filterMap_cons_none (by simp [stored]),
            List.filter_cons_of_neg (by simp [stored])]
          exact inductionHypothesis
      | some json =>
          rw [List.filterMap_cons_some (b := (slot.name, json)) (by simp [stored]),
            List.filter_cons_of_pos (by simp [stored])]
          exact .cons ⟨rfl, stored⟩ inductionHypothesis

theorem names_nodup_fields
    (distinct : (slots.map Slot.name).Nodup) :
    ((fields slots).map Prod.fst).Nodup := by
  have names :
      (fields slots).map Prod.fst =
        (slots.filter fun slot => slot.stored?.isSome).map Slot.name := by
    refine List.forall₂_eq_eq_eq ▸ ?_
    rw [List.forall₂_map_left_iff, List.forall₂_map_right_iff]
    exact (forall₂_fields slots).imp fun _ _ same => same.1
  rw [names]
  exact distinct.sublist (List.filter_sublist.map Slot.name)

/-- What rearranges the field that belongs to a slot is written for that slot. -/
theorem forall₂_writtenAs
    {stored : List (Slot δ)}
    {fields aligned : List (String × Json)}
    (belongs :
      List.Forall₂ (fun field slot => field.1 = slot.name ∧ field.2 ∈ slot.stored?)
        fields stored)
    (rearranged :
      List.Forall₂ (fun left right => left.1 = right.1 ∧ Rearranged left.2 right.2)
        fields aligned) :
    List.Forall₂ (flip WrittenAs) aligned stored := by
  induction belongs generalizing aligned with
  | nil =>
      cases rearranged
      exact .nil
  | cons belongsHere _ inductionHypothesis =>
      cases rearranged with
      | cons alike restAlike =>
          have sameName := alike.1.symm.trans belongsHere.1
          exact .cons ⟨sameName, _, belongsHere.2, alike.2⟩ (inductionHypothesis restAlike)

/-- Every arrangement of a stored record holds a field for each slot that is not absent. -/
theorem exists_writtenAs
    {arranged : Json}
    (distinct : (slots.map Slot.name).Nodup)
    (rearranged : Rearranged (.ofFields (fields slots)) arranged) :
    ∃ written fields',
      arranged = .object fields' ∧
        written.Perm (slots.filter fun slot => slot.stored?.isSome) ∧
        List.Forall₂ WrittenAs written fields' := by
  have sorted := FieldValues.sortFields_perm (names_nodup_fields distinct)
  obtain ⟨stored, belongs, storedOrder⟩ := List.perm_comp_forall₂ sorted (forall₂_fields slots)
  cases rearranged with
  | scalar noParts =>
      cases noParts
  | @object _ aligned fields' names each order =>
      have alignedWritten : List.Forall₂ (flip WrittenAs) aligned stored :=
        forall₂_writtenAs belongs (Rearranged.forall₂_fields names each)
      obtain ⟨written, writtenAs, writtenOrder⟩ :=
        List.perm_comp_forall₂ order.symm alignedWritten
      exact ⟨written, fields', rfl, writtenOrder.trans storedOrder, writtenAs.flip⟩

end Slot

/-- A record is read back from its slots, whichever of them are absent. -/
theorem stores_record
    {δ : Type}
    {names : List String}
    {take : δ → String → Document → Reading ε δ}
    {draft : δ}
    {slots : List (Slot δ)}
    (distinct : (slots.map Slot.name).Nodup)
    (commute : slots.Pairwise Slot.Commute)
    (kept : ∀ slot ∈ slots, slot.Kept names take draft) :
    Stores (readRecord names take draft) (Slot.updateAll slots draft)
      (.ofFields (Slot.fields slots)) := by
  intro arranged rearranged
  obtain ⟨written, fields', rfl, order, writtenAs⟩ := Slot.exists_writtenAs distinct rearranged
  have among : ∀ slot ∈ written, slot ∈ slots :=
    fun slot member => List.mem_of_mem_filter (order.mem_iff.mp member)
  have distinctWritten : (written.map Slot.name).Nodup := by
    rw [(order.map Slot.name).nodup_iff]
    exact distinct.sublist (List.filter_sublist.map Slot.name)
  have reads :
      readMembersOf names take [] draft (Document.ofFields fields') =
        .ok (Slot.updateAll written draft) :=
    Slot.readMembersOf_written
      (fun slot member => ⟨(kept slot (among slot member)).known,
        (kept slot (among slot member)).taken⟩)
      distinctWritten (by simp) writtenAs
  have anyTwo : ∀ left ∈ slots, ∀ right ∈ slots, Slot.Commute left right :=
    fun left leftIn right rightIn =>
      commute.forall_of_forall (fun _ _ _ => rfl) leftIn rightIn
  have anyOrder : Slot.updateAll written draft = Slot.updateAll slots draft := by
    rw [Slot.updateAll_perm _ order,
      Slot.updateAll_stored commute fun slot member => (kept slot member).absent]
    exact fun left leftIn right rightIn =>
      anyTwo left (among left leftIn) right (among right rightIn)
  rw [ofJson, readRecord, reads, anyOrder]

/-- A record is legible where what is stored for its slots is. -/
theorem legible_record
    {δ : Type}
    {room : Nat}
    {slots : List (Slot δ)}
    (each : ∀ slot ∈ slots, ∀ json ∈ slot.stored?, Legible room json) :
    Legible (room + 1) (.ofFields (Slot.fields slots)) := by
  refine .object fun field member => ?_
  obtain ⟨slot, inSlots, stored⟩ := Slot.exists_of_mem_fields (mem_sortFields member)
  exact each slot inSlots field.2 stored

theorem legible_list
    {room : Nat}
    {items : List α}
    {encode : α → Json}
    (each : ∀ item ∈ items, Legible room (encode item)) :
    Legible (room + 1) (.array (items.map encode)) := by
  refine .array fun json member => ?_
  obtain ⟨item, inItems, rfl⟩ := List.mem_map.mp member
  exact each item inItems

theorem legible_ofInt
    {room : Nat}
    {value : Int}
    (wide : leastInt64 ≤ value ∧ value ≤ greatestNat64) :
    Legible room (.ofInt value) := by
  rw [ofInt_eq_number wide]
  exact .number (Number.readsBack_integer value wide)

theorem legible_ofOption
    {room : Nat}
    {value : Option α}
    {encode : α → Json}
    (each : ∀ inner ∈ value, Legible room (encode inner)) :
    Legible room (.ofOption encode value) := by
  cases value with
  | none =>
      exact .null
  | some inner =>
      exact each inner rfl

end Fieldwork.Json
