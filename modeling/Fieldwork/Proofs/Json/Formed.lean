import Fieldwork.Proofs.Json.Stored
import Fieldwork.Proofs.Json.Typed

namespace Fieldwork.Json

/-!
# Values of documents

A value that stands in a document has the fields of its objects in ascending
order, and its containers are nested no deeper than those of the document.  A
document that was read from a text is nested no deeper than the reader follows,
so what is taken from it can be written and read again.
-/

/-- Whether the containers of a document are nested no deeper than a bound. -/
inductive Document.Within : Nat → Document → Prop where
  | null {room : Nat} :
      Within room .null
  | bool {room : Nat} (value : Bool) :
      Within room (.bool value)
  | number {room : Nat} (value : Option Number) :
      Within room (.number value)
  | string {room : Nat} (content : Option String) :
      Within room (.string content)
  | array {room : Nat} {items : List Document} (each : ∀ item ∈ items, Within room item) :
      Within (room + 1) (.array items)
  | object
      {room : Nat}
      {members : List (Option String × Document)}
      (each : ∀ member ∈ members, Within room member.2) :
      Within (room + 1) (.object members)
  | buried {room : Nat} :
      Within room .buried
  | broken {room : Nat} :
      Within room .broken

/--
Whether a value is nested no deeper than a bound and has the fields of its
objects in ascending order.
-/
inductive Formed : Nat → Json → Prop where
  | scalar {room : Nat} {value : Json} (noParts : value.IsScalar) :
      Formed room value
  | array {room : Nat} {items : List Json} (each : ∀ item ∈ items, Formed room item) :
      Formed (room + 1) (.array items)
  | object
      {room : Nat}
      {fields : List (String × Json)}
      (ascending : (fields.map Prod.fst).Pairwise (· < ·))
      (each : ∀ field ∈ fields, Formed room field.2) :
      Formed (room + 1) (.object fields)

mutual

/-- The reals that stand in a value, in order. -/
def reals :
    Json →
    List Binary64
  | .number (.real value) => [value]
  | .array items => realsOfItems items
  | .object fields => realsOfFields fields
  | _ => []

def realsOfItems :
    List Json →
    List Binary64
  | [] => []
  | item :: rest => reals item ++ realsOfItems rest

def realsOfFields :
    List (String × Json) →
    List Binary64
  | [] => []
  | (_, value) :: rest => reals value ++ realsOfFields rest

end

theorem mem_realsOfItems
    {items : List Json}
    {item : Json}
    {real : Binary64}
    (member : item ∈ items)
    (inside : real ∈ item.reals) :
    real ∈ realsOfItems items := by
  induction items with
  | nil =>
      cases member
  | cons first rest inductionHypothesis =>
      rw [realsOfItems, List.mem_append]
      rcases List.mem_cons.mp member with rfl | later
      · exact .inl inside
      · exact .inr (inductionHypothesis later)

theorem mem_realsOfFields
    {fields : List (String × Json)}
    {field : String × Json}
    {real : Binary64}
    (member : field ∈ fields)
    (inside : real ∈ field.2.reals) :
    real ∈ realsOfFields fields := by
  induction fields with
  | nil =>
      cases member
  | cons first rest inductionHypothesis =>
      rw [realsOfFields, List.mem_append]
      rcases List.mem_cons.mp member with rfl | later
      · exact .inl inside
      · exact .inr (inductionHypothesis later)

/-- A value is legible where its reals are read back. -/
theorem Formed.legible
    {room : Nat}
    {value : Json}
    (formed : Formed room value)
    (readsBack : ∀ real ∈ value.reals, (Number.real real).ReadsBack) :
    Legible room value := by
  induction formed with
  | @scalar room value noParts =>
      cases value with
      | null =>
          exact .null
      | bool value =>
          exact .bool value
      | number number =>
          cases number with
          | integer value inRange =>
              exact .number (Number.readsBack_integer value inRange)
          | real value =>
              exact .number (readsBack value (by simp [reals]))
      | string text =>
          exact .string text
      | array items =>
          cases noParts
      | object fields =>
          cases noParts
  | array _ inductionHypothesis =>
      exact .array fun item member =>
        inductionHypothesis item member fun real inside =>
          readsBack real (mem_realsOfItems member inside)
  | object _ _ inductionHypothesis =>
      exact .object fun field member =>
        inductionHypothesis field member fun real inside =>
          readsBack real (mem_realsOfFields member inside)

/-- A record is formed where what is stored for its slots is. -/
theorem formed_record
    {δ : Type}
    {room : Nat}
    {slots : List (Slot δ)}
    (each : ∀ slot ∈ slots, ∀ json ∈ slot.stored?, Formed room json) :
    Formed (room + 1) (.ofFields (Slot.fields slots)) := by
  refine .object (pairwise_sortFields _) fun field member => ?_
  obtain ⟨slot, inSlots, stored⟩ := Slot.exists_of_mem_fields (mem_sortFields member)
  exact each slot inSlots field.2 stored

/-- What is stored for an optional value is formed where it is for the value. -/
theorem formed_map
    {α : Type}
    {room : Nat}
    {value : Option α}
    {encode : α → Json}
    (each : ∀ inner ∈ value, Formed room (encode inner)) :
    ∀ json ∈ value.map encode, Formed room json := by
  intro json stored
  obtain ⟨inner, isInner, rfl⟩ := Option.map_eq_some_iff.mp stored
  exact each inner isInner

theorem formed_list
    {α : Type}
    {room : Nat}
    {items : List α}
    {encode : α → Json}
    (each : ∀ item ∈ items, Formed room (encode item)) :
    Formed (room + 1) (.array (items.map encode)) := by
  refine .array fun json member => ?_
  obtain ⟨item, inItems, rfl⟩ := List.mem_map.mp member
  exact each item inItems

/-! ## Values are read from their documents -/

namespace Document

/-- Items are read from the documents of anything that rearranges them. -/
theorem jsonItems?_ofItems
    {items items' : List Json}
    (each : List.Forall₂ (fun item item' => (ofJson item').json? = some item) items items') :
    jsonItems? (ofItems items') = some items := by
  induction each with
  | nil =>
      rfl
  | cons reads _ inductionHypothesis =>
      simp [ofItems, jsonItems?, reads, inductionHypothesis]

theorem jsonFields?_ofFields
    {fields fields' : List (String × Json)}
    (each :
      List.Forall₂ (fun field' field => field'.1 = field.1 ∧ (ofJson field'.2).json? = some field.2)
        fields' fields) :
    jsonFields? (ofFields fields') = some fields := by
  induction each with
  | nil =>
      rfl
  | @cons field' field _ _ reads _ inductionHypothesis =>
      obtain ⟨name', value'⟩ := field'
      obtain ⟨name, value⟩ := field
      obtain ⟨rfl, readsValue⟩ := reads
      simp [ofFields, jsonFields?, readsValue, inductionHypothesis]

end Document

/-- Fields in ascending order are what sorting makes of any arrangement of them. -/
theorem sortFields_of_perm
    {fields fields' : List (String × Json)}
    (ascending : (fields.map Prod.fst).Pairwise (· < ·))
    (order : fields'.Perm fields) :
    sortFields fields' = fields := by
  have distinct : (fields'.map Prod.fst).Nodup := by
    rw [(order.map Prod.fst).nodup_iff]
    exact (⟨fields, ascending⟩ : FieldValues).names_nodup
  have same : FieldValues.ofFields fields' = ⟨fields, ascending⟩ := by
    apply FieldValues.eq_of_mem_fields_iff
    intro name value
    rw [FieldValues.mem_fields_ofFields_iff distinct]
    exact order.mem_iff
  exact congrArg FieldValues.fields same

/-- A value is read from the document of any arrangement of it. -/
theorem Formed.json?_ofJson
    {room : Nat}
    {value arranged : Json}
    (formed : Formed room value)
    (rearranged : Rearranged value arranged) :
    (Document.ofJson arranged).json? = some value := by
  induction formed generalizing arranged with
  | @scalar room value noParts =>
      rw [rearranged.eq_of_isScalar noParts]
      cases value <;> first | rfl | cases noParts
  | @array room items _ inductionHypothesis =>
      cases rearranged with
      | scalar noParts =>
          cases noParts
      | @array _ items' each =>
          have reads :
              List.Forall₂ (fun item item' => (Document.ofJson item').json? = some item)
                items items' :=
            ((List.forall₂_and_left items items').mpr ⟨inductionHypothesis, each⟩).imp
              fun _ _ step => step.1 step.2
          simp [Document.ofJson, Document.json?, Document.jsonItems?_ofItems reads]
  | @object room fields ascending _ inductionHypothesis =>
      cases rearranged with
      | scalar noParts =>
          cases noParts
      | @object _ aligned fields' names each order =>
          have readsAligned :
              List.Forall₂
                (fun field' field =>
                  field'.1 = field.1 ∧ (Document.ofJson field'.2).json? = some field.2)
                aligned fields := by
            apply List.Forall₂.flip
            refine ((List.forall₂_and_left fields aligned).mpr
              ⟨inductionHypothesis, Rearranged.forall₂_fields names each⟩).imp ?_
            rintro field field' ⟨step, sameName, alike⟩
            exact ⟨sameName.symm, step alike⟩
          obtain ⟨read, reads, readOrder⟩ := List.perm_comp_forall₂ order.symm readsAligned
          simp [Document.ofJson, Document.json?, Document.jsonFields?_ofFields reads,
            sortFields_of_perm ascending readOrder]

/-- A value is stored as itself. -/
theorem Formed.stores
    {ε : Type}
    {room : Nat}
    {value : Json}
    (formed : Formed room value) :
    Stores (Document.readJson : Document → Reading ε Json) value value := by
  intro arranged rearranged
  unfold Document.readJson
  rw [formed.json?_ofJson rearranged]
  rfl

/-! ## Values that stand in documents -/

namespace Document

variable {room : Nat}

theorem exists_item_of_jsonItems?
    {items : List Document}
    {values : List Json}
    {value : Json}
    (reads : jsonItems? items = some values)
    (member : value ∈ values) :
    ∃ item ∈ items, item.json? = some value := by
  induction items generalizing values with
  | nil =>
      cases reads
      cases member
  | cons item rest inductionHypothesis =>
      unfold jsonItems? at reads
      split at reads
      · rename_i head tail readsHead readsTail
        cases reads
        rcases List.mem_cons.mp member with rfl | later
        · exact ⟨item, by simp, readsHead⟩
        · obtain ⟨item, inRest, readsItem⟩ := inductionHypothesis readsTail later
          exact ⟨item, by simp [inRest], readsItem⟩
      · cases reads

theorem exists_member_of_jsonFields?
    {members : List (Option String × Document)}
    {fields : List (String × Json)}
    {field : String × Json}
    (reads : jsonFields? members = some fields)
    (inFields : field ∈ fields) :
    ∃ member ∈ members, member.2.json? = some field.2 := by
  induction members generalizing fields with
  | nil =>
      cases reads
      cases inFields
  | cons member rest inductionHypothesis =>
      obtain ⟨name, item⟩ := member
      unfold jsonFields? at reads
      split at reads
      · rename_i name value tail readsItem readsRest
        cases reads
        rcases List.mem_cons.mp inFields with rfl | later
        · exact ⟨_, List.mem_cons_self, readsItem⟩
        · obtain ⟨member, inRest, readsMember⟩ := inductionHypothesis readsRest later
          exact ⟨member, List.mem_cons_of_mem _ inRest, readsMember⟩
      · cases reads

/-- The value of a document is nested no deeper and has its fields in order. -/
theorem Within.formed
    {document : Document}
    {value : Json}
    (within : Within room document)
    (reads : document.json? = some value) :
    Formed room value := by
  induction within generalizing value with
  | null =>
      cases reads
      exact .scalar trivial
  | bool truth =>
      cases reads
      exact .scalar trivial
  | number number =>
      obtain ⟨number, _, rfl⟩ := Option.map_eq_some_iff.mp reads
      exact .scalar trivial
  | string content =>
      obtain ⟨content, _, rfl⟩ := Option.map_eq_some_iff.mp reads
      exact .scalar trivial
  | array _ inductionHypothesis =>
      obtain ⟨values, readsItems, rfl⟩ := Option.map_eq_some_iff.mp reads
      refine .array fun value member => ?_
      obtain ⟨item, inItems, readsItem⟩ := exists_item_of_jsonItems? readsItems member
      exact inductionHypothesis item inItems readsItem
  | object _ inductionHypothesis =>
      obtain ⟨fields, readsFields, rfl⟩ := Option.map_eq_some_iff.mp reads
      refine .object (pairwise_sortFields fields) fun field member => ?_
      obtain ⟨member, inMembers, readsMember⟩ :=
        exists_member_of_jsonFields? readsFields (mem_sortFields member)
      exact inductionHypothesis member inMembers readsMember
  | buried =>
      cases reads
  | broken =>
      cases reads

theorem Within.mono
    {more : Nat}
    {document : Document}
    (within : Within room document)
    (wider : room ≤ more) :
    Within more document := by
  induction within generalizing more with
  | null =>
      exact .null
  | bool value =>
      exact .bool value
  | number value =>
      exact .number value
  | string content =>
      exact .string content
  | array _ inductionHypothesis =>
      obtain ⟨less, rfl⟩ : ∃ less, more = less + 1 := ⟨more - 1, by omega⟩
      exact .array fun item member => inductionHypothesis item member (by omega)
  | object _ inductionHypothesis =>
      obtain ⟨less, rfl⟩ : ∃ less, more = less + 1 := ⟨more - 1, by omega⟩
      exact .object fun member inMembers => inductionHypothesis member inMembers (by omega)
  | buried =>
      exact .buried
  | broken =>
      exact .broken

/-- The parts of a document are nested less deeply. -/
theorem Within.of_mem_parts
    {document part : Document}
    (within : Within (room + 1) document)
    (isPart : part ∈ document.parts) :
    Within room part := by
  cases within with
  | array each =>
      exact each part isPart
  | object each =>
      obtain ⟨member, inMembers, rfl⟩ := List.mem_map.mp isPart
      exact each member inMembers
  | _ =>
      cases isPart

mutual

/-- Every document is nested to some depth. -/
theorem exists_within :
    ∀ document : Document,
      ∃ room, Within room document
  | .null => ⟨0, .null⟩
  | .bool value => ⟨0, .bool value⟩
  | .number value => ⟨0, .number value⟩
  | .string content => ⟨0, .string content⟩
  | .array items => by
      obtain ⟨room, each⟩ := exists_within_items items
      exact ⟨room + 1, .array each⟩
  | .object members => by
      obtain ⟨room, each⟩ := exists_within_members members
      exact ⟨room + 1, .object each⟩
  | .buried => ⟨0, .buried⟩
  | .broken => ⟨0, .broken⟩

theorem exists_within_items :
    ∀ items : List Document,
      ∃ room, ∀ item ∈ items, Within room item
  | [] => ⟨0, by simp⟩
  | first :: rest => by
      obtain ⟨room, within⟩ := exists_within first
      obtain ⟨more, each⟩ := exists_within_items rest
      refine ⟨max room more, ?_⟩
      rw [List.forall_mem_cons]
      exact ⟨within.mono (by omega), fun item member => (each item member).mono (by omega)⟩

theorem exists_within_members :
    ∀ members : List (Option String × Document),
      ∃ room, ∀ member ∈ members, Within room member.2
  | [] => ⟨0, by simp⟩
  | (name, value) :: rest => by
      obtain ⟨room, within⟩ := exists_within value
      obtain ⟨more, each⟩ := exists_within_members rest
      refine ⟨max room more, ?_⟩
      rw [List.forall_mem_cons]
      exact ⟨within.mono (by omega), fun member later => (each member later).mono (by omega)⟩

end

/-- A container that leaves room is nested one deeper than what it holds. -/
theorem Within.contain
    {container : Document}
    {rest : Option (List Char)}
    (within : ∀ less, room = less + 1 → Within room container) :
    Within room (contain room container rest).1 := by
  unfold Document.contain
  cases room with
  | zero =>
      simp only [if_true]
      split
      · exact .buried
      · exact .broken
  | succ less =>
      exact within less rfl

/-- Whether what the readers give with some fuel is nested no deeper than their room. -/
structure ReadsWithin (fuel : Nat) : Prop where
  value : ∀ room text, Within room (readValue fuel room text).1
  items : ∀ room text, ∀ item ∈ (readItems fuel room text).1, Within room item
  members : ∀ room text, ∀ member ∈ (readMembers fuel room text).1, Within room member.2

theorem within_readValue
    {fuel : Nat}
    (within : ReadsWithin fuel)
    (text : List Char) :
    Within room (readValue (fuel + 1) room text).1 := by
  unfold readValue
  split
  · exact .null
  · exact .bool true
  · exact .bool false
  · split
    · exact .broken
    · exact .string _
  · split
    · refine .contain fun less isRoom => ?_
      subst isRoom
      exact .array (by simp)
    · refine .contain fun less isRoom => ?_
      subst isRoom
      exact .array (within.items less _)
  · split
    · refine .contain fun less isRoom => ?_
      subst isRoom
      exact .object (by simp)
    · refine .contain fun less isRoom => ?_
      subst isRoom
      exact .object (within.members less _)
  · split
    · exact .broken
    · exact .number _

theorem within_readItems
    {fuel : Nat}
    (within : ReadsWithin fuel)
    (text : List Char) :
    ∀ item ∈ (readItems (fuel + 1) room text).1, Within room item := by
  have first := within.value room text
  unfold readItems
  split
  · rename_i item reads
    rw [reads] at first
    simpa using first
  · rename_i item rest reads
    rw [reads] at first
    split
    · simpa using first
    · rename_i later _
      have rest := within.items room later
      simp only [List.forall_mem_cons]
      exact ⟨first, rest⟩
    · simp only [List.forall_mem_cons]
      exact ⟨first, .broken, by simp⟩

theorem within_readMembers
    {fuel : Nat}
    (within : ReadsWithin fuel)
    (text : List Char) :
    ∀ member ∈ (readMembers (fuel + 1) room text).1, Within room member.2 := by
  have broken :
      ∀ name : Option String, ∀ member ∈ [(name, broken)], Within room member.2 := by
    intro name
    simp only [List.forall_mem_cons]
    exact ⟨.broken, by simp⟩
  unfold readMembers
  split
  · split
    · exact broken none
    · split
      · rename_i text _
        have first := within.value room text
        split
        · rename_i value reads
          rw [reads] at first
          simpa using first
        · rename_i value rest reads
          rw [reads] at first
          split
          · simpa using first
          · rename_i later _
            have rest := within.members room later
            simp only [List.forall_mem_cons]
            exact ⟨first, rest⟩
          · simp only [List.forall_mem_cons]
            exact ⟨first, .broken, by simp⟩
      · exact broken _
  · exact broken none

/-- What is read with some room is nested no deeper than that, whatever the fuel. -/
theorem readsWithin
    (fuel : Nat) :
    ReadsWithin fuel := by
  induction fuel with
  | zero =>
      refine ⟨fun room text => .broken, fun room text => ?_, fun room text => ?_⟩
      · simp only [readItems, List.forall_mem_cons]
        exact ⟨.broken, by simp⟩
      · simp only [readMembers, List.forall_mem_cons]
        exact ⟨.broken, by simp⟩
  | succ fuel inductionHypothesis =>
      exact ⟨fun _ text => within_readValue inductionHypothesis text,
        fun _ text => within_readItems inductionHypothesis text,
        fun _ text => within_readMembers inductionHypothesis text⟩

/-- The document of a text is nested no deeper than the reader follows. -/
theorem within_ofText
    (text : String) :
    Within greatestDepth (ofText text).1 := by
  unfold ofText
  exact (readsWithin _).value _ _

end Document

end Fieldwork.Json
