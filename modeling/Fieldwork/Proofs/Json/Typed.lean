import Fieldwork.Json.Typed
import Fieldwork.Proofs.Except

namespace Fieldwork.Json

/-!
# What a typed reader has read

What holds of a draft at first and stays true with every field that is taken
holds of the record that is read.  A field is taken from a part of the record's
document, and an item of a list is read from a part of the list's.
-/

namespace Document

/-- The documents that an array or an object directly consists of. -/
def parts :
    Document →
    List Document
  | .array items => items
  | .object members => members.map Prod.snd
  | _ => []

variable {ε α δ : Type}

section Records

variable {names seen : List String} {take : δ → String → Document → Reading ε δ}
  {motive : δ → Prop} {draft result : δ}

theorem readMembersOf_induction
    {members : List (Option String × Document)}
    (start : motive draft)
    (kept :
      ∀ draft name value taken,
        value ∈ members.map Prod.snd → motive draft → take draft name value = .ok taken →
          motive taken)
    (reads : readMembersOf names take seen draft members = .ok result) :
    motive result := by
  induction members generalizing seen draft with
  | nil =>
      cases reads
      exact start
  | cons member rest inductionHypothesis =>
      obtain ⟨name, value⟩ := member
      have keptLater :
          ∀ draft name value taken,
            value ∈ rest.map Prod.snd → motive draft → take draft name value = .ok taken →
              motive taken :=
        fun draft name value taken later =>
          kept draft name value taken (List.mem_cons_of_mem _ later)
      cases name with
      | none =>
          cases reads
      | some name =>
          unfold readMembersOf at reads
          split at reads
          · split at reads
            · cases reads
            · split at reads
              · rename_i taken takes
                exact inductionHypothesis (kept draft name value taken (by simp) start takes)
                  keptLater reads
              · cases reads
          · split at reads
            · exact inductionHypothesis start keptLater reads
            · cases reads

theorem readSlotsOf_induction
    {items : List Document}
    (start : motive draft)
    (kept :
      ∀ draft name value taken,
        value ∈ items → motive draft → take draft name value = .ok taken → motive taken)
    (reads : readSlotsOf take draft names items = .ok result) :
    motive result := by
  induction items generalizing names draft with
  | nil =>
      unfold readSlotsOf at reads
      cases reads
      exact start
  | cons item rest inductionHypothesis =>
      cases names with
      | nil =>
          cases reads
      | cons name names =>
          unfold readSlotsOf at reads
          split at reads
          · rename_i taken takes
            exact inductionHypothesis (kept draft name item taken (by simp) start takes)
              (fun draft name value taken later =>
                kept draft name value taken (List.mem_cons_of_mem _ later))
              reads
          · cases reads

/-- What each field keeps true of the draft is true of the record that is read. -/
theorem readRecord_induction
    {document : Document}
    (start : motive draft)
    (kept :
      ∀ draft name value taken,
        value ∈ document.parts → motive draft → take draft name value = .ok taken → motive taken)
    (reads : document.readRecord names take draft = .ok result) :
    motive result := by
  cases document with
  | object members =>
      exact readMembersOf_induction start kept reads
  | array items =>
      exact readSlotsOf_induction start kept reads
  | _ =>
      cases reads

end Records

/-- An item that is read stands in a part of the list's document. -/
theorem exists_part_of_readList
    {read : Document → Reading ε α}
    {document : Document}
    {items : List α}
    {item : α}
    (reads : document.readList read = .ok items)
    (member : item ∈ items) :
    ∃ part ∈ document.parts, read part = .ok item := by
  cases document with
  | array documents =>
      simp only [readList] at reads
      simp only [parts]
      induction documents generalizing items with
      | nil =>
          cases reads
          cases member
      | cons first rest inductionHypothesis =>
          rw [List.mapM_cons] at reads
          obtain ⟨head, readsHead, reads⟩ := Except.bind_eq_ok_iff.mp reads
          obtain ⟨tail, readsTail, reads⟩ := Except.bind_eq_ok_iff.mp reads
          cases reads
          rcases List.mem_cons.mp member with rfl | later
          · exact ⟨first, by simp, readsHead⟩
          · obtain ⟨part, inRest, readsPart⟩ := inductionHypothesis later readsTail
            exact ⟨part, by simp [inRest], readsPart⟩
  | _ =>
      cases reads

theorem demand_eq_ok_iff
    {found : Option α}
    {value : α} :
    (demand found : Reading ε α) = .ok value ↔ found = some value := by
  cases found <;> simp [demand]

/-- An optional value that is present is read from its document. -/
theorem read_of_readOptional
    {read : Document → Reading ε α}
    {document : Document}
    {value : α}
    (reads : document.readOptional read = .ok (some value)) :
    read document = .ok value := by
  unfold readOptional at reads
  split at reads
  · cases reads
  · obtain ⟨inner, readsInner, same⟩ := Except.map_eq_ok_iff.mp reads
    cases same
    exact readsInner

end Document

end Fieldwork.Json
