import Fieldwork.Proofs.Store.AuthoredJumps

namespace Fieldwork

/-!
# What is offered can be chosen

A step offers values, and reads an entry without the blanks around it.  A value
that has no such blanks is read as itself, and comes to what it means.  But an
identifier with a blank around it is accepted and offered as well, and it is read
as another one.
-/

namespace Step

/-- What a value that a step offers means: what it records, and what comes next. -/
inductive Means
    (step : Step) :
    String →
    Choice →
    Prop
  | answered
      (kind : step.outcomeKind = .callOutcome) :
      Means step callAnswered (some callAnswered, .advance)
  | notAnswered
      (kind : step.outcomeKind = .callOutcome) :
      Means step callNotAnswered (some callRepeated, .again)
  | authored {outcome : AuthoredOutcome} {action : ControlAction}
      (kind : step.outcomeKind = .authored)
      (authored : outcome ∈ step.plan.outcomes)
      (leads : outcome.action.LeadsTo action) :
      Means step outcome.id (some outcome.id, action)
  | generic {value : String}
      (kind : step.outcomeKind = .generic)
      (isGeneric : value = genericSuccess ∨ value = genericFailure) :
      Means step value (some value, .advance)

variable {step : Step} {listed listed' : OfferedOutcome} {value value' : String}
  {chosen chosen' : Choice}

/-- The values that a step offers, by how it asks. -/
theorem offered_cases
    (offered : listed ∈ step.offered) :
    (step.outcomeKind = .callOutcome ∧
        (listed.value = callAnswered ∨ listed.value = callNotAnswered)) ∨
      (step.outcomeKind = .authored ∧
        ∃ outcome ∈ step.plan.outcomes, listed.value = outcome.id) ∨
      (step.outcomeKind = .generic ∧
        (listed.value = genericSuccess ∨ listed.value = genericFailure)) := by
  unfold Step.offered at offered
  cases kind : step.outcomeKind with
  | immediate =>
      rw [kind] at offered
      cases offered
  | callOutcome =>
      rw [kind] at offered
      simp only [List.mem_cons, List.not_mem_nil, or_false] at offered
      rcases offered with rfl | rfl <;> simp
  | authored =>
      rw [kind] at offered
      obtain ⟨outcome, authored, rfl⟩ := List.mem_map.mp offered
      exact .inr (.inl ⟨rfl, outcome, authored, rfl⟩)
  | generic =>
      rw [kind] at offered
      simp only [List.mem_cons, List.not_mem_nil, or_false] at offered
      rcases offered with rfl | rfl <;> simp

/-- No value is offered twice. -/
theorem eq_of_value_eq
    (offered : listed ∈ step.offered)
    (offered' : listed' ∈ step.offered)
    (same : listed.value = listed'.value) :
    listed = listed' := by
  have distinct : (step.offered.map OfferedOutcome.value).Nodup := by
    unfold Step.offered
    cases step.outcomeKind with
    | immediate => simp
    | callOutcome => simp [callAnswered, callNotAnswered]
    | authored =>
        rw [List.map_map]
        exact step.plan.distinctOutcomes
    | generic => simp [genericSuccess, genericFailure]
  exact List.inj_on_of_nodup_map distinct offered offered' same

/-- Two values that record the same are one. -/
theorem Means.value_eq
    (means : step.Means value chosen)
    (means' : step.Means value' chosen')
    (recorded : chosen.1 = chosen'.1) :
    value = value' := by
  cases means with
  | answered kind =>
      cases means' with
      | answered => rfl
      | notAnswered => exact absurd recorded (by decide)
      | authored kind' | generic kind' =>
          rw [kind] at kind'
          cases kind'
  | notAnswered kind =>
      cases means' with
      | answered => exact absurd recorded (by decide)
      | notAnswered => rfl
      | authored kind' | generic kind' =>
          rw [kind] at kind'
          cases kind'
  | authored kind =>
      cases means' with
      | authored => exact Option.some.inj recorded
      | answered kind' | notAnswered kind' | generic kind' =>
          rw [kind] at kind'
          cases kind'
  | generic kind =>
      cases means' with
      | generic => exact Option.some.inj recorded
      | answered kind' | notAnswered kind' | authored kind' =>
          rw [kind] at kind'
          cases kind'

/-- An authored value means its own identifier and its own action. -/
theorem Means.exists_outcome
    (means : step.Means value chosen)
    (kind : step.outcomeKind = .authored) :
    ∃ outcome ∈ step.plan.outcomes, outcome.id = value ∧ chosen.1 = some outcome.id ∧
      outcome.action.LeadsTo chosen.2 := by
  cases means with
  | authored _ authored leads => exact ⟨_, authored, rfl, rfl, leads⟩
  | answered otherKind | notAnswered otherKind | generic otherKind =>
      rw [kind] at otherKind
      cases otherKind

/-- A value without blanks around it is accepted for what it means. -/
theorem Means.accepts
    (means : step.Means value chosen)
    (bare : Text.trim value = value) :
    step.Accepts (some value) chosen := by
  cases means with
  | answered kind =>
      exact .answered (outcomeKind_eq_callOutcome_iff.mp kind) rfl (by decide)
  | notAnswered kind =>
      exact .notAnswered (outcomeKind_eq_callOutcome_iff.mp kind) rfl (by decide)
  | authored kind authored leads =>
      exact .authored (outcomeKind_eq_authored_iff.mp kind).1 rfl (Text.trim_eq_iff.mp bare)
        (.byId authored rfl) leads
  | generic kind isGeneric =>
      obtain ⟨noCall, _, plain⟩ := outcomeKind_eq_generic_iff.mp kind
      refine .generic noCall plain rfl isGeneric ?_
      rcases isGeneric with rfl | rfl <;> decide

/-- A step that offers a value asks for its outcome. -/
theorem asks_of_offered
    (offered : listed ∈ step.offered) :
    step.IsCall ∨ step.plan.isConditional = true := by
  rcases offered_cases offered with ⟨kind, _⟩ | ⟨kind, _⟩ | ⟨kind, _⟩
  · exact .inl (outcomeKind_eq_callOutcome_iff.mp kind)
  · exact .inr (outcomeKind_eq_authored_iff.mp kind).2.1
  · exact .inr (outcomeKind_eq_generic_iff.mp kind).2.1

/-- What is accepted of an offered value without blanks around it is what it means. -/
theorem means_of_accepts
    (offered : listed ∈ step.offered)
    (bare : Text.trim listed.value = listed.value)
    (accepts : step.Accepts (some listed.value) chosen) :
    step.Means listed.value chosen := by
  have ofMeaning {chosen' : Choice} (means : step.Means listed.value chosen') :
      step.Means listed.value chosen :=
    accepts.unique (asks_of_offered offered) (means.accepts bare) ▸ means
  rcases offered_cases offered with
    ⟨kind, same | same⟩ | ⟨kind, outcome, authored, same⟩ | ⟨kind, isGeneric⟩
  · have means : step.Means listed.value (some callAnswered, .advance) := same ▸ .answered kind
    exact ofMeaning means
  · have means : step.Means listed.value (some callRepeated, .again) := same ▸ .notAnswered kind
    exact ofMeaning means
  · obtain ⟨noCall, _, some⟩ := outcomeKind_eq_authored_iff.mp kind
    cases accepts with
    | authored _ given encloses picks leads =>
        obtain rfl := Option.some.inj given
        rw [← Text.trim_eq_iff.mpr encloses, bare, same] at picks
        rw [same, picks.unique (.byId authored rfl)]
        exact .authored kind authored (picks.unique (.byId authored rfl) ▸ leads)
    | answered call | notAnswered call => exact (noCall call).elim
    | generic _ none | leftOpen _ none => exact (some none).elim
  · exact ofMeaning (.generic kind isGeneric)

end Step

namespace FieldTask

variable {task : FieldTask} {step : Step} {listed : OfferedOutcome} {inputs : StepInputs}
  {record : Option (String × Json)}

/-- An outcome that does not jump nowhere has an action, and its jump a target. -/
theorem exists_leadsTo_of_not_jumpsNowhere
    {outcome : AuthoredOutcome}
    (somewhere : task.jumpsNowhere outcome ≠ true) :
    ∃ action, outcome.action.LeadsTo action ∧
      ∀ order, action = .jump order → ∃ target ∈ task.steps, target.order = order := by
  rw [Ne, jumpsNowhere_iff] at somewhere
  push Not at somewhere
  obtain ⟨targeted, exists_target⟩ := somewhere
  cases action : outcome.action with
  | next => exact ⟨.advance, .next, by simp⟩
  | again => exact ⟨.again, .again, by simp⟩
  | jump target =>
      cases target with
      | none => exact (targeted action).elim
      | some order =>
          refine ⟨.jump order, .jump, ?_⟩
          rintro _ ⟨⟩
          exact exists_target order action

/-- An offered value means something, unless it is an outcome that the task lists as lost. -/
theorem exists_means_of_offered
    (member : step ∈ task.steps)
    (offered : listed ∈ step.offered)
    (reachable :
      step.outcomeKind = .authored →
        ∀ outcome ∈ step.plan.outcomes, outcome.id = listed.value →
          ¬ task.Lists step outcome) :
    ∃ chosen, step.Means listed.value chosen ∧
      ∀ order, chosen.2 = .jump order → ∃ target ∈ task.steps, target.order = order := by
  rcases Step.offered_cases offered with
    ⟨kind, same | same⟩ | ⟨kind, outcome, authored, same⟩ | ⟨kind, isGeneric⟩
  · rw [same]
    exact ⟨_, .answered kind, by simp⟩
  · rw [same]
    exact ⟨_, .notAnswered kind, by simp⟩
  · have notListed := reachable kind outcome authored same.symm
    rw [lists_iff member authored] at notListed
    obtain ⟨action, leads, targeted⟩ := exists_leadsTo_of_not_jumpsNowhere notListed
    rw [same]
    exact ⟨_, .authored kind authored leads, targeted⟩
  · exact ⟨_, .generic kind isGeneric, by simp⟩

/--
What a step offers can be chosen.  Take a value that the step lists and that has no
blanks around it, where it is no outcome that the task lists as lost, and inputs
that select it and fill in what the step records.  They resolve the step.  An
authored value records its own identifier, and its own action comes next.  And any
other listed value without blanks around it records another one.
-/
theorem offered_choice_means_itself
    (member : step ∈ task.steps)
    (offered : listed ∈ step.offered)
    (bare : Text.trim listed.value = listed.value)
    (reachable :
      step.outcomeKind = .authored →
        ∀ outcome ∈ step.plan.outcomes, outcome.id = listed.value →
          ¬ task.Lists step outcome)
    (ownInputs : ∀ owner ∈ inputs.step, owner = step.id)
    (selected : inputs.selected = some listed.value)
    (fills : inputs.Fills step.plan.recordKind record) :
    ∃ resolved, task.resolve step inputs = .ok resolved ∧
      (step.outcomeKind = .authored →
        ∃ outcome ∈ step.plan.outcomes, outcome.id = listed.value ∧
          resolved.fieldValues.get? selectedName = some (.string outcome.id) ∧
          outcome.action.LeadsTo resolved.action) ∧
      ∀ other ∈ step.offered, other ≠ listed → Text.trim other.value = other.value →
        ∀ inputs' resolved',
          (∀ owner ∈ inputs'.step, owner = step.id) →
          inputs'.selected = some other.value →
          task.resolve step inputs' = .ok resolved' →
          resolved'.fieldValues.get? selectedName ≠
            resolved.fieldValues.get? selectedName := by
  have asks := Step.asks_of_offered offered
  have known : ∃ same ∈ task.steps, same.id = step.id := ⟨step, member, rfl⟩
  obtain ⟨chosen, means, leads⟩ := exists_means_of_offered member offered reachable
  have admits : task.Admits step inputs chosen record :=
    ⟨selected ▸ means.accepts bare, leads, fills⟩
  have recorded := Step.get?_recordedValues chosen.1 admits.fills.elsewhere
  refine ⟨_, (resolve_eq_ok_iff known ownInputs asks).mpr ⟨chosen, record, admits, rfl⟩, ?_, ?_⟩
  · intro kind
    obtain ⟨outcome, authored, sameId, isChosen, leadsTo⟩ := means.exists_outcome kind
    exact ⟨outcome, authored, sameId, recorded.trans (by rw [isChosen]; rfl), leadsTo⟩
  · intro other offered' different bare' inputs' resolved' ownInputs' selected' resolves' same
    obtain ⟨chosen', record', admits', rfl⟩ :=
      (resolve_eq_ok_iff known ownInputs' asks).mp resolves'
    have means' := Step.means_of_accepts offered' bare' (selected' ▸ admits'.accepts)
    have recorded' := Step.get?_recordedValues chosen'.1 admits'.fills.elsewhere
    have sameRecorded : chosen'.1 = chosen.1 :=
      Option.map_injective (fun _ _ => Json.string.inj)
        (recorded'.symm.trans (same.trans recorded))
    exact different (Step.eq_of_value_eq offered' offered (means'.value_eq means sameRecorded))

/-- The way on is chosen by its identifier, as it is offered beside the lost one. -/
theorem offered_choice_means_itself_way_on :
    let inputs : StepInputs :=
      { step := some 11, selected := some "on", text := some " no traffic " }
    crossroads ∈ crossing.steps ∧
      ⟨"on", "Go on"⟩ ∈ crossroads.offered ∧
      Text.trim "on" = "on" ∧
      ¬ crossing.Lists crossroads wayOn ∧
      inputs.Fills crossroads.plan.recordKind (some ("text_value", .string "no traffic")) ∧
      ∃ resolved, crossing.resolve crossroads inputs = .ok resolved ∧
        resolved.fieldValues.get? "selected_option" = some (.string "on") ∧
        resolved.action = .jump 2 := by
  intro inputs
  have member : crossroads ∈ crossing.steps := List.mem_cons_self
  have offered : ⟨"on", "Go on"⟩ ∈ crossroads.offered := by decide
  have bare : Text.trim "on" = "on" := by decide
  have notListed : ¬ crossing.Lists crossroads wayOn := by
    rw [lists_iff member (by simp [crossroads])]
    decide
  have onlyWayOn : ∀ outcome ∈ crossroads.plan.outcomes, outcome.id = "on" → outcome = wayOn := by
    decide
  have reachable :
      crossroads.outcomeKind = .authored →
        ∀ outcome ∈ crossroads.plan.outcomes, outcome.id = "on" →
          ¬ crossing.Lists crossroads outcome :=
    fun _ outcome authored sameId => onlyWayOn outcome authored sameId ▸ notListed
  have ownInputs : ∀ owner ∈ inputs.step, owner = crossroads.id := by
    intro owner isOwner
    exact (Option.some.inj isOwner).symm
  have fills :
      inputs.Fills crossroads.plan.recordKind (some ("text_value", .string "no traffic")) :=
    .text rfl (by decide) (by decide)
  obtain ⟨resolved, resolves, meansItself, _⟩ :=
    offered_choice_means_itself member offered bare reachable ownInputs rfl fills
  obtain ⟨outcome, authored, sameId, recorded, leads⟩ := meansItself (by decide)
  obtain rfl := onlyWayOn outcome authored sameId
  refine ⟨member, offered, bare, notListed, fills, resolved, resolves, recorded, ?_⟩
  generalize resolved.action = action at leads
  cases leads
  rfl

/-- An outcome and one that is told from it by a blank in front. -/
def fine : AuthoredOutcome :=
  ⟨"ok", "All well", .next, by decide⟩

def blurred : AuthoredOutcome :=
  ⟨" ok", "Look again", .again, by decide⟩

def looking : Step :=
  ⟨⟨11, none, "Inspect", 1, true, false, .none, [fine, blurred], Eq.refl false, by decide⟩, {}⟩

def looksTask : FieldTask where
  id := 7
  templateId := none
  steps := [looking]
  percentage := .zero
  wellOrdered := by simp [WellOrdered, looking]

/--
An identifier with a blank in front is offered, and no jump is lost.  But choosing
it is taken for the other outcome: this one is recorded, as if it had been chosen,
and the work goes on instead of being done again.
-/
theorem offered_choice_taken_for_another :
    looking ∈ looksTask.steps ∧
      looking.offered = [⟨"ok", "All well"⟩, ⟨" ok", "Look again"⟩] ∧
      looksTask.invalidJumps = [] ∧
      (∀ inputs : StepInputs, inputs.Fills looking.plan.recordKind none) ∧
      ∃ resolved resolved',
        looksTask.resolve looking { step := some 11, selected := some " ok" } = .ok resolved ∧
          looksTask.resolve looking { step := some 11, selected := some "ok" } = .ok resolved' ∧
          resolved.fieldValues.get? "selected_option" = some (.string "ok") ∧
          resolved'.fieldValues.get? "selected_option" = some (.string "ok") ∧
          resolved.action = .advance := by
  refine ⟨List.mem_cons_self, by decide, by decide, fun _ => .none, _, _, rfl, rfl, ?_⟩
  exact ⟨rfl, rfl, rfl⟩

end FieldTask

end Fieldwork
