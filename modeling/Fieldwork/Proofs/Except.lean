import Fieldwork.FailureKind

/-!
# Results that may be refusals

When the combinations of results that the library uses succeed or fail.
-/

namespace Except

variable {ε ε' α β : Type}

theorem map_eq_ok_iff
    {result : Except ε α}
    {change : α → β}
    {value : β} :
    result.map change = .ok value ↔
      ∃ inner, result = .ok inner ∧ change inner = value := by
  cases result <;> simp [Except.map]

theorem map_eq_error_iff
    {result : Except ε α}
    {change : α → β}
    {failure : ε} :
    result.map change = .error failure ↔ result = .error failure := by
  cases result <;> simp [Except.map]

theorem bind_eq_ok_iff
    {result : Except ε α}
    {next : α → Except ε β}
    {value : β} :
    result.bind next = .ok value ↔
      ∃ inner, result = .ok inner ∧ next inner = .ok value := by
  cases result <;> simp [Except.bind]

theorem bind_eq_error_iff
    {result : Except ε α}
    {next : α → Except ε β}
    {failure : ε} :
    result.bind next = .error failure ↔
      result = .error failure ∨
        ∃ inner, result = .ok inner ∧ next inner = .error failure := by
  cases result <;> simp [Except.bind]

/-- What comes of a result after what follows it comes of what follows. -/
theorem map_bind
    {γ : Type}
    (result : Except ε α)
    (next : α → Except ε β)
    (after : β → γ) :
    (result.bind next).map after = result.bind fun value => (next value).map after := by
  cases result <;> rfl

theorem bind_map
    {γ : Type}
    (result : Except ε α)
    (change : α → β)
    (next : β → Except ε γ) :
    (result.map change).bind next = result.bind fun value => next (change value) := by
  cases result <;> rfl

/-- What follows a result matters for the value of the result alone. -/
theorem bind_congr_ok
    {result : Except ε α}
    {next next' : α → Except ε β}
    (same : ∀ value, result = .ok value → next value = next' value) :
    result.bind next = result.bind next' := by
  cases result with
  | error failure =>
      rfl
  | ok value =>
      exact same value rfl

theorem toOption_eq_some_iff
    {result : Except ε α}
    {value : α} :
    result.toOption = some value ↔ result = .ok value := by
  cases result <;> simp [Except.toOption]

/-- Checks one after the other pass where each of them does. -/
theorem forM_eq_ok_iff
    {check : α → Except ε Unit}
    {items : List α} :
    items.forM check = .ok () ↔ ∀ item ∈ items, check item = .ok () := by
  induction items with
  | nil =>
      simp [List.forM, pure, Except.pure]
  | cons item rest inductionHypothesis =>
      rw [List.forM, List.forall_mem_cons, ← inductionHypothesis]
      cases check item <;> simp [bind, Except.bind]

/-- Two results that look alike are the same failure, or values that look alike. -/
theorem cases_of_map_eq_map
    {γ : Type}
    {result : Except ε α}
    {result' : Except ε β}
    {view : α → γ}
    {view' : β → γ}
    (alike : result.map view = result'.map view') :
    (∃ failure, result = .error failure ∧ result' = .error failure) ∨
      ∃ value value', result = .ok value ∧ result' = .ok value' ∧ view value = view' value' := by
  cases result with
  | error failure =>
      exact .inl ⟨failure, rfl, map_eq_error_iff.mp alike.symm⟩
  | ok value =>
      obtain ⟨value', isOk, same⟩ := map_eq_ok_iff.mp alike.symm
      exact .inr ⟨value, value', rfl, isOk, same.symm⟩

/-- Results that look alike go on alike where what follows does. -/
theorem map_bind_congr
    {α' β' γ δ : Type}
    {result : Except ε α}
    {result' : Except ε α'}
    {next : α → Except ε β}
    {next' : α' → Except ε β'}
    {view : α → γ}
    {view' : α' → γ}
    {after : β → δ}
    {after' : β' → δ}
    (alike : result.map view = result'.map view')
    (goesOn :
      ∀ value value', view value = view' value' →
        (next value).map after = (next' value').map after') :
    (result.bind next).map after = (result'.bind next').map after' := by
  rcases cases_of_map_eq_map alike with ⟨failure, rfl, rfl⟩ | ⟨value, value', rfl, rfl, same⟩
  · rfl
  · exact goesOn value value' same

@[simp] theorem mapError_ok
    (change : ε → ε')
    (value : α) :
    (Except.ok value).mapError change = .ok value :=
  rfl

@[simp] theorem mapError_error
    (change : ε → ε')
    (failure : ε) :
    (Except.error failure : Except ε α).mapError change = .error (change failure) :=
  rfl

theorem mapError_eq_ok_iff
    {result : Except ε α}
    {change : ε → ε'}
    {value : α} :
    result.mapError change = .ok value ↔ result = .ok value := by
  cases result <;> simp

theorem mapError_eq_error_iff
    {result : Except ε α}
    {change : ε → ε'}
    {failure : ε'} :
    result.mapError change = .error failure ↔
      ∃ cause, result = .error cause ∧ change cause = failure := by
  cases result <;> simp

/-- Results that look alike do so whatever their failures are taken for. -/
theorem map_mapError_congr
    {γ : Type}
    {result : Except ε α}
    {result' : Except ε β}
    {view : α → γ}
    {view' : β → γ}
    (alike : result.map view = result'.map view')
    (change : ε → ε') :
    (result.mapError change).map view = (result'.mapError change).map view' := by
  rcases cases_of_map_eq_map alike with ⟨failure, rfl, rfl⟩ | ⟨value, value', rfl, rfl, same⟩
  · rfl
  · exact congrArg Except.ok same

end Except
