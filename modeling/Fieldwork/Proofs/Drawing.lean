import Mathlib.Data.List.Nodup

namespace Fieldwork

/-!
# Runs that draw keys

Moves are applied to a state one after the other, and a move may draw a key.
Which key it draws, if any, depends on the state that it meets.  Where no key is
drawn twice, an invariant that speaks of the keys drawn so far is carried along
a run by its step alone.
-/

section

variable {σ μ κ : Type} (perform : σ → μ → σ) (draws : σ → μ → Option κ)

/-- The keys that moves draw, in the order of their drawing. -/
def drawnAlong :
    σ →
    List μ →
    List κ
  | _, [] => []
  | state, move :: rest =>
      (draws state move).toList ++ drawnAlong (perform state move) rest

theorem drawnAlong_append
    (state : σ)
    (earlier later : List μ) :
    drawnAlong perform draws state (earlier ++ later) =
      drawnAlong perform draws state earlier ++
        drawnAlong perform draws (earlier.foldl perform state) later := by
  induction earlier generalizing state with
  | nil =>
      rfl
  | cons move rest inductionHypothesis =>
      simp only [List.cons_append, drawnAlong, inductionHypothesis,
        List.append_assoc, List.foldl_cons]

/-- A key is new when it is drawn, where no key is drawn twice. -/
theorem not_mem_of_drawn
    {drawn later : List κ}
    {drawnNow : Option κ}
    (distinct : (drawn ++ (drawnNow.toList ++ later)).Nodup) :
    ∀ key, drawnNow = some key → key ∉ drawn := by
  rintro key rfl known
  exact (List.nodup_append.mp distinct).2.2 key known key (by simp) rfl

variable {perform draws} {Invariant : List κ → σ → Prop}
  {drawn : List κ} {state : σ}

/-- What every move with a new key keeps, every run keeps that draws no key twice. -/
theorem invariant_of_run
    (step :
      ∀ {drawn state} move, Invariant drawn state →
        (∀ key, draws state move = some key → key ∉ drawn) →
        Invariant (drawn ++ (draws state move).toList) (perform state move))
    {moves : List μ}
    (holds : Invariant drawn state)
    (fresh : (drawn ++ drawnAlong perform draws state moves).Nodup) :
    Invariant (drawn ++ drawnAlong perform draws state moves)
      (moves.foldl perform state) := by
  induction moves generalizing drawn state with
  | nil =>
      simpa [drawnAlong] using holds
  | cons move rest inductionHypothesis =>
      have newKey := not_mem_of_drawn fresh
      rw [drawnAlong, ← List.append_assoc] at fresh ⊢
      exact inductionHypothesis (step move holds newKey) fresh

/-- In the middle of such a run, the invariant holds and later keys are still new. -/
theorem invariant_midway
    (step :
      ∀ {drawn state} move, Invariant drawn state →
        (∀ key, draws state move = some key → key ∉ drawn) →
        Invariant (drawn ++ (draws state move).toList) (perform state move))
    (earlier later : List μ)
    (holds : Invariant drawn state)
    (fresh : (drawn ++ drawnAlong perform draws state (earlier ++ later)).Nodup) :
    Invariant (drawn ++ drawnAlong perform draws state earlier)
        (earlier.foldl perform state) ∧
      ((drawn ++ drawnAlong perform draws state earlier) ++
        drawnAlong perform draws (earlier.foldl perform state) later).Nodup := by
  rw [drawnAlong_append, ← List.append_assoc] at fresh
  exact ⟨invariant_of_run step holds (List.nodup_append.mp fresh).1, fresh⟩

end

end Fieldwork
