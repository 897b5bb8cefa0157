import Fieldwork.Proofs.Service.Accounts

namespace Fieldwork

/-!
# Completions are recorded once

Requests and answers may get lost, and a request that failed is made again.
That its completion is still recorded once rests on three parts: the session
makes the failed request again under its key, the store ignores a key that it
knows, and a completion that was answered well stays awaited until the task is
loaded.  One invariant ties them together: a key stands for one request,
wherever this is held, and a client that awaits a task has its request in the
log.
-/

namespace World

/-- A request that is in the log or held by a client. -/
def Knows
    (world : World)
    (request : CompletionRequest) :
    Prop :=
  request ∈ world.store.completions ∨
    ∃ name client, world.clients name = some client ∧ client.Holds request

/--
Every key stands for one request, was drawn, and is in the log once at most;
and what the clients await is accounted for.
-/
structure Consistent
    (drawn : List String)
    (world : World) :
    Prop where
  keysNodup : world.store.keys.Nodup
  keysDrawn : ∀ request, world.Knows request → request.key ∈ drawn
  oneRequest :
    ∀ left right, world.Knows left → world.Knows right → left.key = right.key →
      left = right
  accounted :
    ∀ name client, world.clients name = some client → client.Accounted world.store

namespace Consistent

variable {drawn : List String} {world : World} {name : Nat} {client : Client}
  {request : CompletionRequest}

theorem start
    (tasks : List FieldTask)
    (performer : String) :
    Consistent [] (World.start tasks performer) := by
  have nothingKnown :
      ∀ request, ¬ (World.start tasks performer).Knows request := by
    rintro request (logged | ⟨name, client, present, _⟩)
    · cases logged
    · cases present
  exact {
    keysNodup := List.nodup_nil
    keysDrawn := fun request known => (nothingKnown request known).elim
    oneRequest := fun left _ known => (nothingKnown left known).elim
    accounted := by
      intro name client present
      cases present }

/-- The key of a request that a client holds stands for it in the log. -/
theorem logged_of_holds
    (consistent : Consistent drawn world)
    (present : world.clients name = some client)
    (held : client.Holds request)
    (known : request.key ∈ world.store.keys) :
    request ∈ world.store.completions := by
  obtain ⟨logged, inLog, sameKey⟩ := List.mem_map.mp known
  rw [← consistent.oneRequest logged request (.inl inLog)
    (.inr ⟨name, client, present, held⟩) sameKey]
  exact inLog

/-- A request that is about to be sent is the one that its client holds. -/
theorem holds_of_sending
    (consistent : Consistent drawn world)
    (present : world.clients name = some client)
    (sending : client.phase = .sending request) :
    client.Holds request := by
  have accounted := consistent.accounted name client present
  unfold Client.Accounted at accounted
  rw [sending] at accounted
  rw [Client.Holds, accounted]
  rfl

/-- What is known after an action was known before it, or is held under the key it draws. -/
theorem knows_of_act
    (consistent : Consistent drawn world)
    (present : world.clients name = some client)
    {action : ClientAction}
    (known : (world.perform (.act name action)).Knows request) :
    world.Knows request ∨
      (client.act world.store action).1.Holds request ∧
        client.drawnKey? action = some request.key := by
  rw [perform_act present] at known
  rcases known with logged | ⟨other, holder, found, held⟩
  · left
    change request ∈ (client.act world.store action).2.completions at logged
    rcases Client.completions_of_act world.store client action with
      same | ⟨sent, sending, _, grown⟩
    · rw [same] at logged
      exact .inl logged
    · rw [grown, List.mem_append, List.mem_singleton] at logged
      rcases logged with before | rfl
      · exact .inl before
      · exact .inr ⟨name, client, present, consistent.holds_of_sending present sending⟩
  · by_cases acting : other = name
    · subst acting
      rw [clients_withClient_self] at found
      cases found
      rcases Client.holds_of_act held with before | draws
      · exact .inl (.inr ⟨other, client, present, before⟩)
      · exact .inr ⟨held, draws⟩
    · rw [clients_withClient_of_ne acting] at found
      exact .inl (.inr ⟨other, holder, found, held⟩)

/-- Every action keeps a world consistent, as long as its key is new. -/
theorem act
    (consistent : Consistent drawn world)
    (present : world.clients name = some client)
    (action : ClientAction)
    (fresh : ∀ key, client.drawnKey? action = some key → key ∉ drawn) :
    Consistent (drawn ++ (client.drawnKey? action).toList)
      (world.perform (.act name action)) where
  keysNodup := by
    rw [perform_act present]
    change ((client.act world.store action).2.completions.map CompletionRequest.key).Nodup
    rcases Client.completions_of_act world.store client action with
      same | ⟨sent, _, unknown, grown⟩
    · rw [same]
      exact consistent.keysNodup
    · rw [grown, List.map_append, List.nodup_append]
      refine ⟨consistent.keysNodup, by simp, ?_⟩
      rintro known inLog key isNew rfl
      rw [List.map_singleton, List.mem_singleton] at isNew
      exact unknown (isNew ▸ inLog)
  keysDrawn := by
    intro request known
    rcases consistent.knows_of_act present known with before | ⟨_, draws⟩
    · exact List.mem_append_left _ (consistent.keysDrawn request before)
    · exact List.mem_append_right _ (by simp [draws])
  oneRequest := by
    -- A request that is new has a new key, and only the client that acts can hold one.
    intro left right knownLeft knownRight sameKey
    rcases consistent.knows_of_act present knownLeft with leftBefore | ⟨heldLeft, drawsLeft⟩
    · rcases consistent.knows_of_act present knownRight with
        rightBefore | ⟨heldRight, drawsRight⟩
      · exact consistent.oneRequest left right leftBefore rightBefore sameKey
      · exact (fresh right.key drawsRight
          (sameKey ▸ consistent.keysDrawn left leftBefore)).elim
    · rcases consistent.knows_of_act present knownRight with
        rightBefore | ⟨heldRight, drawsRight⟩
      · exact (fresh left.key drawsLeft
          (sameKey ▸ consistent.keysDrawn right rightBefore)).elim
      · exact Option.some.inj (heldLeft.symm.trans heldRight)
  accounted := by
    rw [perform_act present]
    intro other holder found
    by_cases acting : other = name
    · subst acting
      rw [clients_withClient_self] at found
      cases found
      exact (consistent.accounted other client present).act
        (fun request held known => consistent.logged_of_holds present held known) action
    · rw [clients_withClient_of_ne acting] at found
      exact (consistent.accounted other holder found).mono fun request logged =>
        Client.logged_of_act logged

/-- A client that starts a session brings no request with it. -/
theorem knows_of_withStarted
    {task : FieldTask}
    {result : Except Failure (Option StepTransition)}
    (known :
      (world.withClient name ⟨WorkSession.start task, .done result⟩).Knows request) :
    world.Knows request := by
  rcases known with logged | ⟨other, holder, found, held⟩
  · exact .inl logged
  · by_cases starting : other = name
    · rw [starting, clients_withClient_self] at found
      cases found
      cases held
    · rw [clients_withClient_of_ne starting] at found
      exact .inr ⟨other, holder, found, held⟩

theorem withStarted
    (consistent : Consistent drawn world)
    (name : Nat)
    (task : FieldTask)
    (result : Except Failure (Option StepTransition)) :
    Consistent drawn (world.withClient name ⟨WorkSession.start task, .done result⟩) where
  keysNodup := consistent.keysNodup
  keysDrawn := fun request known =>
    consistent.keysDrawn request (knows_of_withStarted known)
  oneRequest := fun left right knownLeft knownRight =>
    consistent.oneRequest left right (knows_of_withStarted knownLeft)
      (knows_of_withStarted knownRight)
  accounted := by
    intro other holder found
    by_cases starting : other = name
    · rw [starting, clients_withClient_self] at found
      cases found
      intro request awaited
      cases awaited
    · rw [clients_withClient_of_ne starting] at found
      exact consistent.accounted other holder found

theorem join
    (consistent : Consistent drawn world)
    (name : Nat)
    (task : Int64)
    (channel : Channel) :
    Consistent drawn (world.perform (.join name task channel)) := by
  rcases perform_join_cases world name task channel with same | ⟨refreshed, started⟩
  · rw [same]
    exact consistent
  · rw [started]
    exact consistent.withStarted name refreshed _

theorem perform
    (consistent : Consistent drawn world)
    (move : Move)
    (fresh : ∀ key, world.drawnKey? move = some key → key ∉ drawn) :
    Consistent (drawn ++ (world.drawnKey? move).toList) (world.perform move) := by
  cases move with
  | join name task channel =>
      simpa [drawnKey?] using consistent.join name task channel
  | act name action =>
      cases present : world.clients name with
      | none =>
          rw [perform_act_of_absent present]
          simpa [drawnKey?, present] using consistent
      | some client =>
          simp only [drawnKey?, present, Option.bind_some] at fresh ⊢
          exact consistent.act present action fresh

/-- Every run keeps a world consistent, as long as no key is drawn twice. -/
theorem run
    (consistent : Consistent drawn world)
    {moves : List Move}
    (fresh : (drawn ++ world.drawnKeys moves).Nodup) :
    Consistent (drawn ++ world.drawnKeys moves) (world.run moves) :=
  invariant_of_run (fun move consistent newKey => consistent.perform move newKey)
    consistent fresh

/-- In the middle of a run, a world is consistent and the keys drawn from there on are new. -/
theorem midway
    (consistent : Consistent drawn world)
    (earlier later : List Move)
    (fresh : (drawn ++ world.drawnKeys (earlier ++ later)).Nodup) :
    Consistent (drawn ++ world.drawnKeys earlier) (world.run earlier) ∧
      ((drawn ++ world.drawnKeys earlier) ++
        (world.run earlier).drawnKeys later).Nodup :=
  invariant_midway (fun move consistent newKey => consistent.perform move newKey)
    earlier later consistent fresh

end Consistent

end World

end Fieldwork
