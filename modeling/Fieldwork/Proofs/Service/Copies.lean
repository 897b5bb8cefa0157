import Mathlib.Data.List.Induction
import Fieldwork.Proofs.Service.Accounts
import Fieldwork.Proofs.Session.Scope

namespace Fieldwork

/-!
# The copies that clients work on

A client works on a copy of its task that it loaded at some time.  It does not
see what others do to the task afterwards, nor a completion of its own whose
answer gets lost.  Any other completion of its own makes it load the task again
before it prepares the next one.  So what a client prepares is prepared on a copy
that the store held once, and that has changed since then only by moves which the
client did not see.
-/

/-- What a client does not see: what others do, and what it does itself where the answer is lost. -/
def Move.UnseenBy
    (name : Nat) :
    Move →
    Prop
  | .join _ _ _ => False
  | .act actor action =>
      actor = name →
      ∃ channel detail,
        action = .proceed channel ∧ channel.passage = .replyLost detail

/-- Where a completion fails, the store has changed only if the answer was lost. -/
theorem Channel.store_of_failure
    {channel : Channel}
    {store answered : TaskStore}
    {request : CompletionRequest}
    {failure : Failure}
    (failed : channel.gateway.complete store request = (.error failure, answered)) :
    answered = store ∨ ∃ detail, channel.passage = .replyLost detail := by
  simp only [gateway, Gateway.over] at failed
  cases passage : channel.passage with
  | intact =>
      rw [passage] at failed
      rcases gateway_complete_cases failed with ⟨answer, _⟩ | ⟨_, same⟩
      · cases answer
      · exact .inl same
  | requestLost detail =>
      rw [passage] at failed
      cases failed
      exact .inl rfl
  | replyLost detail =>
      exact .inr ⟨detail, rfl⟩

namespace World

/-- Of the changes that some moves make to the store, a client sees none. -/
def HiddenFrom
    (name : Nat) :
    World →
    List Move →
    Prop
  | _, [] => True
  | world, move :: rest =>
      ((world.perform move).store = world.store ∨ move.UnseenBy name) ∧
        HiddenFrom name (world.perform move) rest

/-- A copy that the store held at some time, from where on a client saw no change. -/
def Copied
    (first : World)
    (name : Nat)
    (moves : List Move)
    (copy : FieldTask) :
    Prop :=
  ∃ loaded since,
    moves = loaded ++ since ∧
      (first.run loaded).store.task? copy.id = some copy ∧
      (first.run loaded).HiddenFrom name since

variable {first world : World} {name : Nat} {moves : List Move} {move : Move}
  {copy : FieldTask}

theorem HiddenFrom.concat
    (hidden : world.HiddenFrom name moves)
    (unseen :
      ((world.run moves).perform move).store = (world.run moves).store ∨
        move.UnseenBy name) :
    world.HiddenFrom name (moves ++ [move]) := by
  induction moves generalizing world with
  | nil =>
      exact ⟨unseen, trivial⟩
  | cons head rest inductionHypothesis =>
      exact ⟨hidden.1, inductionHypothesis hidden.2 unseen⟩

/-- What is true of a store and no longer so later was lost at a move that was not seen. -/
theorem HiddenFrom.exists_loss
    (property : TaskStore → Prop)
    (hidden : world.HiddenFrom name moves)
    (before : property world.store)
    (lost : ¬ property (world.run moves).store) :
    ∃ earlier move later,
      moves = earlier ++ move :: later ∧
        move.UnseenBy name ∧
        property (world.run earlier).store ∧
        ¬ property ((world.run earlier).perform move).store := by
  induction moves generalizing world with
  | nil =>
      exact (lost before).elim
  | cons head rest inductionHypothesis =>
      obtain ⟨unseen, hiddenLater⟩ := hidden
      by_cases after : property (world.perform head).store
      · obtain ⟨earlier, move, later, rfl, unseenMove, held, lostThen⟩ :=
          inductionHypothesis hiddenLater after lost
        exact ⟨head :: earlier, move, later, rfl, unseenMove, held, lostThen⟩
      · rcases unseen with same | unseen
        · rw [same] at after
          exact (after before).elim
        · exact ⟨[], head, rest, rfl, unseen, before, after⟩

/-- What the store holds is copied as it is. -/
theorem Copied.of_task?
    {id : Int64}
    (held : (first.run moves).store.task? id = some copy) :
    first.Copied name moves copy := by
  rw [← TaskStore.id_of_task? held] at held
  exact ⟨moves, [], by simp, held, trivial⟩

theorem Copied.concat
    (copied : first.Copied name moves copy)
    (unseen :
      ((first.run moves).perform move).store = (first.run moves).store ∨
        move.UnseenBy name) :
    first.Copied name (moves ++ [move]) copy := by
  obtain ⟨loaded, since, rfl, held, hidden⟩ := copied
  rw [run_append] at unseen
  exact ⟨loaded, since ++ [move], by simp, held, hidden.concat unseen⟩

end World

namespace Client

/--
The tasks of a client are copies, in the sense of a predicate: the one that it
prepares completions on, and the one that it has loaded.  After a completion was
answered well nothing is said of the former, as it is replaced before it is used.
-/
def OnCopies
    (copied : FieldTask → Prop)
    (client : Client) :
    Prop :=
  match client.phase with
  | .sending request =>
      client.session.confirmation = .pending request ∧ copied client.session.task
  | .refused _ => copied client.session.task
  | .done _ | .loading _ =>
      client.session.confirmation.isPending = false → copied client.session.task
  | .applying refreshed =>
      copied refreshed ∧
        (client.session.confirmation.isPending = false → copied client.session.task)

variable {copied copiedLater : FieldTask → Prop} {client : Client} {store : TaskStore}

theorem OnCopies.mono
    (onCopies : client.OnCopies copied)
    (stays : ∀ copy, copied copy → copiedLater copy) :
    client.OnCopies copiedLater := by
  unfold OnCopies at onCopies ⊢
  split at onCopies
  · exact onCopies.imp_right (stays _)
  · exact stays _ onCopies
  · exact fun settled => stays _ (onCopies settled)
  · exact fun settled => stays _ (onCopies settled)
  · exact ⟨stays _ onCopies.1, fun settled => stays _ (onCopies.2 settled)⟩

/-- At rest, a client that awaits nothing has a copy. -/
theorem onCopies_of_isDone
    (resting : client.phase.isDone = true) :
    client.OnCopies copied ↔
      (client.session.confirmation.isPending = false → copied client.session.task) := by
  obtain ⟨session, phase⟩ := client
  cases phase <;> cases resting
  rfl

/-- To apply a loaded copy is to work on it from then on. -/
theorem onCopies_apply
    {session : WorkSession}
    {refreshed : FieldTask}
    (loaded : copied refreshed)
    (before : session.confirmation.isPending = false → copied session.task) :
    (apply session refreshed).OnCopies copied := by
  unfold apply
  split
  · split
    · rename_i confirmed transition confirms
      obtain ⟨_, _, _, rfl, _⟩ := WorkSession.confirm_eq_ok_iff.mp confirms
      exact fun _ => loaded
    · exact before
  · split
    · rename_i replaced replaces
      obtain ⟨_, _, rfl⟩ := WorkSession.replaceTask_eq_ok_iff.mp replaces
      intro _
      split <;> exact loaded
    · exact before

/-- An edit of the inputs leaves the task and what is awaited alone. -/
theorem OnCopies.afterEdit
    (onCopies : client.OnCopies copied)
    (resting : client.phase.isDone = true)
    {call : SessionCall}
    (isEdit : call = .clear ∨ ∃ entry, call = .enter entry) :
    (Client.mk (client.session.perform call) client.phase).OnCopies copied := by
  have restingStill :
      (Client.mk (client.session.perform call) client.phase).phase.isDone = true :=
    resting
  rw [onCopies_of_isDone resting] at onCopies
  rw [onCopies_of_isDone restingStill]
  cases attempted : client.session.attempt call with
  | error failure =>
      rwa [WorkSession.perform_of_error attempted]
  | ok changed =>
      rw [WorkSession.perform_of_ok attempted]
      cases WorkSession.effect_of_attempt attempted with
      | enter =>
          exact onCopies
      | clear =>
          exact onCopies
      | prepare | confirm | reject | keepFocus | moveFocus =>
          simp at isEdit

/-- Every phase keeps a client on copies, as long as these outlast a store that is unchanged. -/
theorem OnCopies.proceed
    {channel : Channel}
    (onCopies : client.OnCopies copied)
    (held : ∀ id copy, store.task? id = some copy → copied copy)
    (stays :
      ((client.proceed channel.gateway store).2 = store ∨
          ∃ detail, channel.passage = .replyLost detail) →
        ∀ copy, copied copy → copiedLater copy) :
    (client.proceed channel.gateway store).1.OnCopies copiedLater := by
  obtain ⟨session, phase⟩ := client
  cases phase with
  | done result =>
      exact onCopies.mono (stays (.inl rfl))
  | sending request =>
      obtain ⟨awaited, copiedTask⟩ := onCopies
      simp only [Client.proceed] at stays ⊢
      split
      · -- Nothing is prepared on the present task before another one is loaded.
        intro settled
        rw [awaited] at settled
        cases settled
      · rename_i failure answered failed
        rw [failed] at stays
        exact stays (Channel.store_of_failure failed) _ copiedTask
  | refused failure =>
      simp only [Client.proceed] at stays ⊢
      split
      · rename_i rejected rejects
        rw [rejects] at stays
        obtain ⟨_, _, rfl⟩ := WorkSession.reject_eq_ok_iff.mp rejects
        exact fun _ => stays (.inl rfl) _ onCopies
      · rename_i other refused
        rw [refused] at stays
        exact fun _ => stays (.inl rfl) _ onCopies
  | loading task =>
      simp only [Client.proceed] at stays ⊢
      split
      · rename_i refreshed answered loads
        rw [loads] at stays
        obtain ⟨same, isHeld⟩ := Channel.load_cases loads
        have outlasts := stays (.inl same)
        exact ⟨outlasts _ (held task refreshed (isHeld refreshed rfl)),
          fun settled => outlasts _ (onCopies settled)⟩
      · rename_i failure answered lost
        rw [lost] at stays
        exact fun settled => stays (.inl (Channel.load_cases lost).1) _ (onCopies settled)
  | applying refreshed =>
      exact (onCopies_apply onCopies.1 onCopies.2).mono (stays (.inl rfl))

theorem OnCopies.act
    {action : ClientAction}
    (onCopies : client.OnCopies copied)
    (held : ∀ id copy, store.task? id = some copy → copied copy)
    (stays :
      ((client.act store action).2 = store ∨
          ∃ channel detail,
            action = .proceed channel ∧ channel.passage = .replyLost detail) →
        ∀ copy, copied copy → copiedLater copy) :
    (client.act store action).1.OnCopies copiedLater := by
  cases action with
  | proceed channel =>
      refine onCopies.proceed held fun outlasting => stays ?_
      exact outlasting.imp_right fun ⟨detail, lost⟩ => ⟨channel, detail, rfl, lost⟩
  | enter entry =>
      simp only [Client.act] at stays ⊢
      split
      · rename_i resting
        rw [if_pos resting] at stays
        exact (onCopies.afterEdit resting (.inr ⟨entry, rfl⟩)).mono (stays (.inl rfl))
      · rename_i busy
        rw [if_neg busy] at stays
        exact onCopies.mono (stays (.inl rfl))
  | clear =>
      simp only [Client.act] at stays ⊢
      split
      · rename_i resting
        rw [if_pos resting] at stays
        exact (onCopies.afterEdit resting (.inl rfl)).mono (stays (.inl rfl))
      · rename_i busy
        rw [if_neg busy] at stays
        exact onCopies.mono (stays (.inl rfl))
  | submit key =>
      simp only [Client.act] at stays ⊢
      split
      · rename_i resting
        rw [if_pos resting] at stays
        rw [onCopies_of_isDone resting] at onCopies
        have outlasts := stays (.inl rfl)
        unfold Client.submit
        split
        · rename_i pending request prepared
          obtain ⟨outcome, resolved, _, rfl⟩ := WorkSession.prepare_eq_ok_iff.mp prepared
          have settled := (WorkSession.resolution_eq_ok_iff.mp resolved).1
          exact ⟨rfl, outlasts _ (onCopies settled)⟩
        · exact fun settled => outlasts _ (onCopies settled)
      · rename_i busy
        rw [if_neg busy] at stays
        exact onCopies.mono (stays (.inl rfl))
  | refresh =>
      simp only [Client.act] at stays ⊢
      split
      · rename_i resting
        rw [if_pos resting] at stays
        rw [onCopies_of_isDone resting] at onCopies
        exact fun settled => stays (.inl rfl) _ (onCopies settled)
      · rename_i busy
        rw [if_neg busy] at stays
        exact onCopies.mono (stays (.inl rfl))

/-- Every action keeps the session of a client in step. -/
theorem inStep_act
    {opened : Int64}
    (inStep : WorkSession.InStep opened client.session)
    (store : TaskStore)
    (action : ClientAction) :
    WorkSession.InStep opened (client.act store action).1.session := by
  rw [session_act]
  cases client.call? action with
  | none =>
      exact inStep
  | some call =>
      exact inStep.perform call

end Client

namespace World

/-- The sessions of all clients are in step and work on copies of their tasks. -/
def WorksOnCopies
    (first : World)
    (moves : List Move) :
    Prop :=
  ∀ name client,
    (first.run moves).clients name = some client →
    (∃ opened, WorkSession.InStep opened client.session) ∧
      client.OnCopies (first.Copied name moves)

variable {first : World} {moves : List Move}

/-- A client that a move does not concern, and that does not see it, stays on its copies. -/
theorem WorksOnCopies.bystander
    {name : Nat}
    {client : Client}
    {move : Move}
    (works : first.WorksOnCopies moves)
    (present : (first.run moves).clients name = some client)
    (unseen :
      ((first.run moves).perform move).store = (first.run moves).store ∨
        move.UnseenBy name) :
    (∃ opened, WorkSession.InStep opened client.session) ∧
      client.OnCopies (first.Copied name (moves ++ [move])) :=
  (works name client present).imp_right fun onCopies =>
    onCopies.mono fun _ copied => copied.concat unseen

/-- A client that joins starts on a copy that is in the store. -/
theorem WorksOnCopies.join
    (works : first.WorksOnCopies moves)
    (joining : Nat)
    (task : Int64)
    (channel : Channel) :
    first.WorksOnCopies (moves ++ [.join joining task channel]) := by
  intro name client present
  rw [run_append, run, List.foldl_cons, List.foldl_nil] at present
  rcases perform_join (first.run moves) joining task channel with
    same | ⟨refreshed, isHeld, started⟩
  · rw [same] at present
    exact works.bystander present (.inl (by rw [same]))
  · have sameStore :
        ((first.run moves).perform (.join joining task channel)).store =
          (first.run moves).store := by
      rw [started]
      rfl
    rw [started] at present
    by_cases joins : name = joining
    · rw [joins, clients_withClient_self] at present
      cases present
      exact ⟨⟨refreshed.id, .start refreshed⟩,
        fun _ => (Copied.of_task? isHeld).concat (.inl sameStore)⟩
    · rw [clients_withClient_of_ne joins] at present
      exact works.bystander present (.inl sameStore)

/-- A client that acts stays on copies, and the others do not see what it does. -/
theorem WorksOnCopies.act
    (works : first.WorksOnCopies moves)
    (actor : Nat)
    (action : ClientAction) :
    first.WorksOnCopies (moves ++ [.act actor action]) := by
  intro name client present
  rw [run_append, run, List.foldl_cons, List.foldl_nil] at present
  cases presentActor : (first.run moves).clients actor with
  | none =>
      have same := perform_act_of_absent presentActor action
      rw [same] at present
      exact works.bystander present (.inl (by rw [same]))
  | some active =>
      have performed := perform_act presentActor action
      rw [performed] at present
      by_cases acts : name = actor
      · subst acts
        rw [clients_withClient_self] at present
        cases present
        obtain ⟨⟨opened, inStep⟩, onCopies⟩ := works name active presentActor
        refine ⟨⟨opened, Client.inStep_act inStep _ action⟩,
          onCopies.act (fun _ _ isHeld => Copied.of_task? isHeld) ?_⟩
        intro outlasting copy copied
        refine copied.concat (outlasting.imp ?_ fun lost _ => lost)
        intro same
        rw [performed]
        exact same
      · rw [clients_withClient_of_ne acts] at present
        exact works.bystander present (.inr fun same => (acts same.symm).elim)

/-- In every run that no client has joined before, all clients work on copies. -/
theorem worksOnCopies_of_run
    (nobody : ∀ name, first.clients name = none)
    (moves : List Move) :
    first.WorksOnCopies moves := by
  induction moves using List.reverseRecOn with
  | nil =>
      intro name client present
      rw [run, List.foldl_nil, nobody name] at present
      cases present
  | append_singleton earlier move inductionHypothesis =>
      cases move with
      | join joining task channel =>
          exact inductionHypothesis.join joining task channel
      | act actor action =>
          exact inductionHypothesis.act actor action

/--
What a client is about to send it has prepared on the step in focus of a copy
that the store held once, and it saw no change since.
-/
theorem WorksOnCopies.sent_on_copy
    {name : Nat}
    {client : Client}
    {request : CompletionRequest}
    (works : first.WorksOnCopies moves)
    (present : (first.run moves).clients name = some client)
    (sending : client.phase = .sending request) :
    ∃ loaded since current,
      moves = loaded ++ since ∧
        (first.run loaded).store.task? request.task = some client.session.task ∧
        client.session.task.activeStep? = some current ∧
        current.id = request.step ∧
        (first.run loaded).HiddenFrom name since := by
  obtain ⟨⟨opened, inStep⟩, onCopies⟩ := works name client present
  unfold Client.OnCopies at onCopies
  rw [sending] at onCopies
  obtain ⟨awaited, loaded, since, shape, copied, hidden⟩ := onCopies
  obtain ⟨sameTask, inFocus⟩ := inStep.requestForFocus request (by rw [awaited]; rfl)
  obtain ⟨current, focus, sameStep⟩ := Option.map_eq_some_iff.mp inFocus.symm
  rw [inStep.sameTask, ← sameTask] at copied
  exact ⟨loaded, since, current, shape, copied, focus, sameStep, hidden⟩

end World

end Fieldwork
