import Mathlib.Logic.Function.Basic
import Fieldwork.Proofs.Service.Clients
import Fieldwork.Proofs.Session.Moments
import Fieldwork.Proofs.Store.Completion

namespace Fieldwork

/-!
# Runs of many clients

A world is a store with its clients.  Clients join at any time and act in any
order, each over a channel of its own at every call.
-/

/-- The clients by their names, and the store that they share. -/
structure World where
  clients : Nat → Option Client
  store : TaskStore

/-- What happens next in a world. -/
inductive Move where
  /-- A client opens a session; one of that name that was there leaves. -/
  | join (name : Nat) (task : Int64) (channel : Channel)
  | act (name : Nat) (action : ClientAction)

/-- The key that an action draws. -/
def Client.drawnKey?
    (client : Client)
    (action : ClientAction) :
    Option String :=
  (client.call? action).bind client.session.drawnKey?

namespace World

/-- The world with a fresh store of tasks, which no client has joined. -/
def start
    (tasks : List FieldTask)
    (performer : String) :
    World :=
  ⟨fun _ => none, TaskStore.ofTasks tasks performer⟩

/-- The world with one client in a new state. -/
def withClient
    (world : World)
    (name : Nat)
    (client : Client) :
    World :=
  { world with clients := Function.update world.clients name (some client) }

/-- The world that a move leaves behind. -/
def perform
    (world : World) :
    Move →
    World
  | .join name task channel =>
      match channel.gateway.openSession world.store task with
      | (.ok session, store) =>
          World.withClient ⟨world.clients, store⟩ name ⟨session, .done (.ok none)⟩
      | (.error _, store) => ⟨world.clients, store⟩
  | .act name action =>
      match world.clients name with
      | none => world
      | some client =>
          let (client, store) := client.act world.store action
          World.withClient ⟨world.clients, store⟩ name client

/-- The world after some moves. -/
def run
    (world : World)
    (moves : List Move) :
    World :=
  moves.foldl perform world

/-- The key that a move draws. -/
def drawnKey?
    (world : World) :
    Move →
    Option String
  | .join _ _ _ => none
  | .act name action => (world.clients name).bind fun client => client.drawnKey? action

/-- The keys that some moves draw, in the order of their drawing. -/
def drawnKeys
    (world : World)
    (moves : List Move) :
    List String :=
  drawnAlong perform drawnKey? world moves

theorem run_append
    (world : World)
    (earlier later : List Move) :
    world.run (earlier ++ later) = (world.run earlier).run later := by
  simp [run]

variable {world : World} {name other : Nat} {client : Client}

theorem clients_withClient_self :
    (world.withClient name client).clients name = some client := by
  simp [withClient]

theorem clients_withClient_of_ne
    (different : other ≠ name) :
    (world.withClient name client).clients other = world.clients other := by
  simp [withClient, different]

/-- A client that acts is the only one that changes. -/
theorem perform_act
    (present : world.clients name = some client)
    (action : ClientAction) :
    world.perform (.act name action) =
      World.withClient ⟨world.clients, (client.act world.store action).2⟩ name
        (client.act world.store action).1 := by
  simp [perform, present]

theorem perform_act_of_absent
    (absent : world.clients name = none)
    (action : ClientAction) :
    world.perform (.act name action) = world := by
  simp [perform, absent]

/-- A client that joins starts a session on a copy that the store holds. -/
theorem perform_join
    (world : World)
    (name : Nat)
    (task : Int64)
    (channel : Channel) :
    world.perform (.join name task channel) = world ∨
      ∃ refreshed,
        world.store.task? task = some refreshed ∧
          world.perform (.join name task channel) =
            world.withClient name ⟨WorkSession.start refreshed, .done (.ok none)⟩ := by
  cases loads : channel.gateway.load world.store task with
  | mk loaded answered =>
      obtain ⟨rfl, held⟩ := Channel.load_cases loads
      simp only [perform, Gateway.openSession_of_load loads]
      cases loaded with
      | error failure =>
          exact .inl rfl
      | ok refreshed =>
          exact .inr ⟨refreshed, held refreshed rfl, rfl⟩

/-- A client that joins starts a session, unless its task cannot be loaded. -/
theorem perform_join_cases
    (world : World)
    (name : Nat)
    (task : Int64)
    (channel : Channel) :
    world.perform (.join name task channel) = world ∨
      ∃ refreshed,
        world.perform (.join name task channel) =
          world.withClient name ⟨WorkSession.start refreshed, .done (.ok none)⟩ :=
  (perform_join world name task channel).imp_right fun ⟨refreshed, _, started⟩ =>
    ⟨refreshed, started⟩

end World

end Fieldwork
