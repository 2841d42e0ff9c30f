import FrameLink.Host.Switchboard
/-!
Scenarios for the switchboard of a host. Inboxes read the channels of clients and are known by
number.
-/

namespace FrameLink.Scenario.Switchboard

open Host

inductive Step where
  /-- a new inbox under the number given takes the place of an older one -/
  | register (client : ClientId) (inbox : Nat) (remote : Inet.Endpoint)
  | unregister (client : ClientId)
  | clients
  | count
  | closeAll
  | write (client : ClientId) (message : Bytes)
  | dropInbox (inbox : Nat)
  /-- the registry's task ends -/
  | kill
  | idle

inductive Answer where
  | nothing
  | registered
  | flag (yes : Bool)
  | clients (clients : List Endpoint)
  | count (n : Nat)
  | taken (taken : Option Bool)
  | fault (error : Error)

structure Arrival where
  inbox : Nat
  messages : List Bytes
  closed : Bool

structure Entry where
  answer : Answer
  arrivals : List Arrival
  log : List Log.Event

structure World where
  board : Host.Switchboard := {}
  /-- the channel that each inbox reads -/
  inboxes : List (Nat × Nat) := []
deriving Inhabited

namespace World

def dropInbox (inbox : Nat) (world : World) : Bool × World :=
  match world.inboxes.find? fun entry => entry.1 == inbox with
  | none => (false, world)
  | some (_, channel) =>
    (true, { world with
      board.channels := world.board.channels.drop channel
      inboxes := world.inboxes.filter fun entry => entry.1 != inbox })

def addInbox (inbox : Nat) (world : World) : Nat × World :=
  match world.board.channels.add with
  | (channel, channels) =>
    (channel, { world with
      board := { world.board with channels }, inboxes := world.inboxes ++ [(inbox, channel)] })

def ask {ρ : Type} (command : Command ρ) (answer : ρ → Answer) (world : World) : Answer × World :=
  match world.board.ask command with
  | (.error fault, board) => (.fault fault, { world with board })
  | (.ok reply, board) => (answer reply, { world with board })

def act (world : World) : Step → Answer × World
  | .register id inbox remote =>
    match (world.dropInbox inbox).2.addInbox inbox with
    | (channel, world) => world.ask (.register ⟨id, remote, channel, 0⟩) fun _ => .registered
  | .unregister client => world.ask (.unregister client) .flag
  | .clients => world.ask .clients .clients
  | .count => world.ask .clients fun clients => .count clients.length
  | .closeAll => world.ask .closeAll .count
  | .write client message =>
    match world.board.write client message with
    | (.error fault, board) => (.fault fault, { world with board })
    | (.ok taken, board) => (.taken taken, { world with board })
  | .dropInbox inbox =>
    match world.dropInbox inbox with
    | (found, world) => (.flag found, world)
  | .kill => (.nothing, { world with board.registry := none })
  | .idle => (.nothing, world)

def readAll : List (Nat × Nat) → World → List Arrival × World
  | [], world => ([], world)
  | (inbox, channel) :: rest, world =>
    match world.board.channels.read channel with
    | (messages, channels) =>
      let closed := !world.board.isHeld channel
      let world := { world with board := { world.board with channels } }
      let after := if closed then (world.dropInbox inbox).2 else world
      match readAll rest after with
      | (arrivals, world) =>
        (if messages.isEmpty && !closed then arrivals else ⟨inbox, messages, closed⟩ :: arrivals,
          world)

/-- Reads every inbox, by number. A closed one that is read goes. -/
def arrivals (world : World) : List Arrival × World :=
  readAll (world.inboxes.mergeSort fun a b => a.1 ≤ b.1) world

def step (world : World) (step : Step) : Entry × World :=
  match world.act step with
  | (answer, world) =>
    match world.arrivals with
    | (arrivals, world) =>
      (⟨answer, arrivals, world.board.log⟩, { world with board.log := [] })

end World

def runFrom : World → List Step → List Entry
  | _, [] => []
  | world, step :: rest =>
    match world.step step with
    | (entry, world) => entry :: runFrom world rest

def run (steps : List Step) : List Entry := runFrom {} steps

end FrameLink.Scenario.Switchboard
