import FrameLink.Host.Exchange
import FrameLink.Scenario.Queues
import FrameLink.Scenario.Tags
/-!
Scenarios for the exchange of one host. Between two steps every woken call has looked again.
-/

namespace FrameLink.Scenario.HostExchange

open Wait Host

inductive Step where
  | queueRequest (envelope : Envelope String)
  /-- waits for a request, and gives up -/
  | next
  | nextStart (tag : String)
  | cancel (tag : String)
  | purge (client : ClientId)
  | requests (step : Queues.Step)
  | responses (step : Queues.Step)
  | idle

inductive Answer where
  | nothing
  | request (found : Option (Envelope String))
  | started (replaced : Bool)
  | flag (yes : Bool)
  | purged (requests responses : Nat)
  | queue (answer : Queues.Answer)

structure Entry where
  answer : Answer
  done : List (String × Envelope String)
  requests : Nat
  responses : Nat

structure World where
  exchange : Exchange String String := {}
  calls : Tags := {}
  tickets : Ticket := 0

namespace World

def attend (world : World) : Option (Envelope String) × World :=
  match world.exchange.requests.attend world.tickets with
  | (found, requests) =>
    (found, { world with exchange := { world.exchange with requests }, tickets := world.tickets + 1 })

def leave (ticket : Ticket) (world : World) : World :=
  { world with exchange :=
      { world.exchange with requests := world.exchange.requests.leave ticket } }

def cancel (tag : String) (world : World) : Bool × World :=
  match world.calls.find? tag with
  | none => (false, world)
  | some ticket => (true, { world.leave ticket with calls := world.calls.erase tag })

def act (world : World) : Step → Answer × List (Ticket × Envelope String) × World
  | .queueRequest envelope =>
    (.nothing, [], { world with exchange := world.exchange.queueRequest envelope })
  | .next =>
    match world.attend with
    | (some envelope, world') => (.request (some envelope), [], world')
    | (none, world') => (.request none, [], world'.leave world.tickets)
  | .nextStart tag =>
    match world.cancel tag with
    | (replaced, world) =>
      match world.attend with
      | (found, world') =>
        (.started replaced, (found.map (world.tickets, ·)).toList,
          { world' with calls := world'.calls.put tag world.tickets })
  | .cancel tag =>
    match world.cancel tag with
    | (found, world) => (.flag found, [], world)
  | .purge client =>
    match world.exchange.purge client with
    | ((requests, responses), exchange) => (.purged requests responses, [], { world with exchange })
  | .requests step =>
    match world.exchange.withRequests (Queues.act · step) with
    | (answer, exchange) => (.queue answer, [], { world with exchange })
  | .responses step =>
    match world.exchange.withResponses (Queues.act · step) with
    | (answer, exchange) => (.queue answer, [], { world with exchange })
  | .idle => (.nothing, [], world)

def step (world : World) (step : Step) : Entry × World :=
  match world.act step with
  | (answer, finished, world) =>
    match world.exchange.requests.settle with
    | (woken, requests) =>
      let exchange := { world.exchange with requests }
      match world.calls.finish (finished ++ woken) with
      | (done, calls) =>
        (⟨answer, done, exchange.requests.queue.size, exchange.responses.size⟩,
          { world with exchange, calls })

end World

def runFrom : World → List Step → List Entry
  | _, [] => []
  | world, step :: rest =>
    match world.step step with
    | (entry, world) => entry :: runFrom world rest

def run (steps : List Step) : List Entry := runFrom {} steps

end FrameLink.Scenario.HostExchange
