import FrameLink.Host.Echo
import FrameLink.Sandbox.Isolated
import FrameLink.Scenario.Switchboard
import FrameLink.Scenario.Tags
/-!
Scenarios for a host of texts, on a clock that moves only when all tasks wait.
-/

namespace FrameLink.Scenario.Server

open Wait Host
open Host.Server (Outcome Finished)

inductive Reaction where
  | echo
  | append (suffix : String)
  | fail (message : String)

def Reaction.handler : Reaction → Handler String String
  | .echo, client, request => Host.echo client request
  | .append suffix, _, request => .ok (request ++ suffix)
  | .fail message, _, _ => .error (.handler message)

inductive Step where
  | board (step : Switchboard.Step)
  | queueRequest (envelope : Envelope String)
  | queueResponse (envelope : Envelope String)
  | hasRequestFrom (client : ClientId)
  | peekRequest
  | peekResponse
  | popRequest
  | popRequestFrom (client : ClientId)
  | sendResponse (target : Option ClientId)
  | forwardRequest (target : ClientId)
  /-- waits for a request and does something with it -/
  | wait (purpose : Option Reaction) (timeout : Duration)
  | waitStart (tag : String) (purpose : Option Reaction) (timeout : Duration)
  | cancel (tag : String)
  | sleep (span : Duration)
  | listen (settings : ServeSettings)
  | localAddress
  | shutdown
  | idle

inductive Answer where
  | nothing
  | board (answer : Switchboard.Answer)
  | flag (yes : Bool)
  | envelope (found : Option (Envelope String))
  | written (outcome : Except Error (Option ClientId))
  | outcome (outcome : Outcome String)
  | started (replaced : Bool)
  | bound (outcome : Except Error Inet.Endpoint)
  | address (address : Option Inet.Address)
  | stopped (outcome : Except Error Unit)

structure Entry where
  answer : Answer
  done : List (String × Outcome String)
  requests : Nat
  responses : Nat
  clients : Nat
  listening : Bool
  arrivals : List Switchboard.Arrival
  now : Instant
  log : List Log.Event

abbrev Subject := Host.Server String String

structure World where
  server : Subject := {}
  inboxes : List (Nat × Nat) := []
  calls : Tags := {}

def purpose : Option Reaction → Purpose String String
  | none => .take
  | some reaction => .answer reaction.handler

namespace World

def cancel (tag : String) (world : World) : Bool × World :=
  match world.calls.find? tag with
  | none => (false, world)
  | some ticket =>
    (true, { world with server := (world.server.cancel ticket).2, calls := world.calls.erase tag })

def await (ticket : Ticket) (begun : Option (Outcome String) × Subject) :
    Answer × List (Finished String) × Subject :=
  match begun with
  | (some outcome, server) => (.outcome outcome, [], server)
  | (none, server) =>
    match server.finish ticket with
    | (finished, server) =>
      match finished.find? fun done => done.1 == ticket with
      | some (_, outcome) => (.outcome outcome, finished, server)
      | none => (.nothing, finished, server)

def withRequests (act : Queues String → Option (Envelope String) × Queues String) (world : World) :
    Answer × List (Finished String) × World :=
  match world.server.exchange.withRequests act with
  | (found, exchange) =>
    (.envelope found, [], { world with server := { world.server with exchange } })

def act (world : World) : Step → Answer × List (Finished String) × World
  | .board step =>
    match Switchboard.World.act ⟨world.server.board, world.inboxes⟩ step with
    | (answer, ⟨board, inboxes⟩) =>
      (.board answer, [], { world with server := { world.server with board }, inboxes })
  | .queueRequest envelope =>
    (.nothing, [], { world with server.exchange := world.server.exchange.queueRequest envelope })
  | .queueResponse envelope =>
    (.nothing, [], { world with server.exchange := world.server.exchange.queueResponse envelope })
  | .hasRequestFrom client =>
    (.flag (world.server.exchange.requests.queue.hasFrom client), [], world)
  | .peekRequest => world.withRequests Queues.peek
  | .peekResponse =>
    match world.server.exchange.withResponses Queues.peek with
    | (found, exchange) =>
      (.envelope found, [], { world with server := { world.server with exchange } })
  | .popRequest => world.withRequests Queues.pop
  | .popRequestFrom client => world.withRequests (Queues.popFrom client)
  | .sendResponse target =>
    match world.server.sendResponse target with
    | (outcome, server) => (.written outcome, [], { world with server })
  | .forwardRequest target =>
    match world.server.forwardRequest target with
    | (outcome, server) => (.written outcome, [], { world with server })
  | .wait reaction timeout =>
    match await world.server.tickets (world.server.begin (purpose reaction) timeout) with
    | (answer, finished, server) => (answer, finished, { world with server })
  | .waitStart tag reaction timeout =>
    match world.cancel tag with
    | (replaced, world) =>
      let ticket := world.server.tickets
      match world.server.begin (purpose reaction) timeout with
      | (outcome, server) =>
        (.started replaced, (outcome.map (ticket, ·)).toList,
          { world with server, calls := world.calls.put tag ticket })
  | .cancel tag =>
    match world.cancel tag with
    | (found, world) => (.flag found, [], world)
  | .sleep span =>
    match world.server.sleep span with
    | (finished, server) => (.nothing, finished, { world with server })
  | .listen settings =>
    match world.server.listen Sandbox.bind settings with
    | (outcome, server) => (.bound outcome, [], { world with server })
  | .localAddress => (.address (world.server.localEndpoint?.map (·.address)), [], world)
  | .shutdown =>
    match world.server.shutdown with
    | (outcome, server) => (.stopped outcome, [], { world with server })
  | .idle => (.nothing, [], world)

def step (world : World) (step : Step) : Entry × World :=
  match world.act step with
  | (answer, finished, world) =>
    match world.server.sleep .zero with
    | (woken, server) =>
      match world.calls.finish (finished ++ woken) with
      | (done, calls) =>
        match Switchboard.World.arrivals ⟨server.board, world.inboxes⟩ with
        | (arrivals, ⟨board, inboxes⟩) =>
          (⟨answer, done, server.exchange.requests.queue.size, server.exchange.responses.size,
            board.clients.length, server.isListening, arrivals, server.now, board.log⟩,
            { server := { server with board := { board with log := [] } }, inboxes, calls })

end World

def runFrom : World → List Step → List Entry
  | _, [] => []
  | world, step :: rest =>
    match world.step step with
    | (entry, world) => entry :: runFrom world rest

def run (steps : List Step) : List Entry := runFrom {} steps

end FrameLink.Scenario.Server
