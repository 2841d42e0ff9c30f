import FrameLink.Host.Server.Calls
import FrameLink.Host.Socket
/-!
A host in service: its sockets, and the application that works off its queues. What the application
does and what happens at the sockets fall in between each other in any order. A function of the server
that waits for several locks or replies can be used in one go and in its parts. What is queued for a
client that has left is dropped in two steps, first the requests and then the responses.
-/

namespace FrameLink.Host

open Wait

inductive Pick where
  | oldest
  | oldestOf (client : ClientId)
  /-- the oldest one, which stays -/
  | glance
deriving DecidableEq

def Pick.take {γ : Type} : Pick → Queues γ → Option (Envelope γ) × Queues γ
  | .oldest => Queues.pop
  | .oldestOf client => Queues.popFrom client
  | .glance => Queues.peek

inductive Use (α β : Type) where
  | queuesRequest (envelope : Envelope α)
  | picksRequest (pick : Pick)
  | queuesResponse (envelope : Envelope β)
  | picksResponse (pick : Pick)
  /-- asks for the channel of a client -/
  | locates (client : ClientId)
  | writes (channel : Nat) (message : Bytes)
  | sendsResponse (target : Option ClientId)
  | forwardsRequest (target : ClientId)
  /-- begins to wait for a request -/
  | begins (purpose : Purpose α β) (timeout : Duration)
  /-- a waiting call goes on -/
  | attends (ticket : Ticket)
  /-- the time for a waiting call is up -/
  | lapses (ticket : Ticket)
  | cancels (ticket : Ticket)

variable {α β : Type}

/-- What is left of a server after a use; a call that does not wait cannot go on. -/
def Server.use [Wire α] [Wire β] (use : Use α β) (server : Server α β) : Server α β :=
  match use with
  | .queuesRequest envelope => { server with exchange := server.exchange.queueRequest envelope }
  | .picksRequest pick => { server with exchange := (server.exchange.withRequests pick.take).2 }
  | .queuesResponse envelope => { server with exchange := server.exchange.queueResponse envelope }
  | .picksResponse pick => { server with exchange := (server.exchange.withResponses pick.take).2 }
  | .locates client => (server.ask (.channelOf client)).2
  | .writes channel message =>
    { server with board.channels := (server.board.channels.write channel message).2 }
  | .sendsResponse target => (server.sendResponse target).2
  | .forwardsRequest target => (server.forwardRequest target).2
  | .begins purpose timeout => (server.begin purpose timeout).2
  | .attends ticket =>
    match server.call? ticket with
    | some call => (server.attend call).2
    | none => server
  | .lapses ticket =>
    match server.call? ticket with
    | some call => ({ server with now := max server.now call.deadline }.lapse call).2
    | none => server
  | .cancels ticket => (server.cancel ticket).2

structure Service (α β : Type) where
  hosting : Hosting α β := {}
  /-- the places of the sockets whose clients have left and have no requests any more, but perhaps
  still responses, with how many requests there were -/
  halfway : List (Nat × Nat) := []

namespace Service

def ofSettings (settings : ServeSettings) : Service α β := { hosting := { settings } }

inductive Move (α β : Type) where
  /-- the server is told to listen, and the address is bound or not -/
  | listens (bound : Except String Inet.Endpoint)
  /-- a client dials -/
  | accepts (remote : Inet.Endpoint)
  | socket (place : Nat) (happening : Happening)
  | uses (use : Use α β)
  /-- a shutdown begins: every socket is told to end -/
  | stops
  /-- and closes the channels of all clients -/
  | closes (endpoint : Inet.Endpoint)

def withServer (server : Server α β) (service : Service α β) : Service α β :=
  { service with hosting := { service.hosting with server } }

def dropRequests (place : Nat) (client : ClientId) (service : Service α β) : Service α β :=
  match service.hosting.server.exchange.requests.queue.purge client with
  | (requests, queue) =>
    { hosting := { service.hosting with server.exchange.requests :=
        service.hosting.server.exchange.requests.quietly fun _ => queue }
      halfway := (place, requests) :: service.halfway }

/-- Drops what is queued for the client of a socket, whose task is then at its end. -/
def dropResponses (place : Nat) (requests : Nat) (socket : Socket) (service : Service α β) :
    Service α β :=
  match service.hosting.server.exchange.responses.purge socket.id with
  | (responses, queue) =>
    let cleared := { service.hosting with server.exchange.responses := queue }
    let told := if 0 < requests + responses then
        cleared.say .info
          s!"🗑️ Purged {requests} requests and {responses} responses for client {socket.id.text}"
      else cleared
    { hosting := told.put place { socket with stage := .ended }
      halfway := service.halfway.filter fun entry => entry.1 != place }

/-- One of the two steps in which the queues are cleared of a client that has left. -/
def purge? (place : Nat) (service : Service α β) : Option (Service α β) := do
  let socket ← service.hosting.sockets[place]?
  if socket.stage = .leaving then
    match service.halfway.lookup place with
    | none => return service.dropRequests place socket.id
    | some requests => return service.dropResponses place requests socket
  else none

def step? [Wire α] [Wire β] (move : Move α β) (service : Service α β) : Option (Service α β) :=
  match move with
  | .listens bound => some (service.withServer
      (service.hosting.server.listen (fun _ => bound) service.hosting.settings).2)
  | .accepts remote => do return { service with hosting := ← service.hosting.accept? remote }
  | .socket place happening =>
    if happening = .clears ∧ service.hosting.settings.purgeOnDisconnect = true then
      service.purge? place
    else do return { service with hosting := ← service.hosting.step? place happening }
  | .uses use => some (service.withServer (service.hosting.server.use use))
  | .stops =>
    if service.hosting.server.isListening then
      some (service.withServer service.hosting.server.stopListening)
    else none
  | .closes endpoint =>
    if service.hosting.server.listener = .stopped then
      some (service.withServer (service.hosting.server.closeClients endpoint).2)
    else none

def run [Wire α] [Wire β] (moves : List (Move α β)) (service : Service α β) : Service α β :=
  moves.foldl (fun service move => (service.step? move).getD service) service

end Service

end FrameLink.Host
