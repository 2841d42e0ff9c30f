import FrameLink.Host.Server.Calls
import FrameLink.Host.Socket
/-!
A host whose application answers every request with its own payload: it waits for a request for a
second, answers it, and waits again. That no request came and that a client has left are no reasons to
stop; every other failure is. Wherever the application waits for a lock or a reply the tasks of the
sockets may go on, so each of its turns goes only as far as the next such place.
-/

namespace FrameLink.Host

open Wait

def echo {α : Type} : Handler α α := fun _ request => .ok request

inductive Turn (α : Type) where
  /-- about to wait for a request -/
  | ready
  | waiting (ticket : Ticket)
  /-- with a request at hand -/
  | answering (request : Envelope α)
  /-- with the response to this client queued -/
  | responding (client : ClientId)
  /-- with a response at hand -/
  | sending (response : Envelope α)
  /-- with the response written out, and the channel of its client -/
  | writing (response : Envelope α) (channel : Nat) (bytes : Bytes)
  | stopped (fault : Error)
deriving DecidableEq

structure Echo (α : Type) where
  hosting : Hosting α α := {}
  turn : Turn α := .ready

namespace Echo

variable {α : Type}

def span : Duration := .ofSecs 1

def conclude (outcome : Except Error ClientId) (host : Echo α) : Echo α :=
  match outcome with
  | .ok client =>
    { turn := .ready
      hosting := host.hosting.say .debug s!"Echoed a request for client {client.text}" }
  | .error (.requestTimeout _) => { host with turn := .ready }
  | .error (.clientNotFound client) =>
    { turn := .ready
      hosting := host.hosting.say .debug s!"Client {client.text} left before its response" }
  | .error fault => { host with turn := .stopped fault }

def take (outcome : Server.Outcome α) (host : Echo α) : Echo α :=
  match outcome with
  | .taken (.ok request) => { host with turn := .answering request }
  | .taken (.error fault) => host.conclude (.error fault)
  | .answered outcome => host.conclude outcome

def withServer (server : Server α α) (host : Echo α) : Echo α :=
  { host with hosting := { host.hosting with server } }

def respond (request : Envelope α) (host : Echo α) : Echo α :=
  match echo request.client request.message with
  | .error fault => host.conclude (.error fault)
  | .ok response =>
    let exchange := host.hosting.server.exchange.queueResponse
      ⟨request.client, request.correlation, response⟩
    { host.withServer { host.hosting.server with exchange } with
      turn := .responding request.client }

def fetch (client : ClientId) (host : Echo α) : Echo α :=
  match host.hosting.server.exchange.withResponses (Queues.popFrom client) with
  | (none, exchange) =>
    (host.withServer { host.hosting.server with exchange }).conclude (.ok client)
  | (some response, exchange) =>
    { host.withServer { host.hosting.server with exchange } with turn := .sending response }

def address [Wire α] (response : Envelope α) (host : Echo α) : Echo α :=
  match (Frame.mk response.correlation response.message).encode host.hosting.server.frameLimit with
  | .error fault => host.conclude (.error (.frame fault))
  | .ok bytes =>
    match host.hosting.server.ask (.channelOf response.client) with
    | (.error fault, server) => (host.withServer server).conclude (.error fault)
    | (.ok none, server) =>
      (host.withServer server).conclude (.error (.clientNotFound response.client))
    | (.ok (some channel), server) =>
      { host.withServer server with turn := .writing response channel bytes }

def write (response : Envelope α) (channel : Nat) (bytes : Bytes) (host : Echo α) : Echo α :=
  match host.hosting.server.board.channels.write channel bytes with
  | (taken, channels) =>
    let written := { host.hosting.server with board.channels := channels }
    if taken then
      let told := written.say .debug
        s!"📤 Response {response.correlation.text} sent to client {response.client.text}"
      (host.withServer told).conclude (.ok response.client)
    else (host.withServer written).conclude (.error (.clientNotFound response.client))

inductive Move where
  /-- a client dials -/
  | accepts (remote : Inet.Endpoint)
  | socket (place : Nat) (happening : Happening)
  /-- the application goes on with its turn -/
  | goesOn
  /-- the time for the call that waits is up -/
  | lapses

def goOn? [Wire α] (host : Echo α) : Option (Echo α) :=
  match host.turn with
  | .ready =>
    let ticket := host.hosting.server.tickets
    match host.hosting.server.begin .take span with
    | (some outcome, server) => some ((host.withServer server).take outcome)
    | (none, server) => some { host.withServer server with turn := .waiting ticket }
  | .waiting ticket => do
    let call ← host.hosting.server.call? ticket
    match host.hosting.server.attend call with
    | (some outcome, server) => (host.withServer server).take outcome
    | (none, server) => some (host.withServer server)
  | .answering request => some (host.respond request)
  | .responding client => some (host.fetch client)
  | .sending response => some (host.address response)
  | .writing response channel bytes => some (host.write response channel bytes)
  | .stopped _ => none

def lapse? [Wire α] (host : Echo α) : Option (Echo α) :=
  match host.turn with
  | .waiting ticket => do
    let call ← host.hosting.server.call? ticket
    match { host.hosting.server with now := call.deadline }.lapse call with
    | (outcome, server) => (host.withServer server).take outcome
  | _ => none

def step? [Wire α] (move : Move) (host : Echo α) : Option (Echo α) :=
  match move with
  | .accepts remote => do return { host with hosting := ← host.hosting.accept? remote }
  | .socket place happening => do
    return { host with hosting := ← host.hosting.step? place happening }
  | .goesOn => host.goOn?
  | .lapses => host.lapse?

/-- The moves that can be made, one after the other; the others are passed over. -/
def run [Wire α] (moves : List Move) (host : Echo α) : Echo α :=
  moves.foldl (fun host move => (host.step? move).getD host) host

end Echo

end FrameLink.Host
