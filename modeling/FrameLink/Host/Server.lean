import FrameLink.Host.Exchange
import FrameLink.Host.Switchboard
import FrameLink.Frame
import FrameLink.Settings.Serve
/-!
A host with many clients. Requests come in and responses go out through queues, which the
application works off at its own pace; a response goes to the client that is named in its envelope.
-/

namespace FrameLink.Host

open Wait

inductive Listener where
  | idle
  | listening (endpoint : Inet.Endpoint)
  /-- an address could not be bound, and the host never listens again -/
  | failed
  | stopped
deriving DecidableEq

abbrev Handler (α β : Type) := ClientId → α → Except Error β

inductive Purpose (α β : Type) where
  | take
  | answer (handler : Handler α β)

structure Call (α β : Type) where
  ticket : Ticket
  purpose : Purpose α β
  timeout : Duration
  deadline : Instant

structure Server (α β : Type) where
  exchange : Exchange α β := {}
  board : Switchboard := {}
  listener : Listener := .idle
  frameLimit : Nat := Frame.defaultLimit
  /-- in the order in which they began -/
  calls : List (Call α β) := []
  tickets : Ticket := 0
  now : Instant := 0

namespace Server

variable {α β γ : Type}

instance : Inhabited (Server α β) := ⟨{}⟩

def say (level : Log.Level) (message : String) (server : Server α β) : Server α β :=
  { server with board := { server.board with
    log := server.board.log ++ [⟨level, .host, message, none⟩] } }

def ask {ρ : Type} (command : Command ρ) (server : Server α β) : Except Error ρ × Server α β :=
  match server.board.ask command with
  | (reply, board) => (reply, { server with board })

def isListening (server : Server α β) : Bool :=
  match server.listener with
  | .listening _ => true
  | _ => false

def localEndpoint? (server : Server α β) : Option Inet.Endpoint :=
  match server.listener with
  | .listening endpoint => some endpoint
  | _ => none

/-- Listens at the address of the settings, where `bind` tells the endpoint that is bound. -/
def listen (bind : Inet.Endpoint → Except String Inet.Endpoint) (settings : ServeSettings)
    (server : Server α β) : Except Error Inet.Endpoint × Server α β :=
  match server.listener with
  | .listening endpoint =>
    (.error (.alreadyListening endpoint),
      server.say .error s!"Server already listening on {endpoint.text}")
  | .failed | .stopped => (.error .listenerUnavailable, server)
  | .idle =>
    let wanted : Inet.Endpoint := ⟨settings.bindAddress, settings.port⟩
    match bind wanted with
    | .error fault =>
      (.error (.listenFailed wanted.text fault), { server with listener := .failed }.say .error
        s!"❌ Failed to start server on {wanted.text}: {fault}")
    | .ok endpoint =>
      (.ok endpoint, { server with
        listener := .listening endpoint, frameLimit := settings.maxFrameBytes.toNat }.say .info
        s!"🚀 Server listening on ws://{endpoint.text}{settings.path}")

/-- Accepts no more clients, and tells every socket to end. -/
def stopListening (server : Server α β) : Server α β :=
  { server with listener := .stopped }.say .debug "Accept loop stopped"

def closeClients (endpoint : Inet.Endpoint) (server : Server α β) :
    Except Error Unit × Server α β :=
  match server.ask .closeAll with
  | (.error fault, server) => (.error fault, server)
  | (.ok closed, server) => (.ok (), server.say .info
      s!"🛑 Server on {endpoint.text} stopped ({closed} clients closed)")

/-- Stops listening and closes the channels of all clients. The queues stay as they are. -/
def shutdown (server : Server α β) : Except Error Unit × Server α β :=
  match server.listener with
  | .listening endpoint => server.stopListening.closeClients endpoint
  | _ => (.ok (), server)

def writeTo [Wire γ] (client : ClientId) (correlation : Correlation) (message : γ)
    (server : Server α β) : Except Error Unit × Server α β :=
  match (Frame.mk correlation message).encode server.frameLimit with
  | .error fault => (.error (.frame fault), server)
  | .ok bytes =>
    match server.board.write client bytes with
    | (.error fault, board) => (.error fault, { server with board })
    | (.ok (some true), board) => (.ok (), { server with board })
    | (.ok _, board) => (.error (.clientNotFound client), { server with board })

/-- Takes the oldest response, of the client given if one is, and writes it to the client that its
envelope names. A response that cannot be written is dropped. -/
def sendResponse [Wire β] (target : Option ClientId) (server : Server α β) :
    Except Error (Option ClientId) × Server α β :=
  let take : Queues β → Option (Envelope β) × Queues β := match target with
    | some client => Queues.popFrom client
    | none => Queues.pop
  match server.exchange.withResponses take with
  | (none, exchange) => (.ok none, { server with exchange })
  | (some ⟨client, correlation, message⟩, exchange) =>
    match { server with exchange }.writeTo client correlation message with
    | (.error fault, server) => (.error fault, server)
    | (.ok (), server) => (.ok (some client),
        server.say .debug s!"📤 Response {correlation.text} sent to client {client.text}")

/-- Takes the oldest request and writes it to the client given; answers the client that it came
from. -/
def forwardRequest [Wire α] (target : ClientId) (server : Server α β) :
    Except Error (Option ClientId) × Server α β :=
  match server.exchange.withRequests Queues.pop with
  | (none, exchange) => (.ok none, { server with exchange })
  | (some ⟨client, correlation, message⟩, exchange) =>
    match { server with exchange }.writeTo target correlation message with
    | (.error fault, server) => (.error fault, server)
    | (.ok (), server) => (.ok (some client), server.say .debug
        s!"📤 Request {correlation.text} from client {client.text} relayed to client {target.text}")

/-- Answers one request: the handler's response is queued, and then the oldest response for that
client is sent. -/
def answer [Wire β] (handler : Handler α β) (request : Envelope α) (server : Server α β) :
    Except Error ClientId × Server α β :=
  match handler request.client request.message with
  | .error fault => (.error fault, server)
  | .ok response =>
    let queued := { server with
      exchange := server.exchange.queueResponse ⟨request.client, request.correlation, response⟩ }
    match queued.sendResponse (some request.client) with
    | (.error fault, server) => (.error fault, server)
    | (.ok _, server) => (.ok request.client, server)

end Server

end FrameLink.Host
