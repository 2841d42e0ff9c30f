import FrameLink.Host.Server
import FrameLink.Text.Quoted
/-!
A host with the sockets that it has accepted. The task of a socket completes the handshake, registers
its client, queues what the client sends and, when the socket ends, takes back the registration and
perhaps what is still queued for the client. Each happening is one step of one task, and a happening
that does not fit where the task is cannot occur.
-/

namespace FrameLink.Host

inductive Ending where
  /-- with a close frame, or without one -/
  | peerClosed
  /-- the client was silent for too long -/
  | idle
  | shutdown
  | failed (reason : String)
deriving DecidableEq

inductive Stage where
  /-- before the handshake -/
  | opening
  | serving
  /-- taken out of the registry, with what was queued still there -/
  | leaving
  | ended
deriving DecidableEq, Repr

structure Socket where
  id : ClientId
  remote : Inet.Endpoint
  stage : Stage := .opening
  /-- the channel that carries messages to the client, once it is registered -/
  channel : Option Nat := none
  /-- the messages of the client, the first one first -/
  received : List Bytes := []
  /-- what has been sent to it -/
  sent : List Bytes := []
deriving DecidableEq

inductive Happening where
  /-- the client asks for a path -/
  | asks (path : String)
  /-- a binary message, or the bytes of a text -/
  | receives (data : Bytes)
  /-- a ping or a pong -/
  | control
  | ends (ending : Ending)
  /-- what is queued for the client is dropped, if that is to be done -/
  | clears
  /-- the messages that wait for the client are sent -/
  | sends
  /-- they cannot be sent, and no later ones will be -/
  | sendFails (message : String)
deriving DecidableEq

structure Hosting (α β : Type) where
  server : Server α β := {}
  settings : ServeSettings := {}
  sockets : List Socket := []

namespace Hosting

variable {α β : Type}

def say (level : Log.Level) (message : String) (hosting : Hosting α β) : Hosting α β :=
  { hosting with server := hosting.server.say level message }

def put (place : Nat) (socket : Socket) (hosting : Hosting α β) : Hosting α β :=
  { hosting with sockets := hosting.sockets.set place socket }

def withChannels (change : Channels → Channels) (hosting : Hosting α β) : Hosting α β :=
  { hosting with server.board.channels := change hosting.server.board.channels }

/-- A client dials. Every socket has a number of its own. -/
def accept? (remote : Inet.Endpoint) (hosting : Hosting α β) : Option (Hosting α β) :=
  if hosting.server.isListening then
    some { hosting with
      sockets := hosting.sockets ++ [{ id := .ofNat (hosting.sockets.length + 1), remote }] }
  else none

def register (place : Nat) (socket : Socket) (hosting : Hosting α β) : Hosting α β :=
  let (channel, channels) := hosting.server.board.channels.add
  match hosting.server.ask (.register ⟨socket.id, socket.remote, channel, hosting.server.now⟩) with
  | (.ok (), server) =>
    ({ hosting with server }.withChannels fun _ => channels).put place
      { socket with stage := .serving, channel := some channel }
  | (.error fault, server) =>
    ({ hosting with server }.say .error
      s!"Failed to register client {socket.id.text}: {fault.message}").put place
        { socket with stage := .ended }

/-- A message becomes a request if it can be read as one. -/
def enqueue [Wire α] (client : ClientId) (data : Bytes) (hosting : Hosting α β) : Hosting α β :=
  match (Frame.decode data hosting.settings.maxFrameBytes.toNat : Except FrameError (Frame α)) with
  | .ok frame =>
    { hosting with server.exchange :=
        hosting.server.exchange.queueRequest ⟨client, frame.correlation, frame.body⟩ }.say .trace
      (s!"📨 Request {frame.correlation.text} queued from client {client.text} " ++
        s!"({data.length} bytes)")
  | .error fault => hosting.say .warn
      (s!"Dropping invalid request from client {client.text} ({data.length} bytes): " ++
        fault.message)

def allows (ending : Ending) (hosting : Hosting α β) : Bool :=
  match ending with
  | .idle => hosting.settings.idleTimeout.isSome
  | .shutdown => hosting.server.listener == .stopped
  | _ => true

def sayEnding (client : ClientId) (ending : Ending) (hosting : Hosting α β) : Hosting α β :=
  let ended := s!"Client {client.text} socket ended: "
  match ending with
  | .idle =>
    let span := match hosting.settings.idleTimeout with
      | some idle => s!"Some({idle.text})"
      | none => "None"
    hosting.say .info s!"⏱️ Client {client.text} idle for {span}; closing"
  | .failed reason => hosting.say .warn s!"Socket error for client {client.text}: {reason}"
  | .peerClosed => hosting.say .debug (ended ++ "PeerClosed")
  | .shutdown => hosting.say .debug (ended ++ "Shutdown")

def unregister (client : ClientId) (hosting : Hosting α β) : Hosting α β :=
  match hosting.server.ask (.unregister client) with
  | (.ok _, server) => { hosting with server }
  | (.error fault, server) => { hosting with server }.say .error
      s!"Failed to unregister client {client.text}: {fault.message}"

def clear (client : ClientId) (hosting : Hosting α β) : Hosting α β :=
  if hosting.settings.purgeOnDisconnect then
    match hosting.server.exchange.purge client with
    | ((requests, responses), exchange) =>
      let cleared := { hosting with server.exchange := exchange }
      if 0 < requests + responses then
        cleared.say .info
          s!"🗑️ Purged {requests} requests and {responses} responses for client {client.text}"
      else cleared
  else hosting

def step? [Wire α] (place : Nat) (happening : Happening) (hosting : Hosting α β) :
    Option (Hosting α β) := do
  let socket ← hosting.sockets[place]?
  match happening, socket.stage with
  | .asks path, .opening =>
    if path = hosting.settings.path then return hosting.register place socket
    else
      let told := hosting.say .warn
        s!"Handshake from {socket.remote.text} rejected: HTTP error: 404 Not Found"
      return told.put place { socket with stage := .ended }
  | .receives data, .serving =>
    return (hosting.enqueue socket.id data).put place
      { socket with received := socket.received ++ [data] }
  | .control, .serving => return hosting
  | .ends ending, .opening =>
    if ending = .shutdown then none
    else return hosting.put place { socket with stage := .ended }
  | .ends ending, .serving =>
    if hosting.allows ending then
      return ((hosting.sayEnding socket.id ending).unregister socket.id).put place
        { socket with stage := .leaving }
    else none
  | .clears, .leaving =>
    return (hosting.clear socket.id).put place { socket with stage := .ended }
  | .sends, _ =>
    let channel ← socket.channel
    if hosting.server.board.channels.isRead channel then
      let (messages, channels) := hosting.server.board.channels.read channel
      return (hosting.withChannels fun _ => channels).put place
        { socket with sent := socket.sent ++ messages }
    else none
  | .sendFails message, _ =>
    let channel ← socket.channel
    if hosting.server.board.channels.isRead channel then
      return (hosting.withChannels (·.drop channel)).say .warn
        s!"Failed to send to client {socket.id.text}: {message}"
    else none
  | _, _ => none

end Hosting

end FrameLink.Host
