import FrameLink.Bytes
import FrameLink.Host.Registry
/-!
The way to the clients of a host: the registry, as long as its task runs, and the channels that carry
messages to their sockets. A channel is closed to writers when nobody reads it any more, and to its
reader when no registered client has it.
-/

namespace FrameLink.Host

/-- The channels that are read, with the messages that wait in them. -/
structure Channels where
  waiting : List (Nat × List Bytes) := []
  next : Nat := 0
deriving Inhabited

namespace Channels

def add (channels : Channels) : Nat × Channels :=
  (channels.next, ⟨channels.waiting ++ [(channels.next, [])], channels.next + 1⟩)

def isRead (channel : Nat) (channels : Channels) : Bool :=
  channels.waiting.any fun entry => entry.1 == channel

/-- Appends a message; false when nobody reads the channel. -/
def write (channel : Nat) (message : Bytes) (channels : Channels) : Bool × Channels :=
  (channels.isRead channel, { channels with waiting := channels.waiting.map fun entry =>
    if entry.1 = channel then (channel, entry.2 ++ [message]) else entry })

def read (channel : Nat) (channels : Channels) : List Bytes × Channels :=
  (((channels.waiting.find? fun entry => entry.1 == channel).map (·.2)).getD [],
    { channels with waiting := channels.waiting.map fun entry =>
      if entry.1 = channel then (channel, []) else entry })

def drop (channel : Nat) (channels : Channels) : Channels :=
  { channels with waiting := channels.waiting.filter fun entry => entry.1 != channel }

end Channels

structure Switchboard where
  /-- none once the registry's task has ended -/
  registry : Option Registry := some {}
  channels : Channels := {}
  log : List Log.Event := []
deriving Inhabited

namespace Switchboard

def ask {ρ : Type} (command : Command ρ) (board : Switchboard) : Except Error ρ × Switchboard :=
  match board.registry with
  | none => (.error .registryUnavailable, board)
  | some registry =>
    match registry.handle command with
    | (reply, registry, events) =>
      (.ok reply, { board with registry := some registry, log := board.log ++ events })

/-- The clients, or none when nobody can tell. -/
def clients (board : Switchboard) : List Endpoint :=
  (board.registry.map (·.endpoints)).getD []

def isHeld (channel : Nat) (board : Switchboard) : Bool :=
  board.clients.any fun endpoint => endpoint.channel == channel

/-- Writes to a client: none without such a client, else whether the message was taken. -/
def write (client : ClientId) (message : Bytes) (board : Switchboard) :
    Except Error (Option Bool) × Switchboard :=
  match board.ask (.channelOf client) with
  | (.error fault, board) => (.error fault, board)
  | (.ok none, board) => (.ok none, board)
  | (.ok (some channel), board) =>
    match board.channels.write channel message with
    | (taken, channels) => (.ok (some taken), { board with channels })

end Switchboard

end FrameLink.Host
