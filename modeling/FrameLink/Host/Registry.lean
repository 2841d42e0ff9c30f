import FrameLink.Host.Error
import FrameLink.Log
/-!
The clients that are connected to a host, in the order of their latest registration. The registry is
one task that takes commands in turn; each command has a reply of its own type.
-/

namespace FrameLink.Host

/-- A connected client: where it is, the channel that carries messages to it, and since when. -/
structure Endpoint where
  id : ClientId
  remote : Inet.Endpoint
  channel : Nat
  connectedAt : Instant
deriving DecidableEq

inductive Command : Type → Type where
  /-- a client with the same number is replaced, and moves to the end -/
  | register (endpoint : Endpoint) : Command Unit
  /-- false when the client was not registered -/
  | unregister (client : ClientId) : Command Bool
  | channelOf (client : ClientId) : Command (Option Nat)
  | clients : Command (List Endpoint)
  /-- drops all clients, and says how many there were -/
  | closeAll : Command Nat

structure Registry where
  endpoints : List Endpoint := []
deriving DecidableEq, Inhabited

namespace Registry

def find? (client : ClientId) (registry : Registry) : Option Endpoint :=
  registry.endpoints.find? fun endpoint => endpoint.id == client

def erase (client : ClientId) (registry : Registry) : Registry :=
  ⟨registry.endpoints.filter fun endpoint => endpoint.id != client⟩

def say (message : String) : Log.Event := ⟨.info, .host, message, none⟩

def handle {ρ : Type} (command : Command ρ) (registry : Registry) : ρ × Registry × List Log.Event :=
  match command with
  | .register endpoint =>
    ((), ⟨(registry.erase endpoint.id).endpoints ++ [endpoint]⟩,
      [say s!"👋 Client {endpoint.id.text} connected from {endpoint.remote.text}"])
  | .unregister client =>
    let kept := registry.erase client
    if kept.endpoints.length < registry.endpoints.length then
      (true, kept,
        [say s!"👋 Client {client.text} disconnected ({kept.endpoints.length} remaining)"])
    else (false, kept, [])
  | .channelOf client => ((registry.find? client).map (·.channel), registry, [])
  | .clients => (registry.endpoints, registry, [])
  | .closeAll => (registry.endpoints.length, {}, [])

end Registry

end FrameLink.Host
