import FrameLink.Link.Session
import FrameLink.Settings.Connect
/-!
The transport over sockets. Each start begins a session and lets go of the earlier one, which ends on
its own; sending and readiness concern the session that is held.
-/

namespace FrameLink.Link

structure SocketTransport where
  autoReconnect : Bool := true
  /-- all that were started, the latest last -/
  sessions : List Session := []
  /-- the place of the session that is held -/
  current : Option Nat := none
deriving DecidableEq

namespace SocketTransport

def ofSettings (settings : ConnectSettings) : SocketTransport :=
  { autoReconnect := settings.autoReconnect }

def session? (transport : SocketTransport) : Option Session :=
  transport.current.bind fun place => transport.sessions[place]?

def alter (place : Nat) (change : Session → Session) (transport : SocketTransport) :
    SocketTransport :=
  { transport with sessions := transport.sessions.modify place change }

def readiness (transport : SocketTransport) : Readiness :=
  (transport.session?.map (·.readiness)).getD .closed

def stop (transport : SocketTransport) : SocketTransport :=
  match transport.current with
  | none => transport
  | some place => { transport.alter place ({ · with held := false }) with current := none }

def start (url : String) (channel : Nat) (transport : SocketTransport) : SocketTransport :=
  let stopped := transport.stop
  { stopped with
    sessions := stopped.sessions ++ [{ url, channel, autoReconnect := stopped.autoReconnect }]
    current := some stopped.sessions.length }

/-- Accepts a payload while the session says that it is open. -/
def send (payload : Bytes) (transport : SocketTransport) : Except Error Unit × SocketTransport :=
  match transport.current, transport.session? with
  | some place, some session =>
    if session.readiness ≠ .ready then (.error (.notConnected (.socket session.readiness)), transport)
    else if session.phase = .ended then (.error (.transport "session task has stopped"), transport)
    else (.ok (), transport.alter place fun session =>
      { session with outbound := session.outbound ++ [payload] })
  | _, _ => (.error (.notConnected (.socket .closed)), transport)

def happen? (place : Nat) (happening : Happening) (transport : SocketTransport) :
    Option (SocketTransport × List Report × List Log.Event) := do
  let session ← transport.sessions[place]?
  let effect ← session.step? happening
  return (transport.alter place fun _ => effect.session,
    effect.events.map fun event => ⟨session.channel, event⟩, effect.log)

instance : Transport SocketTransport where
  start url channel _ transport := (.ok (), transport.start url channel, [])
  send := send
  readiness _ transport := (transport.readiness, transport, [])
  stop transport := (transport.stop, [])

end SocketTransport

end FrameLink.Link
