import FrameLink.Link.SocketTransport
/-!
Sockets on a host that can listen but reach nobody: every dial fails as soon as its task runs, which
is when time passes.
-/

namespace FrameLink.Sandbox

open Link

structure Isolated where
  sockets : SocketTransport := {}
  /-- when the latest session was started -/
  dialed : Instant := 0

namespace Isolated

def unreachable : String := "IO error: Network is unreachable (os error 101)"

def fate (session : Session) : Happening :=
  if session.held then .refused unreachable else .noticesStop

def run (sockets : SocketTransport) : SocketTransport :=
  (List.range sockets.sessions.length).foldl (fun sockets place =>
    match sockets.sessions[place]? with
    | none => sockets
    | some session => ((sockets.happen? place (fate session)).map (·.1)).getD sockets) sockets

/-- The tasks have run if time has passed since the latest start. -/
def catchUp (now : Instant) (isolated : Isolated) : Isolated :=
  if isolated.dialed < now then { isolated with sockets := run isolated.sockets } else isolated

instance : Transport Isolated where
  start url channel now isolated := (.ok (), ⟨isolated.sockets.start url channel, now⟩, [])
  send payload isolated :=
    match isolated.sockets.send payload with
    | (result, sockets) => (result, { isolated with sockets })
  readiness now isolated :=
    let isolated := isolated.catchUp now
    (isolated.sockets.readiness, isolated, [])
  stop isolated := ({ isolated with sockets := isolated.sockets.stop }, [])

end Isolated

/-- Every address can be bound. A port is found when none is asked for. -/
def bind (wanted : Inet.Endpoint) : Except String Inet.Endpoint :=
  .ok (if wanted.port = 0 then { wanted with port := 49152 } else wanted)

end FrameLink.Sandbox
