import FrameLink.Sandbox.Isolated
/-!
Scenarios for the transport over sockets, on a host that reaches nobody. Steps that wait let the
tasks of the sessions run; the others see what is there.
-/

namespace FrameLink.Scenario.Sockets

open Link Sandbox

inductive Step where
  /-- with `keepEvents` the events of the earlier start stay in view -/
  | start (url : String) (keepEvents : Bool)
  /-- waits for a client at the peer -/
  | accept
  | event
  | send (payload : Bytes)
  /-- waits for a readiness, or long enough -/
  | ready
  | readyNow
  | stop
  | drop
  /-- the peer sends, receives or closes -/
  | peer
  | peerDrop
  | idle

inductive Answer where
  | nothing
  | started
  | nobody
  /-- whether the session whose events are in view is over; none before the first start -/
  | ended (yes : Option Bool)
  | sent (outcome : Except Error Unit)
  | readiness (readiness : Readiness)
  | noPeer
  | flag (yes : Bool)

structure World where
  sockets : SocketTransport
  /-- the session whose events are in view -/
  view : Option Nat := none
  gone : Bool := false

namespace World

def run (world : World) : World := { world with sockets := Isolated.run world.sockets }

def act (world : World) : Step → Answer × World
  | .start url keepEvents =>
    let place := world.sockets.sessions.length
    (.started, { world with
      sockets := world.sockets.start url place
      view := if keepEvents then world.view else some place })
  | .accept => (.nobody, world.run)
  | .event =>
    let world := world.run
    (.ended (world.view.map fun place =>
      (world.sockets.sessions[place]?).all fun session => session.phase = .ended), world)
  | .send payload =>
    match world.sockets.send payload with
    | (outcome, sockets) => (.sent outcome, { world with sockets })
  | .ready =>
    let world := world.run
    (.readiness world.sockets.readiness, world)
  | .readyNow => (.readiness world.sockets.readiness, world)
  | .stop =>
    let world := { world with sockets := world.sockets.stop }
    (.readiness world.sockets.readiness, world)
  | .drop => (.nothing, { world with sockets := world.sockets.stop, gone := true })
  | .peer => (.noPeer, world)
  | .peerDrop => (.flag false, world)
  | .idle => (.nothing, world)

end World

/-- One answer for each step up to the end of the transport, and none for the steps after it. -/
def runFrom : World → List Step → List (Option Answer)
  | _, [] => []
  | world, step :: rest =>
    if world.gone then none :: runFrom world rest
    else match world.act step with
      | (answer, world) => some answer :: runFrom world rest

def run (settings : ConnectSettings) (steps : List Step) : List (Option Answer) :=
  runFrom { sockets := .ofSettings settings } steps

end FrameLink.Scenario.Sockets
