import FrameLink.Scenario.Connection
import FrameLink.Sandbox.Isolated
import FrameLink.Scenario.Server
/-!
Scenarios for one host and its clients over sockets, where the host listens but nobody is reached.
-/

namespace FrameLink.Scenario.Network

open Link Sandbox

inductive Step where
  /-- a step of the host, with clients named by number -/
  | server (step : Server.Step)
  /-- a second host listens at the same endpoint, and again at any port -/
  | listenOccupied
  | connect (client : Nat) (settings : ConnectSettings) (address : String) (verbose : Bool)
  | send (client : Nat) (body : String)
  | requestStart (client : Nat) (tag body : String) (timeout : Duration)
  | await (tag : String)
  | receive (client : Nat) (timeout : Duration)
  /-- waits for a client to get somewhere, or long enough -/
  | wait (client : Nat)
  | waitClients (count : Nat)
  | disconnect (client : Nat)
  | drop (client : Nat)
  /-- a bare client dials -/
  | rawConnect
  /-- a bare client does something with its socket -/
  | raw
  /-- sends text over a bare stream -/
  | garbage
  | idle

inductive Answer where
  | nothing
  | server (answer : Server.Answer)
  | connection (answer : Connection.Answer)
  | occupied (first second : Except Host.Error Inet.Endpoint) (listening : Bool)
  | flag (yes : Bool)
  | client (state : State) (closes timeouts queued outstanding : Nat)
  | failed
  | notStarted
  | noSuchTask

structure Entry where
  answer : Answer
  clients : Nat
  requests : Nat
  responses : Nat
  listening : Bool
  /-- the port at which the host listens, or listened last -/
  port : UInt16

/-- A scenario stops where a bare client has no socket to work with. -/
inductive Stop where
  | noSocket
  | unreachable

def Stop.message : Stop → String
  | .noSocket => "called `Option::unwrap()` on a `None` value"
  | .unreachable => "called `Result::unwrap()` on an `Err` value: Os \x7b code: 101, " ++
      "kind: NetworkUnreachable, message: \"Network is unreachable\" \x7d"

abbrev Subject := Link.Connection Isolated String

structure World where
  host : Server.World := {}
  clients : List (Nat × Subject) := []
  tasks : List (String × Link.Connection.Outcome String) := []
  port : UInt16 := 0

/-- Nobody is ever connected, so every number stands for nobody. -/
def unnumbered (envelope : Host.Envelope String) : Host.Envelope String :=
  { envelope with client := .none }

def anonymous : Server.Step → Server.Step
  | .queueRequest envelope => .queueRequest (unnumbered envelope)
  | .queueResponse envelope => .queueResponse (unnumbered envelope)
  | .hasRequestFrom _ => .hasRequestFrom .none
  | .popRequestFrom _ => .popRequestFrom .none
  | .sendResponse target => .sendResponse (target.map fun _ => .none)
  | .forwardRequest _ => .forwardRequest .none
  | step => step

namespace World

def client? (number : Nat) (world : World) : Option Subject :=
  (world.clients.find? fun entry => entry.1 == number).map (·.2)

def put (number : Nat) (connection : Subject) (world : World) : World :=
  { world with clients :=
      (number, connection) :: world.clients.filter fun entry => entry.1 != number }

def withClient (number : Nat) (act : Subject → Answer × Subject) (world : World) : Answer × World :=
  match world.client? number with
  | none => (.notStarted, world)
  | some connection =>
    match act connection with
    | (answer, connection) => (answer, world.put number connection)

def fresh (settings : ConnectSettings) : Subject :=
  { settings
    transport := { sockets := .ofSettings settings }
    exchange := { callbacks := { onTimeout := some 1, onClosed := some 1 } } }

def bindBeside (world : World) (wanted : Inet.Endpoint) : Except String Inet.Endpoint :=
  if world.host.server.localEndpoint? = some wanted then
    .error "Address already in use (os error 98)"
  else bind wanted

def act (world : World) : Step → Except Stop (Answer × World)
  | .server step =>
    match world.host.step (anonymous step) with
    | (entry, host) =>
      let port := (host.server.localEndpoint?.map (·.port)).getD world.port
      .ok (.server entry.answer, { world with host, port })
  | .listenOccupied =>
    match (default : Server.Subject).listen world.bindBeside { port := world.port } with
    | (first, other) =>
      match other.listen world.bindBeside { port := 0 } with
      | (second, other) => .ok (.occupied first second other.isListening, world)
  | .connect number settings address verbose =>
    let connection := (world.client? number).getD (fresh settings)
    match connection.connect address world.port verbose with
    | (outcome, connection) =>
      .ok (.connection (.connected outcome), world.put number connection)
  | .send number body => .ok (world.withClient number fun connection =>
    match connection.send body with
    | (outcome, connection) => (.connection (.sent outcome), connection))
  | .requestStart number tag body timeout =>
    match world.client? number with
    | none => .ok (.notStarted, world)
    | some connection =>
      match connection.beginRequest body timeout with
      | (outcome, connection) => .ok (.flag false, { world.put number connection with
          tasks := (outcome.map (tag, ·)).toList ++ world.tasks })
  | .await tag =>
    match world.tasks.find? fun task => task.1 == tag with
    | none => .ok (.noSuchTask, world)
    | some (_, outcome) => .ok (.connection (.outcome outcome), { world with
        tasks := world.tasks.filter fun task => task.1 != tag })
  | .receive number timeout => .ok (world.withClient number fun connection =>
    match Link.Connection.await connection.tickets (connection.beginReceive timeout) with
    | (outcome, _, connection) =>
      ((outcome.map fun outcome => .connection (.outcome outcome)).getD .nothing, connection))
  | .wait number => .ok (world.withClient number fun connection =>
    match (connection.sleep (.ofMillis 1)).2.state with
    | (state, connection) =>
      let exchange := connection.exchange
      (.client state exchange.callbacks.closes exchange.callbacks.timeouts exchange.queued
        exchange.outstanding, connection))
  | .waitClients count => .ok (.flag (count == 0), world)
  | .disconnect number => .ok (world.withClient number fun connection =>
    (.flag true, connection.disconnect))
  | .drop number =>
    match world.client? number with
    | none => .ok (.notStarted, world)
    | some _ => .ok (.flag true, { world with
        clients := world.clients.filter fun entry => entry.1 != number })
  | .rawConnect => .ok (.failed, world)
  | .raw => .error .noSocket
  | .garbage => .error .unreachable
  | .idle => .ok (.nothing, world)

def step (world : World) (step : Step) : Except Stop (Entry × World) := do
  let (answer, world) ← world.act step
  let server := world.host.server
  return (⟨answer, server.board.clients.length, server.exchange.requests.queue.size,
    server.exchange.responses.size, server.isListening, world.port⟩, world)

end World

def runFrom : World → List Step → Except Stop (List Entry)
  | _, [] => .ok []
  | world, step :: rest => do
    let (entry, world) ← world.step step
    return entry :: (← runFrom world rest)

def run (steps : List Step) : Except Stop (List Entry) := runFrom {} steps

end FrameLink.Scenario.Network
