import FrameLink.Link.Connection.Clock
/-!
Opening a connection: the transport is started, and its readiness looked at in fixed intervals until
it is no longer connecting or the attempts are used up.
-/

namespace FrameLink.Link.Connection

variable {σ α : Type} [Transport σ]

def dial (url : Url) (verbose : Bool) (connection : Connection σ α) :
    Except Error Unit × Connection σ α :=
  let idle := connection.disconnect
  let channel := idle.channels
  let idle := { idle with
    pump := none, exchange := { idle.exchange with verbose }, channels := channel + 1 }
  match Transport.start url.text channel idle.now idle.transport with
  | (.error fault, transport, _) => (.error fault, { idle with transport })
  | (.ok (), transport, reports) =>
    (.ok (), ({ idle with transport, started := true, pump := some { channel } }.hear reports).say
      .info s!"🔌 Connecting to {url.text}")

def awaitHandshake [Wire α] : (attempts : Nat) → Connection σ α → Connection σ α
  | 0, connection => connection
  | attempts + 1, connection =>
    match connection.readiness with
    | (.connecting, connection) =>
      awaitHandshake attempts (connection.sleep connection.settings.pollInterval).2
    | (_, connection) => connection

/-- Tells how the handshake went; one that is not complete is given up. -/
def conclude (url : Url) (connection : Connection σ α) : Except Error Unit × Connection σ α :=
  match connection.readiness with
  | (.ready, connection) => (.ok (), connection.say .info s!"✅ Connected to {url.text}")
  | (readiness, connection) =>
    (.error (.handshakeTimeout url.text connection.settings.maxAttempts.toNat (.socket readiness)),
      connection.disconnect.say .warn s!"❌ Could not connect to {url.text} ({readiness.name})")

/-- Opens the connection. No other call may be waiting. -/
def connect [Wire α] (address : String) (port : UInt16) (verbose : Bool)
    (connection : Connection σ α) : Except Error Unit × Connection σ α :=
  match Url.ofEndpoint address port connection.settings.path with
  | .error message => (.error (.invalidEndpoint message), connection)
  | .ok url =>
    match connection.dial url verbose with
    | (.error fault, connection) => (.error fault, connection)
    | (.ok (), connection) =>
      (connection.awaitHandshake connection.settings.maxAttempts.toNat).conclude url

end FrameLink.Link.Connection
