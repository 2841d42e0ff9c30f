import FrameLink.Link.Transport
import FrameLink.Log
import FrameLink.Text.Quoted
/-!
The task of one session. It dials, moves messages while its socket is up and, when it may, dials again
after a rest, until it is stopped. What the network does to it is given from outside, one happening
at a time; a happening that does not fit where the task is cannot occur.
-/

namespace FrameLink.Link

inductive Phase where
  | dialing
  /-- a socket is up -/
  | up
  /-- between two dials -/
  | resting
  | ended
deriving DecidableEq, Repr

structure Session where
  url : String
  channel : Nat
  autoReconnect : Bool
  phase : Phase := .dialing
  readiness : Readiness := .connecting
  /-- the transport lets go of a session only to stop it -/
  held : Bool := true
  /-- payloads that were accepted and are not written yet -/
  outbound : List Bytes := []
  /-- how many sockets have been up -/
  sockets : Nat := 0
  /-- payloads with the socket on which each was written -/
  written : List (Nat × Bytes) := []
deriving DecidableEq

inductive Happening where
  /-- the handshake fails -/
  | refused (message : String)
  /-- the handshake is complete -/
  | accepted
  /-- the oldest payload goes out -/
  | writes
  | writeFails (message : String)
  /-- a binary message, or the bytes of a text -/
  | receives (data : Bytes)
  /-- a ping or a pong -/
  | control
  /-- a close frame, with its reason if it has one -/
  | peerCloses (reason : Option String)
  | fails (message : String)
  /-- the stream ends without a close frame -/
  | ends
  | restOver
  | noticesStop
deriving DecidableEq

namespace Session

def say (level : Log.Level) (message : String) : Log.Event := ⟨level, .client, message, none⟩

structure Effect where
  session : Session
  events : List Event := []
  log : List Log.Event := []

/-- After a dial or a socket: rests before the next dial, or is over. -/
def part (session : Session) : Session :=
  if session.autoReconnect && session.held then { session with phase := .resting }
  else { session with phase := .ended, readiness := .closed }

def down (reason : Option String) (session : Session) : Effect :=
  let shown := match reason with
    | none => "None"
    | some reason => "Some(" ++ Text.quoted reason ++ ")"
  { session := session.part
    events := [.closed reason]
    log := [say .debug s!"🔌 Socket to {session.url} closed ({shown})"] }

def step? (session : Session) : Happening → Option Effect
  | .refused message =>
    if session.phase = .dialing then some
      { session := session.part
        log := [say .trace s!"Handshake with {session.url} failed: {message}"] }
    else none
  | .accepted =>
    if session.phase = .dialing then some
      { session := { session with
          phase := .up, readiness := .ready, sockets := session.sockets + 1 }
        events := [.opened]
        log := [say .debug s!"🔗 Socket open to {session.url}"] }
    else none
  | .writes =>
    match session.phase, session.outbound with
    | .up, payload :: rest => some
      { session := { session with
          outbound := rest, written := session.written ++ [(session.sockets, payload)] } }
    | _, _ => none
  | .writeFails message =>
    match session.phase, session.outbound with
    | .up, _ :: rest => some ({ session with outbound := rest }.down (some message))
    | _, _ => none
  | .receives data =>
    if session.phase = .up then some { session, events := [.message data] } else none
  | .control => if session.phase = .up then some { session } else none
  | .peerCloses reason =>
    if session.phase = .up then some ({ session with readiness := .closing }.down reason) else none
  | .fails message => if session.phase = .up then some (session.down (some message)) else none
  | .ends => if session.phase = .up then some (session.down none) else none
  | .restOver =>
    if session.phase = .resting then some
      { session := { session with phase := .dialing, readiness := .connecting } }
    else none
  | .noticesStop =>
    if session.held then none
    else match session.phase with
      | .up => some ({ session with readiness := .closing }.down none)
      | .dialing | .resting => some { session := { session with phase := .ended, readiness := .closed } }
      | .ended => none

end Session

end FrameLink.Link
