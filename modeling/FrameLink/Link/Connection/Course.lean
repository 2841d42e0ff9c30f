import FrameLink.Link.Connection.Handshake
import FrameLink.Link.SocketTransport
/-!
A connection over sockets whose user, calls, pump and sessions take their turns in any order, with
anything that the network may do to a session in between. A move that does not fit where things are
cannot be made.
-/

namespace FrameLink.Link.Connection

open Wait

/-- A connection that is being opened. Nobody else uses it meanwhile. -/
structure Dial where
  url : Url
  /-- how often it is still looked at before the last time -/
  attempts : Nat
deriving DecidableEq

structure Course (α : Type) where
  connection : Connection SocketTransport α
  dial : Option Dial := none
  /-- what the attempts to open it came to, and the calls, the first one first -/
  opened : List (Except Error Unit) := []
  finished : List (Finished α) := []

inductive Move (β : Type) where
  | dials (address : String) (port : UInt16) (verbose : Bool)
  /-- the one who dials looks whether the handshake is over -/
  | looks
  | sends (body : β)
  | receives (timeout : Duration)
  | requests (body : β) (timeout : Duration)
  /-- a call that waits looks for what it waits for, is dropped, or is out of time -/
  | attends (ticket : Ticket)
  | cancels (ticket : Ticket)
  | lapses (ticket : Ticket)
  /-- the pump takes an event -/
  | pumps
  | disconnects
  /-- something happens to a session -/
  | session (place : Nat) (happening : Happening)
  | passes (span : Duration)

namespace Course

variable {α β : Type}

def ofSettings (settings : ConnectSettings) : Course α :=
  { connection := { settings, transport := .ofSettings settings } }

def note (ticket : Ticket) (begun : Option (Outcome α) × Connection SocketTransport α)
    (course : Course α) : Course α :=
  { course with
    connection := begun.2
    finished := course.finished ++ (begun.1.map fun outcome => (ticket, outcome)).toList }

/-- A handshake that is over, or has been looked at often enough, is concluded. -/
def look (dial : Dial) (course : Course α) : Course α :=
  match dial.attempts, course.connection.readiness with
  | attempts + 1, (.connecting, connection) =>
    { course with connection, dial := some { dial with attempts } }
  | _, _ =>
    match course.connection.conclude dial.url with
    | (outcome, connection) =>
      { course with connection, dial := none, opened := course.opened ++ [outcome] }

def pump? [Wire α] (course : Course α) : Option (Course α) := do
  let pump ← course.connection.pump
  match pump.events with
  | [] => none
  | event :: events =>
    return { course with
      connection := { course.connection with pump := some { pump with events } }.take event }

def use? [Wire β] (course : Course α) : Move β → Option (Course α)
  | .dials address port verbose =>
    if course.connection.calls.isEmpty then
      match Url.ofEndpoint address port course.connection.settings.path with
      | .error message =>
        some { course with opened := course.opened ++ [.error (.invalidEndpoint message)] }
      | .ok url =>
        match course.connection.dial url verbose with
        | (.error fault, connection) =>
          some { course with connection, opened := course.opened ++ [.error fault] }
        | (.ok (), connection) => some { course with
            connection, dial := some ⟨url, connection.settings.maxAttempts.toNat⟩ }
    else none
  | .sends body => some { course with connection := (course.connection.send body).2 }
  | .receives timeout =>
    some (course.note course.connection.tickets (course.connection.beginReceive timeout))
  | .requests body timeout =>
    some (course.note course.connection.tickets (course.connection.beginRequest body timeout))
  | .disconnects => some { course with connection := course.connection.disconnect }
  | _ => none

def step? [Wire α] [Wire β] (course : Course α) (move : Move β) : Option (Course α) :=
  match move with
  | .looks => course.dial.map fun dial => course.look dial
  | .attends ticket => do
    let call ← course.connection.call? ticket
    match course.connection.attend call with
    | (some outcome, connection) =>
      return course.note ticket (some outcome, connection.remove ticket)
    | (none, connection) => return { course with connection }
  | .cancels ticket =>
    match course.connection.cancel ticket with
    | (true, connection) => some { course with connection }
    | (false, _) => none
  | .lapses ticket => do
    let call ← course.connection.call? ticket
    if course.connection.now < call.deadline then none
    else match course.connection.lapse call with
      | (outcome, connection) => return course.note ticket (some outcome, connection)
  | .pumps => course.pump?
  | .session place happening => do
    let (transport, reports, log) ← course.connection.transport.happen? place happening
    let connection := { course.connection with transport }.hear reports
    return { course with connection := { connection with log := connection.log ++ log } }
  | .passes span =>
    some { course with connection :=
      { course.connection with now := course.connection.now + span.nanos } }
  | move => if course.dial.isNone then course.use? move else none

/-- The moves that can be made, one after the other; the others are passed over. -/
def run [Wire α] [Wire β] (moves : List (Move β)) (course : Course α) : Course α :=
  moves.foldl (fun course move => (course.step? move).getD course) course

end Course

end FrameLink.Link.Connection
