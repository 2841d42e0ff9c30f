import FrameLink.Link.Connection.Calls
import FrameLink.Wait.Bell
/-!
A connection among tasks that run in turn, on a clock that moves only when all of them wait.
-/

namespace FrameLink.Link.Connection

open Wait

variable {σ α : Type}

abbrev Finished (α : Type) := Ticket × Outcome α

def attendAll : List Call → Connection σ α → List (Finished α) × Connection σ α
  | [], connection => ([], connection)
  | call :: rest, connection =>
    match connection.attend call with
    | (some outcome, connection) =>
      match attendAll rest (connection.remove call.ticket) with
      | (finished, connection) => ((call.ticket, outcome) :: finished, connection)
    | (none, connection) => attendAll rest connection

/-- The calls that have something to look at: those that are woken, in the order of their wake-ups,
and the requests. -/
def alert (connection : Connection σ α) : List Call :=
  connection.exchange.inbox.bell.woken.filterMap connection.call? ++
    connection.calls.filter fun call => call.purpose != .receive

def settle [Wire α] (connection : Connection σ α) : List (Finished α) × Connection σ α :=
  let drained := connection.drain
  attendAll drained.alert drained

def deadlines (connection : Connection σ α) : List Deadline :=
  connection.calls.map fun call => ⟨call.ticket, call.deadline⟩

/-- Reaches the deadlines given, one after the other, as long as `watched` is not done. -/
def reach [Transport σ] [Wire α] (watched : Option Ticket) :
    List Deadline → List (Finished α) → Connection σ α → List (Finished α) × Connection σ α
  | [], finished, connection => (finished, connection)
  | deadline :: rest, finished, connection =>
    if finished.any fun done => some done.1 == watched then (finished, connection)
    else
      match connection.call? deadline.ticket with
      | none => reach watched rest finished connection
      | some call =>
        match { connection with now := deadline.instant }.lapse call with
        | (outcome, connection) =>
          match connection.settle with
          | (woken, connection) =>
            reach watched rest (finished ++ (call.ticket, outcome) :: woken) connection

def sleep [Transport σ] [Wire α] (span : Duration) (connection : Connection σ α) :
    List (Finished α) × Connection σ α :=
  let limit := connection.now + span.nanos
  match connection.settle with
  | (woken, connection) =>
    match reach none (passing limit connection.deadlines) woken connection with
    | (finished, connection) => (finished, { connection with now := limit })

def finish [Transport σ] [Wire α] (ticket : Ticket) (connection : Connection σ α) :
    List (Finished α) × Connection σ α :=
  match connection.settle with
  | (woken, connection) =>
    match connection.call? ticket with
    | none => (woken, connection)
    | some call => reach (some ticket) (passing call.deadline connection.deadlines) woken connection

def await [Transport σ] [Wire α] (ticket : Ticket) :
    Option (Outcome α) × Connection σ α → Option (Outcome α) × List (Finished α) × Connection σ α
  | (some outcome, connection) => (some outcome, [], connection)
  | (none, connection) =>
    match connection.finish ticket with
    | (finished, connection) =>
      ((finished.find? fun done => done.1 == ticket).map (·.2), finished, connection)

end FrameLink.Link.Connection
