import FrameLink.Host.Server
import FrameLink.Wait.Bell
/-!
Calls of a host that wait for a request, among tasks that run in turn, on a clock that moves only when
all of them wait.
-/

namespace FrameLink.Host.Server

open Wait

variable {α β : Type}

inductive Outcome (α : Type) where
  | taken (outcome : Except Error (Envelope α))
  | answered (outcome : Except Error ClientId)

abbrev Finished (α : Type) := Ticket × Outcome α

def complete [Wire β] (purpose : Purpose α β) (request : Envelope α) (server : Server α β) :
    Outcome α × Server α β :=
  match purpose with
  | .take => (.taken (.ok request), server)
  | .answer handler =>
    match server.answer handler request with
    | (outcome, server) => (.answered outcome, server)

def timedOut (purpose : Purpose α β) (timeout : Duration) : Outcome α :=
  match purpose with
  | .take => .taken (.error (.requestTimeout timeout))
  | .answer _ => .answered (.error (.requestTimeout timeout))

/-- Begins to wait, unless a request is here at once. -/
def begin [Wire β] (purpose : Purpose α β) (timeout : Duration) (server : Server α β) :
    Option (Outcome α) × Server α β :=
  let ticket := server.tickets
  match server.exchange.requests.attend ticket with
  | (found, requests) =>
    let server := { server with
      exchange := { server.exchange with requests }, tickets := ticket + 1 }
    match found with
    | some request =>
      match server.complete purpose request with
      | (outcome, server) => (some outcome, server)
    | none => (none, { server with
        calls := server.calls ++ [⟨ticket, purpose, timeout, server.now + timeout.nanos⟩] })

def call? (ticket : Ticket) (server : Server α β) : Option (Call α β) :=
  server.calls.find? fun call => call.ticket == ticket

def remove (ticket : Ticket) (server : Server α β) : Server α β :=
  { server with calls := server.calls.filter fun call => call.ticket != ticket }

def attend [Wire β] (call : Call α β) (server : Server α β) : Option (Outcome α) × Server α β :=
  if call.ticket ∈ server.exchange.requests.bell.woken then
    match server.exchange.requests.wake call.ticket with
    | (found, requests) =>
      let server := { server with exchange := { server.exchange with requests } }
      match found with
      | none => (none, server)
      | some request =>
        match server.complete call.purpose request with
        | (outcome, server) => (some outcome, server.remove call.ticket)
  else (none, server)

def quit (ticket : Ticket) (server : Server α β) : Server α β :=
  { server with exchange :=
    { server.exchange with requests := server.exchange.requests.leave ticket } }.remove ticket

def cancel (ticket : Ticket) (server : Server α β) : Bool × Server α β :=
  match server.call? ticket with
  | none => (false, server)
  | some _ => (true, server.quit ticket)

/-- A call at its deadline looks once more, and then fails. -/
def lapse [Wire β] (call : Call α β) (server : Server α β) : Outcome α × Server α β :=
  match server.attend call with
  | (some outcome, server) => (outcome, server)
  | (none, server) => (timedOut call.purpose call.timeout, server.quit call.ticket)

def attendAll [Wire β] : List (Call α β) → Server α β → List (Finished α) × Server α β
  | [], server => ([], server)
  | call :: rest, server =>
    match server.attend call with
    | (some outcome, server) =>
      match attendAll rest server with
      | (finished, server) => ((call.ticket, outcome) :: finished, server)
    | (none, server) => attendAll rest server

def settle [Wire β] (server : Server α β) : List (Finished α) × Server α β :=
  attendAll (server.exchange.requests.bell.woken.filterMap server.call?) server

def deadlines (server : Server α β) : List Deadline :=
  server.calls.map fun call => ⟨call.ticket, call.deadline⟩

/-- Reaches the deadlines given, one after the other, as long as `watched` is not done. -/
def reach [Wire β] (watched : Option Ticket) :
    List Deadline → List (Finished α) → Server α β → List (Finished α) × Server α β
  | [], finished, server => (finished, server)
  | deadline :: rest, finished, server =>
    if finished.any fun done => some done.1 == watched then (finished, server)
    else
      match server.call? deadline.ticket with
      | none => reach watched rest finished server
      | some call =>
        match { server with now := deadline.instant }.lapse call with
        | (outcome, server) =>
          match server.settle with
          | (woken, server) =>
            reach watched rest (finished ++ (call.ticket, outcome) :: woken) server

def sleep [Wire β] (span : Duration) (server : Server α β) : List (Finished α) × Server α β :=
  let limit := server.now + span.nanos
  match server.settle with
  | (woken, server) =>
    match reach none (passing limit server.deadlines) woken server with
    | (finished, server) => (finished, { server with now := limit })

def finish [Wire β] (ticket : Ticket) (server : Server α β) :
    List (Finished α) × Server α β :=
  match server.settle with
  | (woken, server) =>
    match server.call? ticket with
    | none => (woken, server)
    | some call => reach (some ticket) (passing call.deadline server.deadlines) woken server

end FrameLink.Host.Server
