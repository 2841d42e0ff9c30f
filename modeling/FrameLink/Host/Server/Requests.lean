import FrameLink.Host.Server.Calls
import FrameLink.Wait.Reception
/-!
What happens at the requests of a host, among tasks that run in turn, on a clock that moves only when all
of them wait: requests are queued, taken at once, waited for, and dropped for a client that has left.
Between the wake-up of a call and its look anything else may happen.
-/

namespace FrameLink.Host.Server.Requests

open Wait

inductive Move (α : Type) where
  | queues (envelope : Envelope α)
  /-- takes the oldest request, of the client given if one is, without waiting -/
  | picks (target : Option ClientId)
  | purges (client : ClientId)
  /-- a call begins to wait for a request, and looks -/
  | begins (timeout : Duration)
  /-- the call that has been woken longest looks again -/
  | looks
  | cancels (ticket : Ticket)
  /-- time passes, up to the next deadline at most -/
  | passes (span : Duration)

inductive Note (α : Type) where
  | queued (envelope : Envelope α)
  | picked (target : Option ClientId) (found : Option (Envelope α))
  | purged (client : ClientId) (dropped : List (Envelope α))
  | begun (ticket : Ticket) (timeout : Duration) (moment : Instant)
  /-- the call has found nothing, and waits from now on -/
  | waited (ticket : Ticket)
  | ended (ticket : Ticket) (outcome : Outcome α) (moment : Instant)
  | cancelled (ticket : Ticket)

variable {α β : Type}

def expire [Wire β] : List Deadline → Server α β → List (Note α) × Server α β
  | [], server => ([], server)
  | deadline :: rest, server =>
    match server.call? deadline.ticket with
    | none => expire rest server
    | some call =>
      match server.lapse call with
      | (outcome, after) =>
        match expire rest after with
        | (notes, last) => (.ended call.ticket outcome server.now :: notes, last)

def lapseDue [Wire β] (server : Server α β) : List (Note α) × Server α β :=
  expire (passing server.now server.deadlines) server

/-- The next moment at which a call ends, if it comes before `limit`. -/
def nextMoment (limit : Instant) (server : Server α β) : Instant :=
  server.deadlines.foldl (fun moment deadline => min moment deadline.instant) limit

/-- What a move brings about. One that does not fit where things are cannot be made. -/
def step? [Wire β] (server : Server α β) : Move α → Option (List (Note α) × Server α β)
  | .queues envelope =>
    some ([.queued envelope], { server with exchange := server.exchange.queueRequest envelope })
  | .picks target =>
    match server.exchange.withRequests (Queues.take target) with
    | (found, exchange) => some ([.picked target found], { server with exchange })
  | .purges client =>
    some ([.purged client ((server.exchange.requests.queue.ofClient client).map (·.2))],
      { server with exchange := (server.exchange.purge client).2 })
  | .begins timeout =>
    let begun : Note α := .begun server.tickets timeout server.now
    match server.begin .take timeout with
    | (some outcome, after) => some ([begun, .ended server.tickets outcome server.now], after)
    | (none, after) =>
      match lapseDue after with
      | (notes, last) => some (begun :: .waited server.tickets :: notes, last)
  | .looks =>
    match server.exchange.requests.bell.woken with
    | [] => none
    | ticket :: _ =>
      match server.call? ticket with
      | none => none
      | some call =>
        match server.attend call with
        | (some outcome, after) => some ([.ended ticket outcome server.now], after)
        | (none, after) => some ([.waited ticket], after)
  | .cancels ticket =>
    match server.cancel ticket with
    | (true, after) => some ([.cancelled ticket], after)
    | (false, _) => none
  | .passes span =>
    match server.exchange.requests.bell.woken with
    | [] => some (lapseDue { server with now := nextMoment (server.now + span.nanos) server })
    | _ :: _ => none

structure Record (α β : Type) where
  past : List (Note α) := []
  server : Server α β := {}

namespace Record

variable [Wire β]

def step (record : Record α β) (move : Move α) : Record α β :=
  match step? record.server move with
  | some (notes, server) => ⟨record.past ++ notes, server⟩
  | none => record

def run (moves : List (Move α)) (record : Record α β) : Record α β := moves.foldl step record

end Record

end FrameLink.Host.Server.Requests
