import FrameLink.Link.Pending
import FrameLink.Wait.Awaited
/-!
What a connection's calls and the pump of its messages share: the inbox of responses that nobody
asked for by number, the requests that await theirs, and the callbacks.
-/

namespace FrameLink.Link

open Wait

inductive Receipt (α : Type) where
  | pending
  | answered (body : α)
  /-- no response can come any more -/
  | closed
deriving DecidableEq

inductive Delivery (α : Type) where
  /-- handed to the request that waits for it -/
  | resolved
  /-- its request no longer waits -/
  | expired
  /-- nobody asked for it -/
  | unclaimed (body : α)
deriving DecidableEq

/-- Tallies of timeouts and of closed sockets. A callback that is set adds its weight. -/
structure Callbacks where
  onTimeout : Option Nat := none
  onClosed : Option Nat := none
  timeouts : Nat := 0
  closes : Nat := 0
deriving DecidableEq, Inhabited

namespace Callbacks

def fireTimeout (callbacks : Callbacks) : Callbacks :=
  { callbacks with timeouts := callbacks.timeouts + callbacks.onTimeout.getD 0 }

def fireClosed (callbacks : Callbacks) : Callbacks :=
  { callbacks with closes := callbacks.closes + callbacks.onClosed.getD 0 }

end Callbacks

structure Exchange (α : Type) where
  inbox : Awaited (List α) := ⟨[], {}⟩
  pending : Pending := {}
  /-- one for each request whose caller still holds on to it -/
  receipts : List (Ticket × Receipt α) := []
  callbacks : Callbacks := {}
  verbose : Bool := false

namespace Exchange

variable {α : Type}

instance : Inhabited (Exchange α) := ⟨{}⟩

def queued (exchange : Exchange α) : Nat := exchange.inbox.queue.length

def outstanding (exchange : Exchange α) : Nat := exchange.pending.live.length

def push (body : α) (exchange : Exchange α) : Exchange α :=
  { exchange with inbox := exchange.inbox.arrive (· ++ [body]) }

def clear (exchange : Exchange α) : Nat × Exchange α :=
  (exchange.queued, { exchange with inbox := exchange.inbox.quietly fun _ => [] })

def receipt? (ticket : Ticket) (exchange : Exchange α) : Option (Receipt α) :=
  (exchange.receipts.find? fun entry => entry.1 == ticket).map (·.2)

/-- Writes a receipt, if its request still holds on to it. -/
def write (ticket : Ticket) (receipt : Receipt α) (exchange : Exchange α) : Exchange α :=
  { exchange with receipts := exchange.receipts.map fun entry =>
      if entry.1 = ticket then (ticket, receipt) else entry }

/-- No response can come for these requests. One that has come stays. -/
def close (tickets : List Ticket) (exchange : Exchange α) : Exchange α :=
  { exchange with receipts := exchange.receipts.map fun
      | (ticket, .pending) => (ticket, if ticket ∈ tickets then .closed else .pending)
      | entry => entry }

def release (ticket : Ticket) (exchange : Exchange α) : Exchange α :=
  { exchange with receipts := exchange.receipts.filter fun entry => entry.1 != ticket }

def register (id : Correlation) (ticket : Ticket) (exchange : Exchange α) : Exchange α :=
  let exchange := exchange.close (exchange.pending.find? id).toList
  { exchange with
    pending := exchange.pending.register id ticket
    receipts := exchange.receipts ++ [(ticket, .pending)] }

def forget (id : Correlation) (exchange : Exchange α) : Exchange α :=
  let exchange := exchange.close (exchange.pending.find? id).toList
  { exchange with pending := exchange.pending.erase id }

/-- The request stops waiting; its number stays reserved. -/
def expire (id : Correlation) (exchange : Exchange α) : Exchange α :=
  let exchange := exchange.close (exchange.pending.find? id).toList
  { exchange with pending := exchange.pending.expire id }

/-- Hands a response to the request that waits for its number. -/
def resolve (id : Correlation) (body : α) (exchange : Exchange α) : Delivery α × Exchange α :=
  match exchange.pending.find? id with
  | some ticket =>
    let exchange := { exchange with pending := exchange.pending.erase id }
    match exchange.receipt? ticket with
    | some _ => (.resolved, exchange.write ticket (.answered body))
    | none => (.expired, exchange)
  | none =>
    match exchange.pending.recognise id with
    | (true, pending) => (.expired, { exchange with pending })
    | (false, _) => (.unclaimed body, exchange)

/-- Fails every request that still waits, and says how many there were. -/
def abandon (exchange : Exchange α) : Nat × Exchange α :=
  (exchange.outstanding,
    { exchange.close (exchange.pending.live.map (·.2)) with pending := {} })

def fireTimeout (exchange : Exchange α) : Exchange α :=
  { exchange with callbacks := exchange.callbacks.fireTimeout }

def fireClosed (exchange : Exchange α) : Exchange α :=
  { exchange with callbacks := exchange.callbacks.fireClosed }

end Exchange

end FrameLink.Link
