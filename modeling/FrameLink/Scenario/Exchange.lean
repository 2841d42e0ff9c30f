import FrameLink.Link.Exchange
import FrameLink.Scenario.Tags
/-!
Scenarios for the exchange of one connection. Between two steps every woken call has looked again,
so no call is left between its wake-up and its look.
-/

namespace FrameLink.Scenario.Exchange

open Wait Link

inductive Step (α : Type) where
  | push (body : α)
  /-- waits for a response, and gives up -/
  | next
  | nextStart (tag : String)
  | cancel (tag : String)
  | clear
  | register (id : Correlation) (tag : String)
  | forget (id : Correlation)
  | expire (id : Correlation)
  /-- registers, releases and expires the numbers from `first` on, one after the other -/
  | expireRange (first count : Nat)
  | resolve (id : Correlation) (body : α)
  | waiter (tag : String)
  | dropWaiter (tag : String)
  | abandon
  | verbose (on : Bool)
  | onTimeout (on : Bool)
  | onClosed (on : Bool)
  | fireTimeout
  | fireClosed
  | idle

inductive Answer (α : Type) where
  | nothing
  | body (found : Option α)
  | started (replaced : Bool)
  | flag (yes : Bool)
  | count (n : Nat)
  | delivery (delivery : Delivery α)
  | receipt (receipt : Option (Receipt α))

structure Entry (α : Type) where
  answer : Answer α
  done : List (String × α)
  queued : Nat
  outstanding : Nat
  timeouts : Nat
  closes : Nat

structure World (α : Type) where
  exchange : Exchange α := {}
  calls : Tags := {}
  waiters : Tags := {}
  tickets : Ticket := 0

namespace World

variable {α : Type}

def alter (change : Exchange α → Exchange α) (world : World α) : World α :=
  { world with exchange := change world.exchange }

def attend (world : World α) : Option α × World α :=
  match world.exchange.inbox.attend world.tickets with
  | (found, inbox) =>
    (found, { world with exchange := { world.exchange with inbox }, tickets := world.tickets + 1 })

def leave (ticket : Ticket) : World α → World α :=
  alter fun exchange => { exchange with inbox := exchange.inbox.leave ticket }

def cancel (tag : String) (world : World α) : Bool × World α :=
  match world.calls.find? tag with
  | none => (false, world)
  | some ticket => (true, { world.leave ticket with calls := world.calls.erase tag })

def releaseTag (tag : String) (world : World α) : Bool × World α :=
  match world.waiters.find? tag with
  | none => (false, world)
  | some ticket =>
    (true, { world.alter (·.release ticket) with waiters := world.waiters.erase tag })

def expireRange : (count first : Nat) → World α → World α
  | 0, _, world => world
  | count + 1, first, world =>
    let id : Correlation := ⟨UInt64.ofNat first⟩
    let ticket := world.tickets
    expireRange count (first + 1)
      { world.alter (fun exchange => ((exchange.register id ticket).release ticket).expire id) with
        tickets := ticket + 1 }

def act (world : World α) : Step α → Answer α × List (Ticket × α) × World α
  | .push body => (.nothing, [], world.alter (·.push body))
  | .next =>
    match world.attend with
    | (some body, world') => (.body (some body), [], world')
    | (none, world') => (.body none, [], world'.leave world.tickets)
  | .nextStart tag =>
    match world.cancel tag with
    | (replaced, world) =>
      match world.attend with
      | (found, world') =>
        (.started replaced, (found.map (world.tickets, ·)).toList,
          { world' with calls := world'.calls.put tag world.tickets })
  | .cancel tag =>
    match world.cancel tag with
    | (found, world) => (.flag found, [], world)
  | .clear =>
    match world.exchange.clear with
    | (count, exchange) => (.count count, [], { world with exchange })
  | .register id tag =>
    let ticket := world.tickets
    let registered := { world.alter (·.register id ticket) with tickets := ticket + 1 }
    match registered.releaseTag tag with
    | (_, world) => (.nothing, [], { world with waiters := world.waiters.put tag ticket })
  | .forget id => (.nothing, [], world.alter (·.forget id))
  | .expire id => (.nothing, [], world.alter (·.expire id))
  | .expireRange first count => (.nothing, [], world.expireRange count first)
  | .resolve id body =>
    match world.exchange.resolve id body with
    | (delivery, exchange) => (.delivery delivery, [], { world with exchange })
  | .waiter tag =>
    match world.waiters.find? tag with
    | none => (.receipt none, [], world)
    | some ticket =>
      let receipt := world.exchange.receipt? ticket
      let read := match receipt with
        | some (.answered _) => world.alter (·.write ticket .closed)
        | _ => world
      (.receipt receipt, [], read)
  | .dropWaiter tag =>
    match world.releaseTag tag with
    | (found, world) => (.flag found, [], world)
  | .abandon =>
    match world.exchange.abandon with
    | (count, exchange) => (.count count, [], { world with exchange })
  | .verbose on =>
    (.flag on, [], world.alter fun exchange => { exchange with verbose := on })
  | .onTimeout on => (.nothing, [], world.alter fun exchange =>
      { exchange with callbacks.onTimeout := if on then some 1 else none })
  | .onClosed on => (.nothing, [], world.alter fun exchange =>
      { exchange with callbacks.onClosed := if on then some 1 else none })
  | .fireTimeout => (.nothing, [], world.alter (·.fireTimeout))
  | .fireClosed => (.nothing, [], world.alter (·.fireClosed))
  | .idle => (.nothing, [], world)

def step (world : World α) (step : Step α) : Entry α × World α :=
  match world.act step with
  | (answer, finished, world) =>
    match world.exchange.inbox.settle with
    | (woken, inbox) =>
      let exchange := { world.exchange with inbox }
      match world.calls.finish (finished ++ woken) with
      | (done, calls) =>
        (⟨answer, done, exchange.queued, exchange.outstanding, exchange.callbacks.timeouts,
          exchange.callbacks.closes⟩, { world with exchange, calls })

end World

def runFrom {α : Type} : World α → List (Step α) → List (Entry α)
  | _, [] => []
  | world, step :: rest =>
    match world.step step with
    | (entry, world) => entry :: runFrom world rest

def run {α : Type} (steps : List (Step α)) : List (Entry α) := runFrom {} steps

end FrameLink.Scenario.Exchange
