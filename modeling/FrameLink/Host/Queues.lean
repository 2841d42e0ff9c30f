import FrameLink.ClientId
import FrameLink.Correlation
import FrameLink.Wait.Awaited
/-!
Queues of messages from many clients. Each client has its own queue, and one list holds the order of
all arrivals, so that the oldest message of one client can be taken without touching the others.

An arrival whose message is gone is stale. Stale arrivals are skipped when they come to the front,
and all are dropped once the arrivals outnumber the messages two to one.
-/

namespace FrameLink.Host

/-- A message with the client it comes from or goes to. -/
structure Envelope (α : Type) where
  client : ClientId
  correlation : Correlation
  message : α
deriving DecidableEq

structure Queues (α : Type) where
  /-- the messages of each client that has any, with their places in the order of all arrivals -/
  queues : List (ClientId × List (Nat × Envelope α)) := []
  /-- places and clients, oldest first -/
  arrivals : List (Nat × ClientId) := []
  /-- the place of the next arrival -/
  next : Nat := 0
  size : Nat := 0

namespace Queues

variable {α : Type}

instance : Inhabited (Queues α) := ⟨{}⟩

def ofClient (client : ClientId) (queues : Queues α) : List (Nat × Envelope α) :=
  ((queues.queues.find? fun entry => entry.1 == client).map (·.2)).getD []

/-- Writes the messages of one client; a client without any has no queue. -/
def put (client : ClientId) (queue : List (Nat × Envelope α)) (queues : Queues α) : Queues α :=
  let others := queues.queues.filter fun entry => entry.1 != client
  { queues with queues := if queue.isEmpty then others else others ++ [(client, queue)] }

def push (envelope : Envelope α) (queues : Queues α) : Queues α :=
  let queue := queues.ofClient envelope.client ++ [(queues.next, envelope)]
  { queues.put envelope.client queue with
    arrivals := queues.arrivals ++ [(queues.next, envelope.client)]
    next := queues.next + 1
    size := queues.size + 1 }

def isEmpty (queues : Queues α) : Bool := queues.size == 0

def hasFrom (client : ClientId) (queues : Queues α) : Bool :=
  queues.queues.any fun entry => entry.1 == client

def front? (client : ClientId) (queues : Queues α) : Option Nat :=
  (queues.ofClient client).head?.map (·.1)

/-- Drops stale arrivals until the foremost is that of a message. -/
def settle (queues : Queues α) : Queues α :=
  { queues with arrivals := queues.arrivals.dropWhile fun (place, client) =>
      queues.front? client != some place }

/-- Drops every stale arrival. A client's messages leave in order, so the arrivals of those that are
left are the ones from its oldest on. -/
def dropStale (queues : Queues α) : Queues α :=
  { queues with arrivals := queues.arrivals.filter fun (place, client) =>
      (queues.front? client).any (· ≤ place) }

def compact (queues : Queues α) : Queues α :=
  if queues.arrivals.length ≤ 2 * queues.size then queues else queues.dropStale

def popFrom (client : ClientId) (queues : Queues α) : Option (Envelope α) × Queues α :=
  match queues.ofClient client with
  | [] => (none, queues)
  | (_, envelope) :: rest =>
    (some envelope, compact { queues.put client rest with size := queues.size - 1 })

def pop (queues : Queues α) : Option (Envelope α) × Queues α :=
  let queues := queues.settle
  match queues.arrivals with
  | [] => (none, queues)
  | (_, client) :: rest => popFrom client { queues with arrivals := rest }

/-- The oldest message, of the client given if one is. -/
def take (target : Option ClientId) (queues : Queues α) : Option (Envelope α) × Queues α :=
  match target with
  | some client => queues.popFrom client
  | none => queues.pop

def peek (queues : Queues α) : Option (Envelope α) × Queues α :=
  let queues := queues.settle
  match queues.arrivals with
  | [] => (none, queues)
  | (_, client) :: _ => ((queues.ofClient client).head?.map (·.2), queues)

def purge (client : ClientId) (queues : Queues α) : Nat × Queues α :=
  let count := (queues.ofClient client).length
  (count, compact { queues.put client [] with size := queues.size - count })

instance : Wait.Queue (Queues α) (Envelope α) where
  push := push
  pop := pop

end Queues

end FrameLink.Host
