import FrameLink.Host.Queues
/-!
What a host and its sockets share: the requests that came in, for which calls may wait, and the
responses that are to go out.
-/

namespace FrameLink.Host

open Wait

structure Exchange (α β : Type) where
  requests : Awaited (Queues α) := ⟨{}, {}⟩
  responses : Queues β := {}

namespace Exchange

variable {α β : Type}

instance : Inhabited (Exchange α β) := ⟨{}⟩

def queueRequest (envelope : Envelope α) (exchange : Exchange α β) : Exchange α β :=
  { exchange with requests := exchange.requests.arrive (·.push envelope) }

def queueResponse (envelope : Envelope β) (exchange : Exchange α β) : Exchange α β :=
  { exchange with responses := exchange.responses.push envelope }

/-- Drops all that is queued for one client: so many requests, and so many responses. -/
def purge (client : ClientId) (exchange : Exchange α β) : (Nat × Nat) × Exchange α β :=
  match exchange.requests.queue.purge client, exchange.responses.purge client with
  | (requests, queue), (responses, kept) =>
    ((requests, responses), ⟨exchange.requests.quietly fun _ => queue, kept⟩)

def withRequests {γ : Type} (act : Queues α → γ × Queues α) (exchange : Exchange α β) :
    γ × Exchange α β :=
  match act exchange.requests.queue with
  | (result, queue) => (result, { exchange with requests := exchange.requests.quietly fun _ => queue })

def withResponses {γ : Type} (act : Queues β → γ × Queues β) (exchange : Exchange α β) :
    γ × Exchange α β :=
  match act exchange.responses with
  | (result, responses) => (result, { exchange with responses })

end Exchange

end FrameLink.Host
