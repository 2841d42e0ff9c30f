import FrameLink.Proofs.Host.Sending
/-!
What becomes of a request that a host relays. The oldest one leaves the queue before it is written, so
it is one message more in the channel of the client that it is relayed to, or it is nowhere any more.
-/

namespace FrameLink.Host

variable {α β : Type}

def Envelope.readdress (target : ClientId) (envelope : Envelope α) : Envelope α :=
  { envelope with client := target }

namespace Server

/-- What a server becomes when it relays its oldest request. -/
structure Relays [Wire α] (server : Server α β) (target : ClientId) (request : Envelope α)
    (answer : Except Error (Option ClientId)) (after : Server α β) : Prop where
  /-- the others are left, in order -/
  oldest : server.exchange.requests.queue.messages =
    request :: after.exchange.requests.queue.messages
  sound : after.exchange.requests.queue.Sound
  /-- no call that waits is woken -/
  bell : after.exchange.requests.bell = server.exchange.requests.bell
  responses : after.exchange.responses = server.exchange.responses
  registry : after.board.registry = server.board.registry
  rest : after = { server with exchange := after.exchange, board := after.board }
  /-- it is written as if it were a response to the target; its own client is told -/
  delivers : ∃ told, answer = told.map (fun _ => some request.client) ∧
    Delivers server.frameLimit server.board (request.readdress target) told after.board.channels

variable [Wire α] {server after : Server α β} {target : ClientId} {request : Envelope α}
  {answer : Except Error (Option ClientId)}

omit [Wire α] in
theorem withRequests_pop (server : Server α β) :
    server.exchange.withRequests Queues.pop = (server.exchange.requests.queue.pop.1,
      { server.exchange with
        requests := ⟨server.exchange.requests.queue.pop.2, server.exchange.requests.bell⟩ }) := rfl

theorem forwardRequest_none (sound : server.exchange.requests.queue.Sound) (target : ClientId)
    (empty : server.exchange.requests.queue.messages = []) :
    server.forwardRequest target = (.ok none, server) := by
  have absent : (server.exchange.requests.queue.messages.find? fun other => other.isFor none) = none := by
    rw [empty, List.find?_nil]
  have nothing : server.exchange.requests.queue.pop = (none, server.exchange.requests.queue) :=
    sound.take_none absent
  rw [forwardRequest, withRequests_pop, nothing]

theorem forwardRequest_relays [Wire.Lawful α] (sound : server.exchange.requests.queue.Sound)
    (target : ClientId) {others : Line α}
    (queued : server.exchange.requests.queue.messages = request :: others) :
    Relays server target request (server.forwardRequest target).1
      (server.forwardRequest target).2 := by
  have first := sound.pop_eq
  have rest := sound.messages_pop
  have kept := sound.pop
  rw [forwardRequest, withRequests_pop]
  generalize server.exchange.requests.queue.pop = popped at first rest kept ⊢
  obtain ⟨found, left⟩ := popped
  rw [queued] at first rest
  obtain rfl : found = some request := first
  obtain rfl : left.messages = others := rest
  have writes := writeTo_writes { server with
    exchange.requests := ⟨left, server.exchange.requests.bell⟩ } target request.correlation
    request.message
  dsimp only
  cases written : writeTo target request.correlation request.message { server with
      exchange.requests := ⟨left, server.exchange.requests.bell⟩ } with
  | mk answer after =>
    rw [written] at writes
    obtain ⟨channels, delivers, rfl⟩ := Writes.delivers (request.readdress target) writes
    cases answer with
    | error fault => exact ⟨queued, kept, rfl, rfl, rfl, rfl, _, rfl, delivers⟩
    | ok => exact ⟨queued, kept, rfl, rfl, rfl, rfl, _, rfl, delivers⟩

theorem Relays.channels_of_error {fault : Error}
    (relays : Relays server target request (.error fault) after) :
    after.board.channels = server.board.channels := by
  obtain ⟨told, same, delivers⟩ := relays.delivers
  generalize after.board.channels = channels at delivers ⊢
  cases delivers with
  | delivered => cases same
  | tooLarge | untold | absent => rfl

theorem Relays.told (relays : Relays server target request answer after) : answer ≠ .ok none := by
  rintro rfl
  obtain ⟨told, same, _⟩ := relays.delivers
  cases told <;> cases same

theorem Relays.delivered_of_ok {origin : ClientId}
    (relays : Relays server target request (.ok (some origin)) after) :
    request.client = origin ∧ Delivers server.frameLimit server.board (request.readdress target)
      (.ok (some target)) after.board.channels := by
  obtain ⟨told, same, delivers⟩ := relays.delivers
  cases told with
  | error => cases same
  | ok told =>
    cases same
    cases delivers with
    | delivered channel bytes channels own gains within decodes =>
      exact ⟨rfl, .delivered channel bytes _ own gains within decodes⟩

/-- Nothing is relayed, and nothing changes, exactly if no request is queued. Otherwise the oldest
request alone leaves the queue, the others in order behind it. If a client is told, the request came
from that client, and the target has one message more, which reads back as that request. If an error is
told, the request is dropped: no channel has a message more. -/
theorem oldest_request_relayed_or_dropped [Wire.Lawful α]
    (reached : server.exchange.requests.queue.Reached) (target : ClientId) :
    ((server.forwardRequest target).1 = .ok none ↔
      server.exchange.requests.queue.messages = []) ∧
    ((server.forwardRequest target).1 = .ok none → (server.forwardRequest target).2 = server) ∧
    (∀ origin, (server.forwardRequest target).1 = .ok (some origin) → ∃ request : Envelope α,
      request.client = origin ∧
      Relays server target request (.ok (some origin)) (server.forwardRequest target).2 ∧
      Delivers server.frameLimit server.board (request.readdress target) (.ok (some target))
        (server.forwardRequest target).2.board.channels) ∧
    ∀ fault, (server.forwardRequest target).1 = .error fault → ∃ request : Envelope α,
      Relays server target request (.error fault) (server.forwardRequest target).2 ∧
      (server.forwardRequest target).2.board.channels = server.board.channels := by
  have sound := Queues.Sound.ofReached reached
  cases queued : server.exchange.requests.queue.messages with
  | nil =>
    rw [forwardRequest_none sound target queued]
    simp
  | cons request others =>
    have relays := forwardRequest_relays sound target queued
    refine ⟨by simp [relays.told], fun same => absurd same relays.told, ?_, ?_⟩
    · intro origin same
      rw [same] at relays
      obtain ⟨own, delivers⟩ := relays.delivered_of_ok
      exact ⟨request, own, relays, delivers⟩
    · intro fault same
      rw [same] at relays
      exact ⟨request, relays, relays.channels_of_error⟩

/-- A host with requests of two clients, to which only a third one is connected. -/
def relaying : Server Bytes Bytes where
  exchange.requests := ⟨(answers Queues.perform
    [.push ⟨.ofNat 1, ⟨7⟩, [42]⟩, .push ⟨.ofNat 2, ⟨8⟩, [43]⟩] {}).2, {}⟩
  board.registry := some ⟨[⟨.ofNat 3, ⟨.loopback, 50000⟩, 0, 0⟩]⟩
  board.channels := ⟨[(0, [])], 1⟩

/-- The third client gets the request of the first. -/
theorem oldest_request_relayed :
    (relaying.forwardRequest (.ofNat 3)).1 = .ok (some (.ofNat 1)) ∧ ∃ request : Envelope Bytes,
      request.client = .ofNat 1 ∧
      Relays relaying (.ofNat 3) request (.ok (some (.ofNat 1)))
        (relaying.forwardRequest (.ofNat 3)).2 := by
  have told : (relaying.forwardRequest (.ofNat 3)).1 = .ok (some (.ofNat 1)) := by rfl
  have reached : relaying.exchange.requests.queue.Reached := ⟨_, rfl⟩
  obtain ⟨_, _, relayed, _⟩ := oldest_request_relayed_or_dropped reached (.ofNat 3)
  obtain ⟨request, own, relays, _⟩ := relayed _ told
  exact ⟨told, request, own, relays⟩

/-- Relayed to a client that is not connected, the request of the first is lost: the next to be relayed
is that of the second. -/
theorem request_for_absent_dropped :
    relaying.exchange.requests.queue.Reached ∧
    relaying.exchange.requests.queue.messages =
      [⟨.ofNat 1, ⟨7⟩, [42]⟩, ⟨.ofNat 2, ⟨8⟩, [43]⟩] ∧
    (relaying.forwardRequest (.ofNat 4)).1 = .error (.clientNotFound (.ofNat 4)) ∧
    (relaying.forwardRequest (.ofNat 4)).2.exchange.requests.queue.messages =
      [⟨.ofNat 2, ⟨8⟩, [43]⟩] ∧
    ((relaying.forwardRequest (.ofNat 4)).2.forwardRequest (.ofNat 3)).1 =
      .ok (some (.ofNat 2)) := by
  exact ⟨⟨_, rfl⟩, by decide +kernel, by rfl, by decide +kernel, by rfl⟩

end Server

end FrameLink.Host
