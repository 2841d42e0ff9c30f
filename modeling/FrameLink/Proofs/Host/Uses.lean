import FrameLink.Host.Service
import FrameLink.Proofs.Host.Turns
/-!
What an application can do to a host. Whatever it uses, the registry stays as it is and no channel gets
a reader; it takes requests out, and only those that it queues itself come in.
-/

namespace FrameLink.Host

open Wait

variable {α β : Type}

/-- The same clients are registered, and only messages in channels that are read are new. -/
structure Switchboard.Keeps (board after : Switchboard) : Prop where
  registry : after.registry = board.registry
  next : after.channels.next = board.channels.next
  unread : ∀ channel, board.channels.at? channel = none → after.channels.at? channel = none

namespace Switchboard.Keeps

theorem refl (board : Switchboard) : board.Keeps board := ⟨rfl, rfl, fun _ => id⟩

theorem trans {board between after : Switchboard} (one : board.Keeps between)
    (two : between.Keeps after) : board.Keeps after where
  registry := two.registry.trans one.registry
  next := two.next.trans one.next
  unread channel none := two.unread channel (one.unread channel none)

theorem tells (board : Switchboard) (log : List Log.Event) : board.Keeps { board with log } :=
  ⟨rfl, rfl, fun _ => id⟩

theorem locates (client : ClientId) (board : Switchboard) :
    board.Keeps (board.ask (.channelOf client)).2 := by
  obtain ⟨log, same⟩ := ask_board (.channelOf client) board
  rw [same]
  refine ⟨?_, rfl, fun _ => id⟩
  cases board.registry <;> rfl

theorem carries (channel : Nat) (message : Bytes) (board : Switchboard) :
    board.Keeps { board with channels := (board.channels.write channel message).2 } where
  registry := rfl
  next := rfl
  unread other none := by rw [Channels.at?_write, none, Option.map_none]

theorem writes (client : ClientId) (message : Bytes) (board : Switchboard) :
    board.Keeps (board.write client message).2 := by
  have asked := locates client board
  unfold write
  split
  next found => rwa [found] at asked
  next found => rwa [found] at asked
  next found =>
    rw [found] at asked
    exact asked.trans (carries _ _ _)

end Switchboard.Keeps

structure Exchange.Sound (exchange : Exchange α β) : Prop where
  requests : exchange.requests.queue.Sound
  responses : exchange.responses.Sound

namespace Server

/-- Some requests may be taken out of what a server has queued, and none are added. -/
structure Draws (server after : Server α β) : Prop where
  sound : after.exchange.Sound
  requests : after.exchange.requests.queue.messages.Sublist
    server.exchange.requests.queue.messages
  board : server.board.Keeps after.board
  stopped : server.listener = .stopped → after.listener = .stopped

namespace Draws

theorem same {server after : Server α β} (sound : server.exchange.Sound)
    (exchange : after.exchange = server.exchange) (board : server.board.Keeps after.board)
    (stopped : server.listener = .stopped → after.listener = .stopped) : server.Draws after where
  sound := exchange ▸ sound
  requests := by rw [exchange]
  board := board
  stopped := stopped

theorem refl {server : Server α β} (sound : server.exchange.Sound) : server.Draws server :=
  same sound rfl (.refl _) id

theorem trans {server between after : Server α β} (one : server.Draws between)
    (two : between.Draws after) : server.Draws after where
  sound := two.sound
  requests := two.requests.trans one.requests
  board := one.board.trans two.board
  stopped := two.stopped ∘ one.stopped

end Draws

end Server

theorem Pick.take_kept {γ : Type} (pick : Pick) {queues : Queues γ} (sound : queues.Sound) :
    (pick.take queues).2.Sound ∧ (pick.take queues).2.messages.Sublist queues.messages := by
  cases pick with
  | oldest =>
    refine ⟨sound.pop, ?_⟩
    change queues.pop.2.messages.Sublist _
    rw [sound.messages_pop]
    exact List.tail_sublist _
  | oldestOf client =>
    refine ⟨sound.popFrom client, ?_⟩
    change (queues.popFrom client).2.messages.Sublist _
    rw [sound.messages_popFrom]
    exact List.eraseP_sublist
  | glance =>
    obtain ⟨_, kept, same⟩ := sound.perform .peek
    refine ⟨kept, ?_⟩
    change queues.peek.2.messages = queues.messages at same
    exact same ▸ List.Sublist.refl _

namespace Server

variable {server : Server α β}

theorem listen_draws (sound : server.exchange.Sound)
    (bind : Inet.Endpoint → Except String Inet.Endpoint) (settings : ServeSettings) :
    server.Draws (server.listen bind settings).2 := by
  unfold listen
  split
  next => exact .same sound rfl (.tells _ _) id
  next => exact .refl sound
  next => exact .refl sound
  next idle =>
    have open' : server.listener ≠ .stopped := by simp [idle]
    dsimp only
    split <;> exact .same sound rfl (.tells _ _) fun stopped => absurd stopped open'

theorem closeClients_listener (endpoint : Inet.Endpoint) (server : Server α β) :
    (server.closeClients endpoint).2.listener = server.listener := by
  obtain ⟨_, ⟨registry, channels, log⟩, _, _, _, _, _⟩ := server
  cases registry <;> rfl

theorem stopListening_draws (sound : server.exchange.Sound) : server.Draws server.stopListening :=
  .same sound rfl (.tells _ _) fun _ => rfl

theorem picksRequest_draws (sound : server.exchange.Sound) (pick : Pick) :
    server.Draws { server with exchange := (server.exchange.withRequests pick.take).2 } := by
  obtain ⟨kept, fewer⟩ := pick.take_kept sound.requests
  exact ⟨⟨kept, sound.responses⟩, fewer, .refl _, id⟩

theorem picksResponse_draws (sound : server.exchange.Sound) (pick : Pick) :
    server.Draws { server with exchange := (server.exchange.withResponses pick.take).2 } :=
  ⟨⟨sound.requests, (pick.take_kept sound.responses).1⟩, List.Sublist.refl _, .refl _, id⟩

theorem queuesResponse_draws (sound : server.exchange.Sound) (envelope : Envelope β) :
    server.Draws { server with exchange := server.exchange.queueResponse envelope } :=
  ⟨⟨sound.requests, sound.responses.push envelope⟩, List.Sublist.refl _, .refl _, id⟩

theorem writeTo_draws {γ : Type} [Wire γ] (sound : server.exchange.Sound) (client : ClientId)
    (correlation : Correlation) (message : γ) :
    server.Draws (server.writeTo client correlation message).2 := by
  unfold writeTo
  split
  next => exact .refl sound
  next bytes _ =>
    have written := Switchboard.Keeps.writes client bytes server.board
    split <;> rename_i found <;> rw [found] at written <;> exact .same sound rfl written id

variable [Wire α] [Wire β]

omit [Wire α] [Wire β] in
theorem relays_draws {γ : Type} [Wire γ] (sound : server.exchange.Sound) (envelope : Envelope γ)
    (target : ClientId) (message : String) :
    server.Draws (match server.writeTo target envelope.correlation envelope.message with
      | (.error fault, server) => ((.error fault : Except Error (Option ClientId)), server)
      | (.ok (), server) => (.ok (some envelope.client), server.say .debug message)).2 := by
  have written := writeTo_draws sound target envelope.correlation envelope.message
  split
  next fault server wrote =>
    rw [wrote] at written
    exact written
  next server wrote =>
    rw [wrote] at written
    exact written.trans (.same written.sound rfl (.tells _ _) id)

omit [Wire α] in
theorem sendResponse_draws (sound : server.exchange.Sound) (target : Option ClientId) :
    server.Draws (server.sendResponse target).2 := by
  unfold sendResponse
  cases target with
  | none =>
    have drawn := picksResponse_draws sound .oldest
    dsimp only [Pick.take] at drawn ⊢
    generalize server.exchange.withResponses Queues.pop = taken at drawn ⊢
    obtain ⟨_ | response, exchange⟩ := taken
    · exact drawn
    · exact drawn.trans (relays_draws drawn.sound response _ _)
  | some client =>
    have drawn := picksResponse_draws sound (.oldestOf client)
    dsimp only [Pick.take] at drawn ⊢
    generalize server.exchange.withResponses (Queues.popFrom client) = taken at drawn ⊢
    obtain ⟨_ | response, exchange⟩ := taken
    · exact drawn
    · exact drawn.trans (relays_draws drawn.sound response _ _)

omit [Wire β] in
theorem forwardRequest_draws (sound : server.exchange.Sound) (target : ClientId) :
    server.Draws (server.forwardRequest target).2 := by
  have drawn := picksRequest_draws sound .oldest
  unfold forwardRequest
  dsimp only [Pick.take] at drawn ⊢
  generalize server.exchange.withRequests Queues.pop = taken at drawn ⊢
  obtain ⟨_ | request, exchange⟩ := taken
  · exact drawn
  · exact drawn.trans (relays_draws drawn.sound request _ _)

omit [Wire α] in
theorem answer_draws (sound : server.exchange.Sound) (handler : Handler α β)
    (request : Envelope α) : server.Draws (server.answer handler request).2 := by
  unfold answer
  split
  next => exact .refl sound
  next response _ =>
    have queued := queuesResponse_draws sound ⟨request.client, request.correlation, response⟩
    have sent := queued.trans (sendResponse_draws queued.sound (some request.client))
    dsimp only
    split <;> rename_i found <;> rw [found] at sent <;> exact sent

omit [Wire α] in
theorem complete_draws (sound : server.exchange.Sound) (purpose : Purpose α β)
    (request : Envelope α) : server.Draws (server.complete purpose request).2 := by
  cases purpose with
  | take => exact .refl sound
  | answer handler => exact answer_draws sound handler request

omit [Wire α] [Wire β] in
theorem attend_place_draws {ticket : Ticket} {found : Option (Envelope α)}
    {place after : Awaited (Queues α)} (sound : server.exchange.Sound)
    (same : place.queue = server.exchange.requests.queue)
    (attended : place.attend ticket = (found, after)) :
    server.Draws { server with exchange := { server.exchange with requests := after } } := by
  obtain ⟨rest, kept⟩ := requests_of_attend (same ▸ sound.requests) attended
  refine ⟨⟨kept, sound.responses⟩, ?_, .refl _, id⟩
  rw [← same, rest]
  exact List.sublist_append_right _ _

omit [Wire α] in
theorem begin_draws (sound : server.exchange.Sound) (purpose : Purpose α β)
    (timeout : Duration) : server.Draws (server.begin purpose timeout).2 := by
  unfold begin
  dsimp only
  cases attended : server.exchange.requests.attend server.tickets with
  | mk found requests =>
    have drawn := attend_place_draws sound rfl attended
    cases found with
    | none => exact drawn.trans (.same drawn.sound rfl (.refl _) id)
    | some request =>
      have counted : server.Draws { server with
          exchange := { server.exchange with requests }, tickets := server.tickets + 1 } :=
        drawn.trans (.same drawn.sound rfl (.refl _) id)
      exact counted.trans (complete_draws counted.sound purpose request)

omit [Wire α] in
theorem attend_draws (sound : server.exchange.Sound) (call : Call α β) :
    server.Draws (server.attend call).2 := by
  unfold attend
  split
  next woken =>
    unfold Awaited.wake
    cases attended : Awaited.attend call.ticket
        ⟨server.exchange.requests.queue, server.exchange.requests.bell.rouse call.ticket⟩ with
    | mk found requests =>
      have drawn := attend_place_draws sound (by rfl) attended
      cases found with
      | none => exact drawn
      | some request =>
        have completed := drawn.trans (complete_draws drawn.sound call.purpose request)
        exact completed.trans (.same completed.sound rfl (.refl _) id)
  next => exact .refl sound

omit [Wire α] [Wire β] in
theorem quit_draws (sound : server.exchange.Sound) (ticket : Ticket) :
    server.Draws (server.quit ticket) :=
  ⟨⟨sound.requests, sound.responses⟩, List.Sublist.refl _, .refl _, id⟩

omit [Wire α] in
theorem lapse_draws (sound : server.exchange.Sound) (call : Call α β) :
    server.Draws (server.lapse call).2 := by
  have attended := attend_draws sound call
  unfold lapse
  split
  next found =>
    rw [found] at attended
    exact attended
  next found =>
    rw [found] at attended
    exact attended.trans (quit_draws attended.sound call.ticket)

theorem use_draws (sound : server.exchange.Sound) (use : Use α β)
    (takes : ∀ envelope, use ≠ .queuesRequest envelope) : server.Draws (server.use use) := by
  cases use with
  | queuesRequest envelope => exact absurd rfl (takes envelope)
  | picksRequest pick => exact picksRequest_draws sound pick
  | queuesResponse envelope => exact queuesResponse_draws sound envelope
  | picksResponse pick => exact picksResponse_draws sound pick
  | locates client => exact .same sound rfl (.locates client server.board) id
  | writes channel message => exact .same sound rfl (.carries channel message server.board) id
  | sendsResponse target => exact sendResponse_draws sound target
  | forwardsRequest target => exact forwardRequest_draws sound target
  | begins purpose timeout => exact begin_draws sound purpose timeout
  | attends ticket =>
    unfold Server.use
    dsimp only
    split
    next call _ => exact attend_draws sound call
    next => exact .refl sound
  | lapses ticket =>
    unfold Server.use
    dsimp only
    split
    next call _ =>
      have later : server.Draws { server with now := max server.now call.deadline } :=
        .same sound rfl (.refl _) id
      exact later.trans (lapse_draws later.sound call)
    next => exact .refl sound
  | cancels ticket =>
    unfold Server.use cancel
    dsimp only
    split
    next => exact .refl sound
    next => exact quit_draws sound ticket

end Server

end FrameLink.Host
