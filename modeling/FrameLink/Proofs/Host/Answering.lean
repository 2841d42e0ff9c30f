import FrameLink.Proofs.Host.Sending
/-!
What a client gets when a host answers the next request. The handler's response goes behind the ones
that are queued, and the oldest response for that client is sent; so a client to whom an older one is
queued gets that, and the handler's stays.
-/

namespace FrameLink.Host

def Envelope.reply {α β : Type} (request : Envelope α) (response : β) : Envelope β :=
  ⟨request.client, request.correlation, response⟩

theorem Envelope.isFor_reply {α β : Type} (request : Envelope α) (response : β) :
    (request.reply response).isFor (some request.client) = true := beq_self_eq_true _

namespace Server

open Wait

variable {α β : Type}

/-- The oldest request leaves the queue, and no response, client or channel is touched. -/
structure Takes (server : Server α β) (request : Envelope α) (taken : Server α β) : Prop where
  requests : server.exchange.requests.queue.messages =
    request :: taken.exchange.requests.queue.messages
  responses : taken.exchange.responses = server.exchange.responses
  board : taken.board = server.board
  frameLimit : taken.frameLimit = server.frameLimit

variable [Wire β] {server after : Server α β} {handler : Handler α β} {client : ClientId}

/-- The ways in which a call that answers the next request ends: a request is here at once, the call is
woken for one, or its deadline comes. -/
inductive Handles (handler : Handler α β) (server : Server α β) (outcome : Except Error ClientId)
    (after : Server α β) : Prop
  | atOnce (timeout : Duration)
      (begun : server.begin (.answer handler) timeout = (some (.answered outcome), after))
  | woken (call : Call α β) (purpose : call.purpose = .answer handler)
      (attended : server.attend call = (some (.answered outcome), after))
  | atDeadline (call : Call α β) (purpose : call.purpose = .answer handler)
      (lapsed : server.lapse call = (.answered outcome, after))

theorem complete_answer {request : Envelope α} {outcome : Except Error ClientId}
    (completed : server.complete (.answer handler) request = (.answered outcome, after)) :
    server.answer handler request = (outcome, after) := by
  unfold complete at completed
  cases answered : server.answer handler request with
  | mk told answered =>
    simp only [answered] at completed
    cases completed
    rfl

theorem attend_takes (sound : server.exchange.requests.queue.Sound) {call : Call α β}
    (purpose : call.purpose = .answer handler) {outcome : Except Error ClientId}
    (attended : server.attend call = (some (.answered outcome), after)) :
    ∃ request taken answered, server.Takes request taken ∧
      taken.answer handler request = (outcome, answered) ∧ after = answered.remove call.ticket := by
  unfold attend at attended
  split at attended
  next woken =>
    unfold Awaited.wake at attended
    cases looked : Awaited.attend call.ticket
        ⟨server.exchange.requests.queue, server.exchange.requests.bell.rouse call.ticket⟩ with
    | mk found requests =>
      obtain ⟨rest, _⟩ := requests_of_attend (by exact sound) looked
      simp only [looked] at attended
      cases found with
      | none => cases attended
      | some request =>
        dsimp only at attended
        rw [purpose] at attended
        cases completed : complete (.answer handler) request
            { server with exchange.requests := requests } with
        | mk told answered =>
          simp only [completed] at attended
          cases attended
          refine ⟨request, _, answered, ?_, complete_answer completed, rfl⟩
          exact ⟨rest, rfl, rfl, rfl⟩
  next => cases attended

theorem begin_takes (sound : server.exchange.requests.queue.Sound) {timeout : Duration}
    {outcome : Except Error ClientId}
    (begun : server.begin (.answer handler) timeout = (some (.answered outcome), after)) :
    ∃ request taken, server.Takes request taken ∧
      taken.answer handler request = (outcome, after) := by
  unfold begin at begun
  dsimp only at begun
  cases looked : server.exchange.requests.attend server.tickets with
  | mk found requests =>
    obtain ⟨rest, _⟩ := requests_of_attend sound looked
    simp only [looked] at begun
    cases found with
    | none => cases begun
    | some request =>
      dsimp only at begun
      cases completed : complete (.answer handler) request
          { server with exchange.requests := requests, tickets := server.tickets + 1 } with
      | mk told answered =>
        simp only [completed] at begun
        cases begun
        refine ⟨request, _, ?_, complete_answer completed⟩
        exact ⟨rest, rfl, rfl, rfl⟩

/-- A call that ends well at its deadline has found a request there. -/
theorem attend_of_lapse {call : Call α β} (purpose : call.purpose = .answer handler)
    (lapsed : server.lapse call = (.answered (.ok client), after)) :
    server.attend call = (some (.answered (.ok client)), after) := by
  unfold lapse at lapsed
  cases attended : server.attend call with
  | mk outcome left =>
    cases outcome with
    | some outcome =>
      simp only [attended] at lapsed
      cases lapsed
      rfl
    | none =>
      simp only [attended, purpose, timedOut] at lapsed
      cases lapsed

theorem Handles.takes (sound : server.exchange.requests.queue.Sound)
    (handles : Handles handler server (.ok client) after) :
    ∃ request taken answered, server.Takes request taken ∧
      taken.answer handler request = (.ok client, answered) ∧
      after.exchange = answered.exchange ∧ after.board = answered.board := by
  cases handles with
  | atOnce timeout begun =>
    obtain ⟨request, taken, takes, answered⟩ := begin_takes sound begun
    exact ⟨request, taken, after, takes, answered, rfl, rfl⟩
  | woken call purpose attended =>
    obtain ⟨request, taken, answered, takes, told, rfl⟩ := attend_takes sound purpose attended
    exact ⟨request, taken, answered, takes, told, rfl, rfl⟩
  | atDeadline call purpose lapsed =>
    obtain ⟨request, taken, answered, takes, told, rfl⟩ :=
      attend_takes sound purpose (attend_of_lapse purpose lapsed)
    exact ⟨request, taken, answered, takes, told, rfl, rfl⟩

def respond (request : Envelope α) (response : β) (server : Server α β) : Server α β :=
  { server with exchange := server.exchange.queueResponse (request.reply response) }

omit [Wire β] in
theorem responses_respond (sound : server.exchange.responses.Sound) (request : Envelope α)
    (response : β) :
    (server.respond request response).exchange.responses.Sound ∧
    (server.respond request response).exchange.responses.messages =
      server.exchange.responses.messages ++ [request.reply response] :=
  ⟨sound.push _, sound.messages_push _⟩

theorem answer_sends [Wire.Lawful β] (sound : server.exchange.responses.Sound)
    {request : Envelope α} (answered : server.answer handler request = (.ok client, after)) :
    client = request.client ∧ ∃ response sent,
      handler client request.message = .ok response ∧
      Sends (server.respond request response) (some client) sent (.ok (some sent.client)) after := by
  unfold answer at answered
  cases handled : handler request.client request.message with
  | error fault =>
    simp only [handled] at answered
    cases answered
  | ok response =>
    obtain ⟨kept, queued⟩ := responses_respond sound request response
    have present : ((server.respond request response).exchange.responses.messages.find?
        fun other => other.isFor (some request.client)).isSome := by
      rw [queued, List.find?_isSome]
      exact ⟨_, List.mem_append_right _ (List.mem_singleton_self _), request.isFor_reply response⟩
    obtain ⟨sent, found⟩ := Option.isSome_iff_exists.mp present
    have sends := sendResponse_sends kept found
    cases told : (server.respond request response).sendResponse (some request.client) with
    | mk outcome last =>
      rw [told] at sends
      simp only [respond, Envelope.reply] at told
      simp only [handled, told] at answered
      cases outcome with
      | error fault => cases answered
      | ok named =>
        cases answered
        have delivers := sends.delivers
        cases delivers
        exact ⟨rfl, response, sent, handled, sends⟩

/-- How a request is answered: it was the oldest, and the oldest response for its client, among those
queued and the handler's behind them, is in that client's channel. -/
structure Answers (handler : Handler α β) (server : Server α β) (request : Envelope α) (response : β)
    (sent : Envelope β) (after : Server α β) : Prop where
  oldest : server.exchange.requests.queue.messages =
    request :: after.exchange.requests.queue.messages
  handled : handler request.client request.message = .ok response
  chosen : ((server.exchange.responses.messages ++ [request.reply response]).find? fun other =>
    other.isFor (some request.client)) = some sent
  others : after.exchange.responses.messages =
    (server.exchange.responses.messages ++ [request.reply response]).eraseP fun other =>
      other.isFor (some request.client)
  registry : after.board.registry = server.board.registry
  delivers : Delivers server.frameLimit server.board sent (.ok (some request.client))
    after.board.channels

theorem Handles.answers [Wire.Lawful β] (requests : server.exchange.requests.queue.Sound)
    (responses : server.exchange.responses.Sound)
    (handles : Handles handler server (.ok client) after) :
    ∃ request response sent, request.client = client ∧
      Answers handler server request response sent after := by
  obtain ⟨request, taken, answered, takes, told, exchange, board⟩ := handles.takes requests
  obtain ⟨rfl, response, sent, handled, sends⟩ := answer_sends (takes.responses ▸ responses) told
  obtain ⟨_, queued⟩ := responses_respond (takes.responses ▸ responses) request response
  rw [takes.responses] at queued
  refine ⟨request, response, sent, rfl, ?_, handled, ?_, ?_, ?_, ?_⟩
  · rw [exchange, sends.requests]
    exact takes.requests
  · exact queued ▸ sends.oldest
  · rw [exchange, sends.others, queued]
  · rw [board, sends.registry]
    exact congrArg Switchboard.registry takes.board
  · have own : sent.client = request.client := eq_of_beq (List.find?_some sends.oldest :)
    have delivers : Delivers taken.frameLimit taken.board sent (.ok (some sent.client))
        answered.board.channels := sends.delivers
    rwa [takes.frameLimit, takes.board, own, ← board] at delivers

/-- A call that answers the next request and tells a client has taken exactly the oldest request, from
that client, and written exactly one message, to that client: its oldest response, where the handler's
stands behind those that were queued. That is the handler's response to the request if none was queued
for the client; else it is an older one, and the handler's response is still queued. -/
theorem answered_with_oldest_response [Wire.Lawful β]
    (requests : server.exchange.requests.queue.Reached)
    (responses : server.exchange.responses.Reached)
    (handles : Handles handler server (.ok client) after) :
    ∃ request response sent, request.client = client ∧
      Answers handler server request response sent after ∧
      ((∀ other ∈ server.exchange.responses.messages, other.client ≠ client) →
        sent = request.reply response ∧
          after.exchange.responses.messages = server.exchange.responses.messages) ∧
      ∀ older, (server.exchange.responses.messages.find? fun other => other.isFor (some client)) =
          some older →
        sent = older ∧ after.exchange.responses.messages =
          (server.exchange.responses.messages.eraseP fun other => other.isFor (some client)) ++
            [request.reply response] := by
  obtain ⟨request, response, sent, rfl, answers⟩ := handles.answers (.ofReached requests)
    (.ofReached responses)
  have chosen := answers.chosen
  have others := answers.others
  refine ⟨request, response, sent, rfl, answers, ?_, ?_⟩
  · intro alone
    have apart : ∀ other ∈ server.exchange.responses.messages,
        ¬other.isFor (some request.client) = true :=
      fun other member own => alone other member (beq_iff_eq.mp own)
    rw [List.find?_append, List.find?_eq_none.mpr apart, Option.none_or,
      List.find?_cons_of_pos (request.isFor_reply response)] at chosen
    rw [List.eraseP_append_right _ apart, List.eraseP_cons_of_pos (request.isFor_reply response),
      List.append_nil] at others
    exact ⟨(Option.some.inj chosen).symm, others⟩
  · intro older found
    rw [List.find?_append, found, Option.some_or] at chosen
    rw [List.eraseP_append_left (List.find?_some found) _ (List.mem_of_find?_eq_some found)] at others
    exact ⟨(Option.some.inj chosen).symm, others⟩

/-- A host of two clients, with a request from the first and the responses given. -/
def asked (responses : List (Act Bytes)) : Server Bytes Bytes where
  exchange.requests := ⟨(answers Queues.perform [.push ⟨.ofNat 1, ⟨7⟩, [42]⟩] {}).2, {}⟩
  exchange.responses := (answers Queues.perform responses {}).2
  board.registry := some ⟨[⟨.ofNat 1, ⟨.loopback, 50000⟩, 0, 0⟩, ⟨.ofNat 2, ⟨.loopback, 50001⟩, 1, 0⟩]⟩
  board.channels := ⟨[(0, []), (1, [])], 2⟩

/-- With a response queued for the other client only, the first gets the one to its request. -/
theorem own_response_sent :
    let server := asked [.push ⟨.ofNat 2, ⟨3⟩, [1]⟩]
    let after := (server.begin (.answer fun _ message => .ok message) .zero).2
    ∃ request response sent,
      Answers (fun _ message => .ok message) server request response sent after ∧
      sent = request.reply response ∧
      after.exchange.responses.messages = server.exchange.responses.messages := by
  intro server after
  have handles : Handles (fun _ message => .ok message) server (.ok (.ofNat 1)) after :=
    .atOnce .zero rfl
  obtain ⟨request, response, sent, _, answers, own, _⟩ :=
    answered_with_oldest_response ⟨_, rfl⟩ ⟨_, rfl⟩ handles
  exact ⟨request, response, sent, answers, own (by decide +kernel)⟩

/-- With an older response queued for the client, that is written to it, under the older number, and the
response to the request is queued in its place. -/
theorem older_response_sent_instead :
    let server := asked [.push ⟨.ofNat 1, ⟨3⟩, [1]⟩]
    let after := (server.begin (.answer fun _ message => .ok message) .zero).2
    Handles (fun _ message => .ok message) server (.ok (.ofNat 1)) after ∧
      server.exchange.requests.queue.messages = [⟨.ofNat 1, ⟨7⟩, [42]⟩] ∧
      server.exchange.responses.messages = [⟨.ofNat 1, ⟨3⟩, [1]⟩] ∧
      after.board.channels.at? 0 = some [Wire.encode (Frame.mk ⟨3⟩ ([1] : Bytes))] ∧
      after.exchange.responses.messages = [⟨.ofNat 1, ⟨7⟩, [42]⟩] := by
  intro server after
  exact ⟨.atOnce .zero rfl, by decide +kernel, by decide +kernel, by decide +kernel,
    by decide +kernel⟩

end Server

end FrameLink.Host
