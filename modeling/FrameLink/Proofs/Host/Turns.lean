import FrameLink.Host.Echo
import FrameLink.Proofs.Host.Channels
/-!
What one turn of an application that echoes can do, in terms of the messages that are queued. It never
touches a socket, the registry or the settings. With nothing in between, its turns amount to what the
server does when it answers a request.
-/

namespace FrameLink.Host

open Wait

variable {α β : Type}

theorem look_messages {place : Awaited (Queues α)} (sound : place.queue.Sound) :
    place.look.1 = place.queue.messages.head? ∧ place.look.2.queue.Sound ∧
      place.look.2.queue.messages = place.queue.messages.tail :=
  ⟨sound.pop_eq, sound.pop, sound.messages_pop⟩

theorem queue_park (place : Awaited (Queues α)) (ticket : Ticket) :
    (place.park ticket).2.queue = place.queue := rfl

theorem attend_messages {place : Awaited (Queues α)} (sound : place.queue.Sound) (ticket : Ticket) :
    (place.attend ticket).1 = place.queue.messages.head? ∧
      (place.attend ticket).2.queue.Sound ∧
      (place.attend ticket).2.queue.messages = place.queue.messages.tail := by
  obtain ⟨first, kept, rest⟩ := look_messages sound
  unfold Awaited.attend
  split
  next item left looked =>
    rw [looked] at first kept rest
    exact ⟨first, kept, rest⟩
  next left looked =>
    rw [looked] at first kept rest
    have empty : place.queue.messages = [] := List.head?_eq_none_iff.mp first.symm
    rw [empty] at rest ⊢
    have same := queue_park left ticket
    split
    next waits parked =>
      rw [parked] at same
      exact ⟨rfl, same ▸ kept, same ▸ rest⟩
    next again parked =>
      rw [parked] at same
      dsimp only at same rest kept
      obtain ⟨nothing, sure, still⟩ := look_messages (same ▸ kept : again.queue.Sound)
      rw [same, rest] at nothing still
      split
      next item found looked =>
        rw [looked] at nothing
        cases nothing
      next last looked =>
        rw [looked] at sure still
        exact ⟨rfl, sure, still⟩

namespace Server

/-- A server whose calls all take a request and do no more with it. -/
def OnlyTakes (server : Server α β) : Prop := ∀ call ∈ server.calls, call.purpose = .take

structure Looks (server after : Server α β) (found : Option (Envelope α)) : Prop where
  requests : server.exchange.requests.queue.messages =
    found.toList ++ after.exchange.requests.queue.messages
  sound : after.exchange.requests.queue.Sound
  responses : after.exchange.responses = server.exchange.responses
  board : after.board = server.board
  frameLimit : after.frameLimit = server.frameLimit
  takes : after.OnlyTakes

theorem requests_of_attend {place after : Awaited (Queues α)} {ticket : Ticket}
    {found : Option (Envelope α)} (sound : place.queue.Sound)
    (attended : place.attend ticket = (found, after)) :
    place.queue.messages = found.toList ++ after.queue.messages ∧ after.queue.Sound := by
  obtain ⟨first, kept, rest⟩ := attend_messages sound ticket
  rw [attended] at first kept rest
  refine ⟨?_, kept⟩
  rw [show after.queue.messages = place.queue.messages.tail from rest,
    show found = place.queue.messages.head? from first]
  cases place.queue.messages <;> rfl

variable [Wire β]

theorem begin_looks {server : Server α β} (sound : server.exchange.requests.queue.Sound)
    (takes : server.OnlyTakes) (timeout : Duration) :
    ∃ found, Looks server (server.begin .take timeout).2 found ∧
      (server.begin .take timeout).1 = found.map fun request => .taken (.ok request) := by
  unfold begin
  dsimp only
  cases attended : server.exchange.requests.attend server.tickets with
  | mk found requests =>
    obtain ⟨rest, kept⟩ := requests_of_attend sound attended
    cases found with
    | some request => exact ⟨some request, ⟨rest, kept, rfl, rfl, rfl, takes⟩, rfl⟩
    | none =>
      refine ⟨none, ⟨rest, kept, rfl, rfl, rfl, ?_⟩, rfl⟩
      intro call member
      rcases List.mem_append.mp member with old | new
      · exact takes call old
      · rw [List.mem_singleton.mp new]

theorem attend_looks {server : Server α β} (sound : server.exchange.requests.queue.Sound)
    (takes : server.OnlyTakes) {call : Call α β} (member : call ∈ server.calls) :
    ∃ found, Looks server (server.attend call).2 found ∧
      (server.attend call).1 = found.map fun request => .taken (.ok request) := by
  have purpose := takes call member
  unfold attend
  split
  next woken =>
    unfold Awaited.wake
    cases attended : Awaited.attend call.ticket
        ⟨server.exchange.requests.queue, server.exchange.requests.bell.rouse call.ticket⟩ with
    | mk found requests =>
      obtain ⟨rest, kept⟩ := requests_of_attend (by exact sound) attended
      cases found with
      | none => exact ⟨none, ⟨rest, kept, rfl, rfl, rfl, takes⟩, rfl⟩
      | some request =>
        rw [purpose]
        refine ⟨some request, ⟨rest, kept, rfl, rfl, rfl, ?_⟩, rfl⟩
        intro other still
        exact takes other (List.mem_of_mem_filter still)
  next => exact ⟨none, ⟨rfl, sound, rfl, rfl, rfl, takes⟩, rfl⟩

theorem lapse_looks {server : Server α β} (sound : server.exchange.requests.queue.Sound)
    (takes : server.OnlyTakes) {call : Call α β} (member : call ∈ server.calls) :
    ∃ found, Looks server (server.lapse call).2 found ∧
      (server.lapse call).1 = match found with
        | some request => .taken (.ok request)
        | none => .taken (.error (.requestTimeout call.timeout)) := by
  obtain ⟨found, looks, outcome⟩ := attend_looks sound takes member
  unfold lapse
  cases attended : server.attend call with
  | mk result after =>
    rw [attended] at looks outcome
    cases found with
    | some request =>
      cases outcome
      exact ⟨some request, looks, rfl⟩
    | none =>
      cases outcome
      rw [takes call member]
      refine ⟨none, ⟨looks.requests, looks.sound, looks.responses, looks.board, looks.frameLimit,
        ?_⟩, rfl⟩
      intro other still
      exact looks.takes other (List.mem_of_mem_filter still)

omit [Wire β] in
theorem ask_of_none {server : Server α β} (ended : server.board.registry = none) {ρ : Type}
    (command : Command ρ) : server.ask command = (.error .registryUnavailable, server) := by
  simp only [ask, Switchboard.ask, ended]

omit [Wire β] in
theorem ask_channelOf {server : Server α β} {registry : Registry}
    (running : server.board.registry = some registry) (client : ClientId) :
    ∃ log, server.ask (.channelOf client) =
      (.ok (server.board.channelOf client), { server with board.log := log }) := by
  obtain ⟨exchange, ⟨_, channels, log⟩, _, _, _, _, _⟩ := server
  cases running
  exact ⟨_, rfl⟩

end Server

def Turn.IsIdle : Turn α → Prop
  | .ready | .waiting _ => True
  | _ => False

def Envelope.frame (envelope : Envelope α) : Frame α := ⟨envelope.correlation, envelope.message⟩

namespace Echo

structure Keeps (host after : Echo α) : Prop where
  settings : after.hosting.settings = host.hosting.settings
  sockets : after.hosting.sockets = host.hosting.sockets
  registry : after.hosting.server.board.registry = host.hosting.server.board.registry
  frameLimit : after.hosting.server.frameLimit = host.hosting.server.frameLimit
  sound : after.hosting.Sound
  takes : after.hosting.server.OnlyTakes

/-- What a turn makes of the requests and responses that wait, and of the channels. -/
inductive Goes [Wire α] (host : Echo α) : Line α → Line α → Channels → Turn α → Prop
  | takes (request : Envelope α) (rest : Line α) (idle : host.turn.IsIdle)
      (first : host.hosting.requests = request :: rest) :
    Goes host rest host.hosting.responses host.hosting.server.board.channels (.answering request)
  | waits (turn : Turn α) (idle : host.turn.IsIdle) (still : turn.IsIdle) :
    Goes host host.hosting.requests host.hosting.responses host.hosting.server.board.channels turn
  | responds (request : Envelope α) (own : host.turn = .answering request) :
    Goes host host.hosting.requests (host.hosting.responses ++ [request])
      host.hosting.server.board.channels (.responding request.client)
  | fetches (client : ClientId) (response : Envelope α) (own : host.turn = .responding client)
      (found : (host.hosting.responses.find? fun envelope => envelope.client == client) =
        some response) :
    Goes host host.hosting.requests
      (host.hosting.responses.eraseP fun envelope => envelope.client == client)
      host.hosting.server.board.channels (.sending response)
  | finds (client : ClientId) (own : host.turn = .responding client)
      (absent : (host.hosting.responses.find? fun envelope => envelope.client == client) = none) :
    Goes host host.hosting.requests host.hosting.responses host.hosting.server.board.channels .ready
  | addresses (response : Envelope α) (channel : Nat) (own : host.turn = .sending response)
      (fits : Wire.size response.frame ≤ host.hosting.server.frameLimit)
      (known : host.hosting.server.board.channelOf response.client = some channel) :
    Goes host host.hosting.requests host.hosting.responses host.hosting.server.board.channels
      (.writing response channel (Wire.encode response.frame))
  | misses (response : Envelope α) (own : host.turn = .sending response)
      (unknown : host.hosting.server.board.channelOf response.client = none) :
    Goes host host.hosting.requests host.hosting.responses host.hosting.server.board.channels .ready
  | fails (response : Envelope α) (fault : Error) (own : host.turn = .sending response)
      (reason : host.hosting.server.frameLimit < Wire.size response.frame ∨
        host.hosting.server.board.registry = none) :
    Goes host host.hosting.requests host.hosting.responses host.hosting.server.board.channels
      (.stopped fault)
  | writes (response : Envelope α) (channel : Nat) (bytes : Bytes)
      (own : host.turn = .writing response channel bytes) :
    Goes host host.hosting.requests host.hosting.responses
      (host.hosting.server.board.channels.write channel bytes).2 .ready

theorem conclude_ready {outcome : Except Error ClientId} (host : Echo α)
    (passes : (∃ client, outcome = .ok client) ∨ (∃ span, outcome = .error (.requestTimeout span)) ∨
      ∃ client, outcome = .error (.clientNotFound client)) :
    ∃ log, host.conclude outcome =
      { hosting := { host.hosting with server.board.log := log }, turn := .ready } := by
  obtain ⟨client, rfl⟩ | ⟨span, rfl⟩ | ⟨client, rfl⟩ := passes <;> exact ⟨_, rfl⟩

variable [Wire α] {host : Echo α}

/-- What a turn does to a host, seen from the queues. -/
def Proceeds (host after : Echo α) : Prop :=
  Keeps host after ∧ Goes host after.hosting.requests after.hosting.responses
    after.hosting.server.board.channels after.turn

theorem respond_proceeds (sound : host.hosting.Sound) (takes : host.hosting.server.OnlyTakes)
    {request : Envelope α} (own : host.turn = .answering request) :
    Proceeds host (host.respond request) := by
  refine ⟨⟨rfl, rfl, rfl, rfl, ⟨sound.requests, sound.responses.push _⟩, takes⟩, ?_⟩
  have queued : (host.respond request).hosting.responses = host.hosting.responses ++ [request] :=
    sound.responses.messages_push request
  rw [queued]
  exact .responds request own

theorem fetch_proceeds (sound : host.hosting.Sound) (takes : host.hosting.server.OnlyTakes)
    {client : ClientId} (own : host.turn = .responding client) :
    Proceeds host (host.fetch client) := by
  have found := sound.responses.popFrom_eq client
  have left := sound.responses.messages_popFrom client
  have kept := sound.responses.popFrom client
  unfold fetch Exchange.withResponses
  cases popped : host.hosting.server.exchange.responses.popFrom client with
  | mk response responses =>
    rw [popped] at found left kept
    cases response with
    | none =>
      refine ⟨⟨rfl, rfl, rfl, rfl, ⟨sound.requests, kept⟩, takes⟩, ?_⟩
      have same : responses.messages = host.hosting.responses := by
        refine left.trans (List.eraseP_of_forall_not ?_)
        simpa using List.find?_eq_none.mp found.symm
      change Goes host _ responses.messages _ _
      rw [same]
      exact .finds client own found.symm
    | some response =>
      refine ⟨⟨rfl, rfl, rfl, rfl, ⟨sound.requests, kept⟩, takes⟩, ?_⟩
      change Goes host _ responses.messages _ _
      rw [show responses.messages = _ from left]
      exact .fetches client response own found.symm

theorem address_proceeds (sound : host.hosting.Sound) (takes : host.hosting.server.OnlyTakes)
    {response : Envelope α} (own : host.turn = .sending response) :
    Proceeds host (host.address response) := by
  unfold address
  by_cases fits : Wire.size response.frame ≤ host.hosting.server.frameLimit
  · have written : (Frame.mk response.correlation response.message).encode
        host.hosting.server.frameLimit = .ok (Wire.encode response.frame) := if_pos fits
    rw [written]
    cases running : host.hosting.server.board.registry with
    | none =>
      rw [Server.ask_of_none running]
      exact ⟨⟨rfl, rfl, rfl, rfl, sound, takes⟩, .fails response _ own (.inr running)⟩
    | some registry =>
      obtain ⟨log, asked⟩ := Server.ask_channelOf running response.client
      rw [asked]
      cases known : host.hosting.server.board.channelOf response.client with
      | none =>
        obtain ⟨said, same⟩ := conclude_ready _ (.inr (.inr ⟨response.client, rfl⟩))
        dsimp only
        rw [same]
        exact ⟨⟨rfl, rfl, rfl, rfl, ⟨sound.requests, sound.responses⟩, takes⟩,
          .misses response own known⟩
      | some channel =>
        exact ⟨⟨rfl, rfl, rfl, rfl, ⟨sound.requests, sound.responses⟩, takes⟩,
          .addresses response channel own fits known⟩
  · have oversized : (Frame.mk response.correlation response.message).encode
        host.hosting.server.frameLimit =
          .error (.tooLarge (Wire.size response.frame) host.hosting.server.frameLimit) := if_neg fits
    rw [oversized]
    exact ⟨⟨rfl, rfl, rfl, rfl, sound, takes⟩, .fails response _ own (.inl (not_le.mp fits))⟩

theorem write_proceeds (sound : host.hosting.Sound) (takes : host.hosting.server.OnlyTakes)
    {response : Envelope α} {channel : Nat} {bytes : Bytes}
    (own : host.turn = .writing response channel bytes) :
    Proceeds host (host.write response channel bytes) := by
  unfold write
  dsimp only
  split
  next taken =>
    obtain ⟨log, same⟩ := conclude_ready _ (.inl ⟨response.client, rfl⟩)
    rw [same]
    exact ⟨⟨rfl, rfl, rfl, rfl, ⟨sound.requests, sound.responses⟩, takes⟩,
      .writes response channel bytes own⟩
  next refused =>
    obtain ⟨log, same⟩ := conclude_ready _ (.inr (.inr ⟨response.client, rfl⟩))
    rw [same]
    exact ⟨⟨rfl, rfl, rfl, rfl, ⟨sound.requests, sound.responses⟩, takes⟩,
      .writes response channel bytes own⟩

theorem looks_proceeds {server : Server α α} {found : Option (Envelope α)} {turn : Turn α}
    (sound : host.hosting.Sound) (idle : host.turn.IsIdle)
    (looks : Server.Looks host.hosting.server server found)
    (next : ∀ request, found = some request → turn = .answering request)
    (still : found = none → turn.IsIdle) :
    Proceeds host { hosting := { host.hosting with server }, turn } := by
  refine ⟨⟨rfl, rfl, ?_, looks.frameLimit, ⟨looks.sound, ?_⟩, looks.takes⟩, ?_⟩
  · exact congrArg Switchboard.registry looks.board
  · exact looks.responses.symm ▸ sound.responses
  have requests := looks.requests
  have responses : (Hosting.mk server host.hosting.settings host.hosting.sockets).responses =
      host.hosting.responses := congrArg Queues.messages looks.responses
  have channels : server.board.channels = host.hosting.server.board.channels :=
    congrArg Switchboard.channels looks.board
  dsimp only
  rw [responses, channels]
  cases found with
  | none =>
    rw [Option.toList_none, List.nil_append] at requests
    have same : (Hosting.mk server host.hosting.settings host.hosting.sockets).requests =
      host.hosting.requests := requests.symm
    rw [same]
    exact .waits turn idle (still rfl)
  | some request =>
    rw [next request rfl]
    exact .takes request _ idle requests

theorem goOn?_proceeds {after : Echo α} (sound : host.hosting.Sound)
    (takes : host.hosting.server.OnlyTakes) (step : host.goOn? = some after) :
    Proceeds host after := by
  unfold goOn? at step
  split at step
  next ready =>
    have idle : host.turn.IsIdle := by rw [ready]; trivial
    obtain ⟨found, looks, outcome⟩ := Server.begin_looks sound.requests takes span
    dsimp only at step
    cases begun : host.hosting.server.begin .take span with
    | mk result server =>
      rw [begun] at step looks outcome
      cases found with
      | none =>
        cases outcome
        cases step
        exact looks_proceeds sound idle looks (by simp) fun _ => trivial
      | some request =>
        cases outcome
        cases step
        exact looks_proceeds sound idle looks (by simp) (by simp)
  next ticket waiting =>
    have idle : host.turn.IsIdle := by rw [waiting]; trivial
    simp only [Option.bind_eq_bind, Option.bind_eq_some_iff] at step
    obtain ⟨call, known, step⟩ := step
    obtain ⟨found, looks, outcome⟩ := Server.attend_looks sound.requests takes
      (List.mem_of_find?_eq_some known)
    cases attended : host.hosting.server.attend call with
    | mk result server =>
      rw [attended] at step looks outcome
      cases found with
      | none =>
        cases outcome
        cases step
        exact looks_proceeds sound idle looks (by simp) fun _ => idle
      | some request =>
        cases outcome
        cases step
        exact looks_proceeds sound idle looks (by simp) (by simp)
  next request own =>
    cases step
    exact respond_proceeds sound takes own
  next client own =>
    cases step
    exact fetch_proceeds sound takes own
  next response own =>
    cases step
    exact address_proceeds sound takes own
  next response channel bytes own =>
    cases step
    exact write_proceeds sound takes own
  next => cases step

theorem lapse?_proceeds {after : Echo α} (sound : host.hosting.Sound)
    (takes : host.hosting.server.OnlyTakes) (step : host.lapse? = some after) :
    Proceeds host after := by
  unfold lapse? at step
  split at step
  next ticket waiting =>
    have idle : host.turn.IsIdle := by rw [waiting]; trivial
    simp only [Option.bind_eq_bind, Option.bind_eq_some_iff] at step
    obtain ⟨call, known, step⟩ := step
    have due : Server.OnlyTakes { host.hosting.server with now := call.deadline } := takes
    obtain ⟨found, looks, outcome⟩ := Server.lapse_looks (by exact sound.requests) due
      (List.mem_of_find?_eq_some known)
    cases lapsed : { host.hosting.server with now := call.deadline }.lapse call with
    | mk result server =>
      rw [lapsed] at step looks outcome
      have late : Server.Looks host.hosting.server server found :=
        ⟨looks.requests, looks.sound, looks.responses, looks.board, looks.frameLimit, looks.takes⟩
      cases found with
      | none =>
        cases outcome
        cases step
        exact looks_proceeds sound idle late (by simp) fun _ => trivial
      | some request =>
        cases outcome
        cases step
        exact looks_proceeds sound idle late (by simp) (by simp)
  next => cases step

/-! ### Turns with nothing in between -/

def turns (count : Nat) (host : Echo α) : Echo α := host.run (List.replicate count .goesOn)

theorem turns_succ {host after : Echo α} (step : host.goOn? = some after) (count : Nat) :
    host.turns (count + 1) = after.turns count := by
  unfold turns run
  rw [List.replicate_succ, List.foldl_cons, step?, step]
  rfl

/-- What the application does with a response at hand is what the server does when it writes it. -/
theorem turns_of_sending (hosting : Hosting α α) (response : Envelope α) :
    ∃ count, (Echo.mk hosting (.sending response)).turns count =
      match hosting.server.writeTo response.client response.correlation response.message with
      | (.error fault, server) => (Echo.mk { hosting with server } .ready).conclude (.error fault)
      | (.ok (), server) =>
        let told := server.say .debug
          s!"📤 Response {response.correlation.text} sent to client {response.client.text}"
        (Echo.mk { hosting with server := told } .ready).conclude (.ok response.client) := by
  have first : (Echo.mk hosting (.sending response)).goOn? =
    some ((Echo.mk hosting (.sending response)).address response) := rfl
  unfold Server.writeTo Switchboard.write
  unfold address Server.ask at first
  cases written : (Frame.mk response.correlation response.message).encode
      hosting.server.frameLimit with
  | error fault =>
    rw [written] at first
    exact ⟨1, turns_succ first 0⟩
  | ok bytes =>
    rw [written] at first
    dsimp only at first ⊢
    cases asked : hosting.server.board.ask (.channelOf response.client) with
    | mk reply board =>
      rw [asked] at first
      cases reply with
      | error fault => exact ⟨1, turns_succ first 0⟩
      | ok known =>
        cases known with
        | none => exact ⟨1, turns_succ first 0⟩
        | some channel =>
          refine ⟨2, (turns_succ first 1).trans ((turns_succ rfl 0).trans ?_)⟩
          unfold withServer write turns Channels.write
          dsimp only
          cases taken : board.channels.isRead channel with
          | true => rfl
          | false => rfl

/-- Left alone with a request, the application does in a few turns what the server does when it
answers a request with the payload of that request. -/
theorem turns_of_answering (hosting : Hosting α α) (request : Envelope α)
    (sound : hosting.Sound) :
    ∃ count, (Echo.mk hosting (.answering request)).turns count =
      match hosting.server.answer echo request with
      | (outcome, server) => (Echo.mk { hosting with server } .ready).conclude outcome := by
  unfold Server.answer Server.sendResponse Exchange.withResponses
  dsimp only [echo]
  have found := (sound.responses.push request).popFrom_eq request.client
  cases popped : Queues.popFrom request.client
      (hosting.server.exchange.responses.push request) with
  | mk taken responses =>
    rw [popped] at found
    have first : (Echo.mk hosting (.answering request)).goOn? =
      some ((Echo.mk hosting (.answering request)).respond request) := rfl
    have second : ((Echo.mk hosting (.answering request)).respond request).goOn? =
      some (((Echo.mk hosting (.answering request)).respond request).fetch request.client) := rfl
    unfold respond fetch Exchange.withResponses withServer at second
    dsimp only [echo, Exchange.queueResponse] at second popped ⊢
    rw [popped] at second ⊢
    cases taken with
    | none => exact ⟨2, (turns_succ first 1).trans (turns_succ second 0)⟩
    | some response =>
      have own : response.client = request.client := by
        have same := List.find?_some found.symm
        exact eq_of_beq same
      obtain ⟨count, sent⟩ := turns_of_sending
        { hosting with server.exchange.responses := responses } response
      refine ⟨count + 2, (turns_succ first _).trans ((turns_succ second _).trans (sent.trans ?_))⟩
      dsimp only
      cases wrote : Server.writeTo response.client response.correlation response.message
          { hosting.server with exchange.responses := responses } with
      | mk outcome server =>
        cases outcome with
        | error fault => rfl
        | ok => rw [own]

end Echo

end FrameLink.Host
