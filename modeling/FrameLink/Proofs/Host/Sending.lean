import FrameLink.Proofs.Host.Turns
import FrameLink.Proofs.Wire.Bodies
/-!
What becomes of a response that a host sends. The oldest one leaves the queue, and either it is one
message more in the channel of the client that it names, or no channel has anything new.
-/

namespace FrameLink.Host

variable {α β γ : Type}

theorem Channels.write_unread {channel : Nat} {channels : Channels} (message : Bytes)
    (unread : channels.at? channel = none) :
    channels.write channel message = (false, channels) := by
  have nobody : channels.isRead channel = false := by rw [isRead_eq, unread, Option.isSome_none]
  have same : (channels.waiting.map fun entry =>
      if entry.1 = channel then (channel, entry.2 ++ [message]) else entry) = channels.waiting := by
    refine (List.map_congr_left fun entry member => ?_).trans channels.waiting.map_id
    rw [isRead, List.any_eq_false] at nobody
    exact if_neg fun own => nobody entry member (beq_iff_eq.mpr own)
  rw [write, nobody, same]

namespace Registry

/-- The registry that some commands lead to, the latest first. -/
def after : List (Σ ρ : Type, Command ρ) → Registry
  | [] => {}
  | ⟨_, command⟩ :: earlier => ((after earlier).handle command).2.1

/-- The channel that a client was last registered with, unless it has left since or all were closed. -/
def lastChannel (client : ClientId) : List (Σ ρ : Type, Command ρ) → Option Nat
  | [] => none
  | ⟨_, .register endpoint⟩ :: earlier =>
    if client = endpoint.id then some endpoint.channel else lastChannel client earlier
  | ⟨_, .unregister other⟩ :: earlier =>
    if client = other then none else lastChannel client earlier
  | ⟨_, .closeAll⟩ :: _ => none
  | ⟨_, .channelOf _⟩ :: earlier => lastChannel client earlier
  | ⟨_, .clients⟩ :: earlier => lastChannel client earlier

/-- Whoever registered before or left, a client is found at its latest channel. -/
theorem channel_after (client : ClientId) (commands : List (Σ ρ : Type, Command ρ)) :
    ((after commands).find? client).map (·.channel) = lastChannel client commands := by
  induction commands with
  | nil => rfl
  | cons command earlier ih =>
    obtain ⟨_, command⟩ := command
    cases command with
    | register endpoint =>
      have found := find?_register endpoint.id endpoint.remote endpoint.channel
        endpoint.connectedAt client (after earlier)
      change ((Registry.mk (((after earlier).erase endpoint.id).endpoints ++ [endpoint])).find?
        client).map (·.channel) = _
      rw [found, lastChannel, apply_ite (Option.map _), ih, Option.map_some]
    | unregister other =>
      have kept : ((after earlier).handle (.unregister other)).2.1 = (after earlier).erase other := by
        simp only [handle]
        split <;> rfl
      rw [after, kept, find?_erase, lastChannel, apply_ite (Option.map _), ih, Option.map_none]
    | channelOf _ => exact ih
    | clients => exact ih
    | closeAll => rfl

end Registry

/-- One message more waits in one channel, and the others are as before. -/
def Channels.Gains (channel : Nat) (message : Bytes) (before after : Channels) : Prop :=
  before.at? channel ≠ none ∧ ∀ other, after.at? other = (before.at? other).map fun waiting =>
    if other = channel then waiting ++ [message] else waiting

theorem Channels.gains_write {channel : Nat} {channels : Channels} {waiting : List Bytes}
    (message : Bytes) (read : channels.at? channel = some waiting) :
    channels.Gains channel message (channels.write channel message).2 :=
  ⟨by simp [read], fun other => at?_write other channel message channels⟩

namespace Server

/-- What comes of writing a frame to a client. Where it is refused nothing changes. -/
inductive Writes [Wire γ] (server : Server α β) (client : ClientId) (frame : Frame γ) :
    Except Error Unit → Server α β → Prop
  | tooLarge (exceeds : server.frameLimit < Wire.size frame) :
    Writes server client frame
      (.error (.frame (.tooLarge (Wire.size frame) server.frameLimit))) server
  | untold (fits : Wire.size frame ≤ server.frameLimit) (ended : server.board.registry = none) :
    Writes server client frame (.error .registryUnavailable) server
  | absent (fits : Wire.size frame ≤ server.frameLimit) (running : server.board.registry ≠ none)
      (unread : ∀ channel, server.board.channelOf client = some channel →
        server.board.channels.at? channel = none) :
    Writes server client frame (.error (.clientNotFound client)) server
  | arrives (channel : Nat) (waiting : List Bytes) (fits : Wire.size frame ≤ server.frameLimit)
      (known : server.board.channelOf client = some channel)
      (read : server.board.channels.at? channel = some waiting) :
    Writes server client frame (.ok ()) { server with
      board.channels := (server.board.channels.write channel (Wire.encode frame)).2 }

theorem writeTo_writes [Wire γ] (server : Server α β) (client : ClientId)
    (correlation : Correlation) (message : γ) :
    server.Writes client ⟨correlation, message⟩ (server.writeTo client correlation message).1
      (server.writeTo client correlation message).2 := by
  unfold writeTo
  by_cases fits : Wire.size (Frame.mk correlation message) ≤ server.frameLimit
  · have encoded : (Frame.mk correlation message).encode server.frameLimit =
        .ok (Wire.encode (Frame.mk correlation message)) := if_pos fits
    rw [encoded]
    unfold Switchboard.write
    obtain ⟨exchange, ⟨registry, channels, log⟩, listener, limit, calls, tickets, now⟩ := server
    cases registry with
    | none => exact .untold fits rfl
    | some registry =>
      simp only [Switchboard.ask, Registry.handle, List.append_nil]
      cases known : registry.find? client with
      | none =>
        refine .absent fits (by simp) ?_
        intro channel own
        simp [Switchboard.channelOf, known] at own
      | some endpoint =>
        have own : Switchboard.channelOf client ⟨some registry, channels, log⟩ =
            some endpoint.channel := by
          simp [Switchboard.channelOf, known]
        cases read : channels.at? endpoint.channel with
        | none =>
          simp only [Option.map_some, Channels.write_unread _ read]
          refine .absent fits (by simp) ?_
          intro channel same
          rw [own] at same
          cases same
          exact read
        | some waiting =>
          have taken : (channels.write endpoint.channel
              (Wire.encode (Frame.mk correlation message))).1 = true := by
            change channels.isRead _ = true
            rw [Channels.isRead_eq, read, Option.isSome_some]
          simp only [Option.map_some, taken]
          exact .arrives endpoint.channel waiting fits own read
  · have refused : (Frame.mk correlation message).encode server.frameLimit =
        .error (.tooLarge (Wire.size (Frame.mk correlation message)) server.frameLimit) := if_neg fits
    rw [refused]
    exact .tooLarge (not_le.mp fits)

/-- How sending a response ends, with so many bytes a frame at most: the client's own channel has one
message more, or the response is refused and no channel has. -/
inductive Delivers [Wire β] (limit : Nat) (board : Switchboard) (envelope : Envelope β) :
    Except Error (Option ClientId) → Channels → Prop
  | delivered (channel : Nat) (bytes : Bytes) (channels : Channels)
      (own : board.channelOf envelope.client = some channel)
      (gains : board.channels.Gains channel bytes channels)
      (within : bytes.length ≤ limit)
      (decodes : ∀ room : UInt64, bytes.length ≤ room.toNat →
        Frame.decode bytes room.toNat = .ok ⟨envelope.correlation, envelope.message⟩) :
    Delivers limit board envelope (.ok (some envelope.client)) channels
  | tooLarge (exceeds : limit < (Wire.encode envelope.frame).length) :
    Delivers limit board envelope
      (.error (.frame (.tooLarge (Wire.encode envelope.frame).length limit))) board.channels
  | untold (ended : board.registry = none) :
    Delivers limit board envelope (.error .registryUnavailable) board.channels
  | absent (unread : ∀ channel, board.channelOf envelope.client = some channel →
        board.channels.at? channel = none) :
    Delivers limit board envelope (.error (.clientNotFound envelope.client)) board.channels

theorem Writes.delivers [Wire γ] [Wire.Lawful γ] {server after : Server α β}
    {answer : Except Error Unit} (envelope : Envelope γ)
    (writes : server.Writes envelope.client envelope.frame answer after) :
    ∃ channels, Delivers server.frameLimit server.board envelope
        (answer.map fun _ => some envelope.client) channels ∧
      after = { server with board.channels := channels } := by
  cases writes with
  | tooLarge exceeds =>
    rw [← Wire.length_encode] at exceeds ⊢
    exact ⟨_, .tooLarge exceeds, rfl⟩
  | untold fits ended => exact ⟨_, .untold ended, rfl⟩
  | absent fits running unread => exact ⟨_, .absent unread, rfl⟩
  | arrives channel waiting fits known read =>
    have within : (Wire.encode envelope.frame).length ≤ server.frameLimit :=
      (Wire.length_encode envelope.frame).trans_le fits
    refine ⟨_, .delivered channel _ _ known (Channels.gains_write _ read) within
      fun room enough => ?_, rfl⟩
    have whole := Frame.decode_append envelope.frame [] room
    rw [List.append_nil, List.length_nil, Nat.add_zero] at whole
    exact whole.trans (if_pos enough)

/-- What a server becomes when it sends the oldest response for a target. -/
structure Sends [Wire β] (server : Server α β) (target : Option ClientId) (envelope : Envelope β)
    (answer : Except Error (Option ClientId)) (after : Server α β) : Prop where
  oldest : (server.exchange.responses.messages.find? fun other => other.isFor target) = some envelope
  others : after.exchange.responses.messages =
    server.exchange.responses.messages.eraseP fun other => other.isFor target
  sound : after.exchange.responses.Sound
  requests : after.exchange.requests = server.exchange.requests
  registry : after.board.registry = server.board.registry
  delivers : Delivers server.frameLimit server.board envelope answer after.board.channels

variable [Wire β] {server : Server α β}

theorem sendResponse_eq (target : Option ClientId) (server : Server α β) :
    server.sendResponse target =
      match server.exchange.responses.take target with
      | (none, responses) => (.ok none, { server with exchange.responses := responses })
      | (some envelope, responses) =>
        match { server with exchange.responses := responses }.writeTo envelope.client
          envelope.correlation envelope.message with
        | (.error fault, server) => (.error fault, server)
        | (.ok (), server) => (.ok (some envelope.client), server.say .debug
            s!"📤 Response {envelope.correlation.text} sent to client {envelope.client.text}") := by
  unfold sendResponse
  extract_lets pick
  have picked : server.exchange.withResponses pick = ((server.exchange.responses.take target).1,
      { server.exchange with responses := (server.exchange.responses.take target).2 }) := by
    cases target <;> rfl
  rw [picked]
  cases server.exchange.responses.take target with
  | mk found left => cases found <;> rfl

theorem sendResponse_none (sound : server.exchange.responses.Sound) {target : Option ClientId}
    (absent : (server.exchange.responses.messages.find? fun other => other.isFor target) = none) :
    server.sendResponse target = (.ok none, server) := by
  rw [sendResponse_eq, sound.take_none absent]

theorem sendResponse_sends [Wire.Lawful β] (sound : server.exchange.responses.Sound)
    {target : Option ClientId} {envelope : Envelope β}
    (found : (server.exchange.responses.messages.find? fun other => other.isFor target) =
      some envelope) :
    Sends server target envelope (server.sendResponse target).1 (server.sendResponse target).2 := by
  have taken := (sound.take_eq target).trans found
  have others := sound.messages_take target
  have kept := sound.take target
  rcases picked : server.exchange.responses.take target with ⟨first, left⟩
  rw [picked] at taken others kept
  obtain rfl : first = some envelope := taken
  rw [sendResponse_eq, picked]
  have writes := writeTo_writes { server with exchange.responses := left } envelope.client
    envelope.correlation envelope.message
  dsimp only
  cases written : writeTo envelope.client envelope.correlation envelope.message
      { server with exchange.responses := left } with
  | mk answer after =>
    rw [written] at writes
    obtain ⟨channels, delivers, rfl⟩ := Writes.delivers envelope writes
    cases answer with
    | error fault => exact ⟨found, others, kept, rfl, rfl, delivers⟩
    | ok => exact ⟨found, others, kept, rfl, rfl, delivers⟩

/-- Nothing is sent, and nothing changes, exactly if no response for the target is queued. Otherwise
the oldest such response alone leaves the queue, the others in order behind it, and either its client
is told and has one message more, which reads back as that response, or an error is told and no
channel has a message more. The channel of a client is the one that it was last registered with. -/
theorem oldest_response_sent [Wire.Lawful β] (reached : server.exchange.responses.Reached)
    (target : Option ClientId) :
    ((server.sendResponse target).1 = .ok none ↔
      ∀ envelope ∈ server.exchange.responses.messages, envelope.isFor target = false) ∧
    ((server.sendResponse target).1 = .ok none → (server.sendResponse target).2 = server) ∧
    ((server.sendResponse target).1 ≠ .ok none → ∃ envelope,
      Sends server target envelope (server.sendResponse target).1 (server.sendResponse target).2) ∧
    ∀ commands, server.board.registry = some (.after commands) →
      ∀ client, server.board.channelOf client = Registry.lastChannel client commands := by
  have sound := Queues.Sound.ofReached reached
  have none_iff : (server.exchange.responses.messages.find? fun other => other.isFor target) = none ↔
      ∀ envelope ∈ server.exchange.responses.messages, envelope.isFor target = false := by
    simp only [List.find?_eq_none, Bool.not_eq_true]
  have last (commands) (past : server.board.registry = some (.after commands)) (client) :
      server.board.channelOf client = Registry.lastChannel client commands := by
    rw [Switchboard.channelOf, past, Option.bind_some, Registry.channel_after]
  rw [← none_iff]
  cases found : server.exchange.responses.messages.find? fun other => other.isFor target with
  | none =>
    rw [sendResponse_none sound found]
    simpa using last
  | some envelope =>
    have sends := sendResponse_sends sound found
    have told : (server.sendResponse target).1 ≠ .ok none := by
      intro same
      have delivers := sends.delivers
      rw [same] at delivers
      cases delivers
    exact ⟨by simp [told], fun same => absurd same told, fun _ => ⟨envelope, sends⟩, last⟩

/-- A response for one client behind that for another; the latter has left, the former registered
twice. -/
def addressed : Server Bytes Bytes where
  exchange.responses := (answers Queues.perform
    [.push ⟨.ofNat 2, ⟨7⟩, [42]⟩, .push ⟨.ofNat 1, ⟨8⟩, [43]⟩] {}).2
  board.registry := some (.after [⟨_, .unregister (.ofNat 2)⟩,
    ⟨_, .register ⟨.ofNat 1, ⟨.loopback, 50002⟩, 2, 9⟩⟩, ⟨_, .register ⟨.ofNat 2, ⟨.loopback, 50001⟩, 1, 4⟩⟩,
    ⟨_, .register ⟨.ofNat 1, ⟨.loopback, 50000⟩, 0, 0⟩⟩])
  board.channels := ⟨[(0, []), (1, []), (2, [])], 3⟩

theorem addressed_responses_sent :
    (∃ envelope, Sends addressed (some (.ofNat 1)) envelope (.ok (some (.ofNat 1)))
      (addressed.sendResponse (some (.ofNat 1))).2) ∧
    ∃ envelope, Sends addressed none envelope (.error (.clientNotFound (.ofNat 2)))
      (addressed.sendResponse none).2 := by
  have reached : addressed.exchange.responses.Reached := ⟨_, rfl⟩
  have first : (addressed.sendResponse (some (.ofNat 1))).1 = .ok (some (.ofNat 1)) := by rfl
  have second : (addressed.sendResponse none).1 = .error (.clientNotFound (.ofNat 2)) := by rfl
  obtain ⟨_, _, sends, _⟩ := oldest_response_sent reached (some (.ofNat 1))
  obtain ⟨_, _, fails, _⟩ := oldest_response_sent reached none
  rw [first] at sends
  rw [second] at fails
  exact ⟨sends (by simp), fails (by simp)⟩

end Server

end FrameLink.Host
