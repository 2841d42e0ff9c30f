import Mathlib
import FrameLink.Proofs.Link.OverSockets
/-!
When a transport says that it is ready, told by what its session went through. A socket that ends with
a close frame leaves the session closing until the next dial. One that breaks leaves it ready, and what
is sent then is taken in, though no socket is there to carry it.
-/

namespace FrameLink.Link

/-- Whether a socket ends without a close frame, and without a stop. -/
def Happening.isAbrupt : Happening → Bool
  | .writeFails _ | .fails _ | .ends => true
  | _ => false

namespace Session

/-- What happened to a session and what it reported at each step, first to last. -/
abbrev Story := List (Happening × List Event)

inductive Socket where
  | never
  | up
  | gone
deriving DecidableEq

def Socket.hear : Socket → Event → Socket
  | _, .opened => .up
  | _, .closed _ => .gone
  | socket, .message _ => socket

namespace Story

def socket (story : Story) : Socket := (story.flatMap (·.2)).foldl Socket.hear .never

def brokeOff (story : Story) : Bool := (story.getLast?.map (·.1.isAbrupt)).getD false

@[simp] theorem socket_append (story : Story) (happening : Happening) (events : List Event) :
    socket (story ++ [(happening, events)]) = events.foldl Socket.hear story.socket := by
  simp [socket]

@[simp] theorem brokeOff_append (story : Story) (happening : Happening) (events : List Event) :
    brokeOff (story ++ [(happening, events)]) = happening.isAbrupt := by
  simp [brokeOff]

end Story

/-- Where a session is, told by its story. It is ready while its socket is up, and while it rests
after a socket that broke off. -/
structure Follows (session : Session) (story : Story) : Prop where
  up : session.phase = .up ↔ story.socket = .up
  broke : story.brokeOff = true → story.socket = .gone ∧
    (session.phase = .resting ∨ session.phase = .ended)
  ready : session.readiness = .ready ↔
    session.phase = .up ∨ (session.phase = .resting ∧ story.brokeOff = true)

theorem follows_new {session : Session} (dialing : session.phase = .dialing)
    (connecting : session.readiness = .connecting) : Follows session [] :=
  ⟨by simp [dialing, Story.socket], by simp [Story.brokeOff], by simp [dialing, connecting]⟩

theorem part_phase (session : Session) :
    (session.part.phase = .resting ∧ session.part.readiness = session.readiness) ∨
      (session.part.phase = .ended ∧ session.part.readiness = .closed) := by
  unfold part
  split
  · exact .inl ⟨rfl, rfl⟩
  · exact .inr ⟨rfl, rfl⟩

theorem follows_part {session : Session} {story : Story} (down : story.socket ≠ .up)
    (broke : story.brokeOff = true → story.socket = .gone)
    (ready : session.readiness = .ready ↔ story.brokeOff = true) :
    Follows session.part story := by
  rcases part_phase session with ⟨phase, readiness⟩ | ⟨phase, readiness⟩
  · exact ⟨by simp [phase, down], fun off => ⟨broke off, .inl phase⟩, by simp [phase, readiness, ready]⟩
  · exact ⟨by simp [phase, down], fun off => ⟨broke off, .inr phase⟩, by simp [phase, readiness]⟩

theorem Follows.turn {session after : Session} {story : Story} {happening : Happening}
    {events : List Event} (follows : Follows session story) (sound : session.Sound)
    (turn : Turn session happening after events) :
    Follows after (story ++ [(happening, events)]) := by
  cases turn with
  | refused message dialing =>
    have down : story.socket ≠ .up := fun up => by simp [follows.up.mpr up] at dialing
    refine follows_part (by simpa using down) (by simp [Happening.isAbrupt]) ?_
    simp [sound.dialing dialing, Happening.isAbrupt]
  | opens => exact ⟨by simp [Socket.hear], by simp [Happening.isAbrupt], by simp⟩
  | writeFails message payload rest up =>
    refine follows_part (by simp [Socket.hear]) (by simp [Socket.hear]) ?_
    simp [sound.up up, Happening.isAbrupt]
  | fails message up | ends up =>
    refine follows_part (by simp [Socket.hear]) (by simp [Socket.hear]) ?_
    simp [sound.up up, Happening.isAbrupt]
  | peerCloses reason up | leaves up =>
    exact follows_part (by simp [Socket.hear]) (by simp [Socket.hear]) (by simp [Happening.isAbrupt])
  | writes payload rest up | receives data up | control up =>
    have still := follows.up.mp up
    refine ⟨by simp [up, still, Socket.hear], by simp [Happening.isAbrupt], ?_⟩
    simp [up, sound.up up]
  | restOver resting =>
    have down : story.socket ≠ .up := fun up => by simp [follows.up.mpr up] at resting
    exact ⟨by simp [down], by simp [Happening.isAbrupt], by simp⟩
  | stops idle =>
    have down : story.socket ≠ .up := fun up => by simp [follows.up.mpr up] at idle
    exact ⟨by simp [down], by simp [Happening.isAbrupt], by simp⟩

end Session

namespace SocketTransport

open Session

def told (place : Nat) (transport : SocketTransport) : Act → Story
  | .session other happening =>
    if other = place then
      match transport.happen? place happening with
      | some (_, reports, _) => [(happening, reports.map (·.event))]
      | none => []
    else []
  | _ => []

def story (place : Nat) : List Act → SocketTransport → Story
  | [], _ => []
  | act :: acts, transport => told place transport act ++ story place acts (transport.act act)

/-- Every session follows the story of its place; where there is none yet, there is no story. -/
structure Tells (transport : SocketTransport) (stories : Nat → Story) : Prop where
  each : ∀ place session, transport.sessions[place]? = some session →
    Follows session (stories place)
  fresh : ∀ place, transport.sessions.length ≤ place → stories place = []

theorem told_of_other {place : Nat} {transport : SocketTransport} {act : Act}
    (other : ∀ happening, act ≠ .session place happening) : told place transport act = [] := by
  cases act with
  | session elsewhere happening =>
    have apart : elsewhere ≠ place := fun same => other happening (by rw [same])
    simp [told, apart]
  | start | send | stop => rfl

theorem Tells.alter {transport : SocketTransport} {stories : Nat → Story}
    (tells : transport.Tells stories) (place : Nat) (change : Session → Session)
    (phase : ∀ session, (change session).phase = session.phase)
    (readiness : ∀ session, (change session).readiness = session.readiness) :
    (transport.alter place change).Tells stories := by
  refine ⟨fun n session found => ?_, fun n length => ?_⟩
  · rw [getElem?_alter] at found
    obtain ⟨old, before, rfl⟩ := Option.map_eq_some_iff.mp found
    have follows := tells.each n old before
    split
    · exact ⟨by rw [phase, follows.up], by rw [phase]; exact follows.broke,
        by rw [phase, readiness, follows.ready]⟩
    · exact follows
  · exact tells.fresh n (by simpa [SocketTransport.alter] using length)

theorem Tells.stop {transport : SocketTransport} {stories : Nat → Story}
    (tells : transport.Tells stories) : transport.stop.Tells stories := by
  unfold SocketTransport.stop
  split
  · exact tells
  next place _ =>
    have altered := tells.alter place ({ · with held := false }) (fun _ => rfl) (fun _ => rfl)
    exact ⟨altered.each, altered.fresh⟩

theorem Tells.start {transport : SocketTransport} {stories : Nat → Story}
    (tells : transport.Tells stories) (url : String) (channel : Nat) :
    (transport.start url channel).Tells stories := by
  have stopped := tells.stop
  refine ⟨fun place session found => ?_, fun place length => ?_⟩
  · change (transport.stop.sessions ++ [_])[place]? = some session at found
    rcases Nat.lt_trichotomy place transport.stop.sessions.length with old | new | beyond
    · rw [List.getElem?_append_left old] at found
      exact stopped.each place session found
    · rw [new, List.getElem?_concat_length] at found
      cases found
      rw [stopped.fresh place (Nat.le_of_eq new.symm)]
      exact follows_new rfl rfl
    · rw [List.getElem?_eq_none (by simpa using beyond)] at found
      cases found
  · change (transport.stop.sessions ++ [_]).length ≤ place at length
    rw [List.length_append] at length
    exact stopped.fresh place (by omega)

theorem Tells.send {transport : SocketTransport} {stories : Nat → Story}
    (tells : transport.Tells stories) (payload : Bytes) :
    (transport.send payload).2.Tells stories := by
  unfold SocketTransport.send
  split
  · split
    · exact tells
    · split
      · exact tells
      · exact tells.alter _ _ (fun _ => rfl) (fun _ => rfl)
  · exact tells

theorem Tells.happen {transport after : SocketTransport} {stories : Nat → Story}
    (tells : transport.Tells stories) (sound : transport.Sound) {place : Nat}
    {happening : Happening} {reports : List Report} {log : List Log.Event}
    (happens : transport.happen? place happening = some (after, reports, log)) :
    after.Tells fun n =>
      stories n ++ told n transport (.session place happening) := by
  obtain ⟨session, effect, found, step, rfl, heard⟩ := happen?_some happens
  have turn := turn_of_step? step
  refine ⟨fun n session' there => ?_, fun n length => ?_⟩
  · rw [getElem?_alter] at there
    obtain ⟨old, before, rfl⟩ := Option.map_eq_some_iff.mp there
    have follows := tells.each n old before
    split
    next here =>
      subst here
      rw [found] at before
      cases before
      have adds : told place transport (.session place happening) =
          [(happening, effect.events)] := by
        simp [told, happens, heard, Function.comp_def]
      rw [adds]
      exact follows.turn (sound.each session (List.mem_of_getElem? found)).1 turn
    next apart =>
      rw [told_of_other (by simp [apart]), List.append_nil]
      exact follows
  · have beyond : place ≠ n := by
      have within := (List.getElem?_eq_some_iff.mp found).1
      simp only [SocketTransport.alter, List.length_modify] at length
      omega
    rw [told_of_other (by simp [beyond]), List.append_nil]
    exact tells.fresh n (by simpa [SocketTransport.alter] using length)

theorem Tells.act {transport : SocketTransport} {stories : Nat → Story}
    (tells : transport.Tells stories) (sound : transport.Sound) (act : Act) :
    (transport.act act).Tells fun place => stories place ++ told place transport act := by
  cases act with
  | start url channel => simpa [told, SocketTransport.act] using tells.start url channel
  | send payload => simpa [told, SocketTransport.act] using tells.send payload
  | stop => simpa [told, SocketTransport.act] using tells.stop
  | session place happening =>
    cases happens : transport.happen? place happening with
    | some left =>
      obtain ⟨after, reports, log⟩ := left
      simpa only [SocketTransport.act, happens] using tells.happen sound happens
    | none =>
      have silent : ∀ n, told n transport (.session place happening) = [] := by
        intro n
        by_cases same : place = n
        · subst same
          simp [told, happens]
        · exact told_of_other (by simp [same])
      simpa [SocketTransport.act, happens, silent] using tells

theorem Tells.run {transport : SocketTransport} {stories : Nat → Story}
    (tells : transport.Tells stories) (sound : transport.Sound) (acts : List Act) :
    (transport.run acts).Tells fun place => stories place ++ story place acts transport := by
  induction acts generalizing transport stories with
  | nil => simpa [SocketTransport.run, story] using tells
  | cons act acts ih =>
    have went := ih (tells.act sound act) (sound.act act)
    simpa only [SocketTransport.run, List.foldl_cons, story, List.append_assoc] using went

theorem tells_new (autoReconnect : Bool) : Tells { autoReconnect } fun _ => [] :=
  ⟨by simp, by simp⟩

theorem Tells.ready_iff {transport : SocketTransport} {stories : Nat → Story}
    (tells : transport.Tells stories) (sound : transport.Sound) {place : Nat}
    (current : transport.current = some place) :
    transport.readiness = .ready ↔ (stories place).socket = .up ∨
      ((stories place).socket = .gone ∧ (stories place).brokeOff = true ∧
        transport.autoReconnect = true) := by
  obtain ⟨session, found, held⟩ := sound.holds place current
  obtain ⟨fits, same⟩ := sound.each session (List.mem_of_getElem? found)
  have follows := tells.each place session found
  rw [readiness_eq current found, follows.ready, follows.up]
  refine or_congr_right ⟨fun ⟨resting, broke⟩ => ?_, fun ⟨_, broke, again⟩ => ?_⟩
  · exact ⟨(follows.broke broke).1, broke, same ▸ (fits.resting resting).1⟩
  · refine ⟨(follows.broke broke).2.resolve_right fun ended => ?_, broke⟩
    exact (fits.ended ended).2 ⟨same.trans again, held⟩

/-- Between two sockets a session rests or dials; when it is ready, it rests. -/
theorem Tells.resting_of_gone {transport : SocketTransport} {stories : Nat → Story}
    (tells : transport.Tells stories) {place : Nat} {session : Session}
    (current : transport.current = some place)
    (found : transport.sessions[place]? = some session)
    (gone : (stories place).socket = .gone) (ready : transport.readiness = .ready) :
    session.readiness = .ready ∧ session.phase = .resting := by
  have follows := tells.each place session found
  rw [readiness_eq current found] at ready
  refine ⟨ready, ?_⟩
  rcases follows.ready.mp ready with up | ⟨resting, _⟩
  · rw [follows.up, gone] at up
    cases up
  · exact resting

theorem send_of_ready {transport : SocketTransport} {place : Nat} {session : Session}
    (current : transport.current = some place)
    (found : transport.sessions[place]? = some session) (ready : session.readiness = .ready)
    (alive : session.phase ≠ .ended) (payload : Bytes) :
    transport.send payload = (.ok (), transport.alter place fun session =>
      { session with outbound := session.outbound ++ [payload] }) := by
  rw [← session?_eq current] at found
  simp [send, current, found, ready, alive]

end SocketTransport

namespace Connection

open SocketTransport Session

variable {α β : Type}

/-- A connection says that it is open while a socket is up, and between two sockets exactly if the
session may dial again and the last thing that happened to it was that its socket broke off. Then
what is sent is accepted though the session only rests; else between two sockets nothing is. -/
theorem ready_iff_socket [Wire β] (settings : ConnectSettings) (acts : List Act)
    (connection : Connection SocketTransport α) (started : connection.started = true)
    (reached : connection.transport = (SocketTransport.ofSettings settings).run acts) :
    let story := fun place => story place acts (SocketTransport.ofSettings settings)
    (connection.state.1 = .socket .ready ↔ ∃ place, connection.transport.current = some place ∧
      ((story place).socket = .up ∨
        ((story place).socket = .gone ∧ (story place).brokeOff = true ∧
          settings.autoReconnect = true))) ∧
    ∀ (body : β) (timeout : Duration),
      (connection.state.1 ≠ .socket .ready →
        (connection.send body).1 = .ok none ∧
        (connection.send body).2.transport = connection.transport ∧
        connection.beginRequest body timeout =
          (some (.error (.notConnected connection.state.1)), connection)) ∧
      ∀ place payload, connection.transport.current = some place →
        (story place).socket = .gone → connection.state.1 = .socket .ready →
        (Frame.mk connection.counter.draw.1 body).encode connection.limit = .ok payload →
        ∃ session, connection.transport.sessions[place]? = some session ∧
          session.phase = .resting ∧
          (connection.send body).1 = .ok (some connection.counter.draw.1) ∧
          (connection.send body).2.transport.sessions[place]? =
            some { session with outbound := session.outbound ++ [payload] } ∧
          (connection.beginRequest body timeout).1 = none ∧
          (connection.beginRequest body timeout).2.transport.sessions[place]? =
            some { session with outbound := session.outbound ++ [payload] } := by
  intro story
  have sound : connection.transport.Sound := by
    rw [reached]
    exact (sound_new settings.autoReconnect).run acts
  have tells : connection.transport.Tells story := by
    have told := (tells_new settings.autoReconnect).run (sound_new settings.autoReconnect) acts
    simp only [List.nil_append] at told
    rw [reached]
    exact told
  have again : connection.transport.autoReconnect = settings.autoReconnect := by
    rw [reached, run_autoReconnect]
    rfl
  have seen : connection.state.1 = .socket connection.transport.readiness := by
    rw [state_over, if_pos started]
  refine ⟨?_, fun body timeout => ⟨fun other => ?_, ?_⟩⟩
  · rw [seen, State.socket.injEq]
    cases current : connection.transport.current with
    | none => simp [readiness_of_none current]
    | some place =>
      rw [tells.ready_iff sound current, again]
      simp
  · rw [send_of_other body other, beginRequest_of_other body timeout other]
    exact ⟨rfl, rfl, rfl⟩
  · intro place payload current gone ready encoded
    obtain ⟨session, found, _⟩ := sound.holds place current
    obtain ⟨shows, resting⟩ := tells.resting_of_gone current found gone
      (State.socket.inj (seen.symm.trans ready))
    have taken := SocketTransport.send_of_ready current found shows (by simp [resting]) payload
    have queued : (connection.transport.send payload).2.sessions[place]? =
        some { session with outbound := session.outbound ++ [payload] } := by
      rw [taken, getElem?_alter, found, Option.map_some, if_pos rfl]
    rw [taken] at queued
    rw [send_of_ready body ready, beginRequest_of_ready body timeout ready, encoded]
    simp only [hand, taken]
    exact ⟨session, found, resting, trivial, queued, trivial, queued⟩

/-- The socket breaks off, and a request of the connection is accepted before the next dial. -/
theorem request_between_sockets :
    let acts : List Act := [.start "ws://127.0.0.1:8167/sc2api" 0, .session 0 .accepted,
      .session 0 (.fails "Connection reset without closing handshake")]
    let connection : Connection SocketTransport Unit :=
      { settings := {}, transport := (SocketTransport.ofSettings {}).run acts, started := true }
    (SocketTransport.story 0 acts (.ofSettings {})).socket = .gone ∧
      connection.state.1 = .socket .ready ∧ (connection.send ()).1 = .ok (some ⟨1⟩) ∧
      ∀ timeout, (connection.beginRequest () timeout).1 = none := by
  intro acts connection
  obtain ⟨ready, takes⟩ := ready_iff_socket (β := Unit) {} acts connection rfl rfl
  have opened : connection.state.1 = .socket .ready :=
    ready.mpr ⟨0, by decide +kernel, .inr (by decide +kernel)⟩
  obtain ⟨payload, encoded⟩ : ∃ payload,
      (Frame.mk connection.counter.draw.1 ()).encode connection.limit = .ok payload :=
    ⟨[1, 0, 0, 0, 0, 0, 0, 0], by decide +kernel⟩
  refine ⟨by decide +kernel, opened, ?_, fun timeout => ?_⟩
  · obtain ⟨session, _, _, sent, _⟩ := (takes () ⟨0, by decide⟩).2 0 payload (by decide +kernel)
      (by decide +kernel) opened encoded
    exact sent
  · obtain ⟨session, _, _, _, _, begun, _⟩ := (takes () timeout).2 0 payload (by decide +kernel)
      (by decide +kernel) opened encoded
    exact begun

/-- A socket that broke off was reported as closed, and the transport says that it is ready. -/
theorem ready_between_sockets :
    let acts : List Act := [.start "ws://127.0.0.1:8167/sc2api" 0, .session 0 .accepted,
      .session 0 (.fails "Connection reset without closing handshake")]
    (SocketTransport.story 0 acts (.ofSettings {})).socket = .gone ∧
      ((SocketTransport.ofSettings {}).run acts).readiness = .ready := by
  decide +kernel

end Connection

end FrameLink.Link
