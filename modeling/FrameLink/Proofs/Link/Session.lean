import Mathlib
import FrameLink.Link.SocketTransport
/-!
What the readiness of a session says about where its task is, and what every use of a transport over
sockets keeps. A session that is held and may dial again never ends.
-/

namespace FrameLink.Link

namespace Session

/-- All that a happening can do: what is left of the session, and the events that it reports. -/
inductive Turn (session : Session) : Happening → Session → List Event → Prop
  | refused (message : String) (dialing : session.phase = .dialing) :
    Turn session (.refused message) session.part []
  | opens (dialing : session.phase = .dialing) :
    Turn session .accepted
      { session with phase := .up, readiness := .ready, sockets := session.sockets + 1 } [.opened]
  | writes (payload : Bytes) (rest : List Bytes) (up : session.phase = .up)
      (queued : session.outbound = payload :: rest) :
    Turn session .writes { session with
      outbound := rest, written := session.written ++ [(session.sockets, payload)] } []
  | writeFails (message : String) (payload : Bytes) (rest : List Bytes) (up : session.phase = .up)
      (queued : session.outbound = payload :: rest) :
    Turn session (.writeFails message) ({ session with outbound := rest } : Session).part
      [.closed (some message)]
  | receives (data : Bytes) (up : session.phase = .up) :
    Turn session (.receives data) session [.message data]
  | control (up : session.phase = .up) : Turn session .control session []
  | peerCloses (reason : Option String) (up : session.phase = .up) :
    Turn session (.peerCloses reason) ({ session with readiness := .closing } : Session).part
      [.closed reason]
  | fails (message : String) (up : session.phase = .up) :
    Turn session (.fails message) session.part [.closed (some message)]
  | ends (up : session.phase = .up) : Turn session .ends session.part [.closed none]
  | restOver (resting : session.phase = .resting) :
    Turn session .restOver { session with phase := .dialing, readiness := .connecting } []
  | leaves (up : session.phase = .up) (released : session.held = false) :
    Turn session .noticesStop ({ session with readiness := .closing } : Session).part
      [.closed none]
  | stops (idle : session.phase = .dialing ∨ session.phase = .resting)
      (released : session.held = false) :
    Turn session .noticesStop { session with phase := .ended, readiness := .closed } []

theorem turn_of_step? {session : Session} {happening : Happening} {effect : Effect}
    (step : session.step? happening = some effect) :
    Turn session happening effect.session effect.events := by
  cases happening with
  | refused message =>
    simp only [step?] at step
    split at step <;> cases step
    next dialing => exact .refused message dialing
  | accepted =>
    simp only [step?] at step
    split at step <;> cases step
    next dialing => exact .opens dialing
  | writes =>
    simp only [step?] at step
    split at step <;> cases step
    next payload rest up queued => exact .writes payload rest up queued
  | writeFails message =>
    simp only [step?] at step
    split at step <;> cases step
    next payload rest up queued => exact .writeFails message payload rest up queued
  | receives data =>
    simp only [step?] at step
    split at step <;> cases step
    next up => exact .receives data up
  | control =>
    simp only [step?] at step
    split at step <;> cases step
    next up => exact .control up
  | peerCloses reason =>
    simp only [step?] at step
    split at step <;> cases step
    next up => exact .peerCloses reason up
  | fails message =>
    simp only [step?] at step
    split at step <;> cases step
    next up => exact .fails message up
  | ends =>
    simp only [step?] at step
    split at step <;> cases step
    next up => exact .ends up
  | restOver =>
    simp only [step?] at step
    split at step <;> cases step
    next resting => exact .restOver resting
  | noticesStop =>
    simp only [step?] at step
    split at step
    · cases step
    next released =>
      rw [Bool.not_eq_true] at released
      split at step <;> cases step
      next up => exact .leaves up released
      next dialing => exact .stops (.inl dialing) released
      next resting => exact .stops (.inr resting) released

structure SameOwner (before after : Session) : Prop where
  held : after.held = before.held
  autoReconnect : after.autoReconnect = before.autoReconnect
  channel : after.channel = before.channel

theorem part_sameOwner (session : Session) : SameOwner session session.part := by
  unfold part
  split <;> exact ⟨rfl, rfl, rfl⟩

theorem Turn.sameOwner {session after : Session} {happening : Happening} {events : List Event}
    (turn : Turn session happening after events) : SameOwner session after := by
  cases turn with
  | refused | fails | ends => exact part_sameOwner session
  | writeFails | peerCloses | leaves =>
    have same := part_sameOwner
    exact ⟨(same _).held, (same _).autoReconnect, (same _).channel⟩
  | opens | writes | receives | control | restOver | stops => exact ⟨rfl, rfl, rfl⟩

/-- The readiness fits the phase. Between two dials it is as the dial or the socket before left
it. -/
def Sound (session : Session) : Prop :=
  match session.phase with
  | .dialing => session.readiness = .connecting
  | .up => session.readiness = .ready
  | .resting => session.autoReconnect = true ∧ session.readiness ≠ .closed
  | .ended => session.readiness = .closed ∧ ¬(session.autoReconnect = true ∧ session.held = true)

theorem Sound.up {session : Session} (sound : session.Sound) (up : session.phase = .up) :
    session.readiness = .ready := by
  simpa [Sound, up] using sound

theorem Sound.dialing {session : Session} (sound : session.Sound)
    (dialing : session.phase = .dialing) : session.readiness = .connecting := by
  simpa [Sound, dialing] using sound

theorem Sound.resting {session : Session} (sound : session.Sound)
    (resting : session.phase = .resting) :
    session.autoReconnect = true ∧ session.readiness ≠ .closed := by
  simpa [Sound, resting] using sound

theorem Sound.ended {session : Session} (sound : session.Sound) (ended : session.phase = .ended) :
    session.readiness = .closed ∧ ¬(session.autoReconnect = true ∧ session.held = true) := by
  simpa [Sound, ended] using sound

/-- Only a session between two dials says that it is closing. -/
theorem Sound.resting_of_closing {session : Session} (sound : session.Sound)
    (closing : session.readiness = .closing) : session.phase = .resting := by
  cases phase : session.phase <;> simp_all [Sound]

theorem Sound.ended_of_closed {session : Session} (sound : session.Sound)
    (closed : session.readiness = .closed) : session.phase = .ended := by
  cases phase : session.phase <;> simp_all [Sound]

theorem Sound.release {session : Session} (sound : session.Sound) :
    Sound { session with held := false } := by
  cases phase : session.phase <;> simp_all [Sound]

theorem part_sound {session : Session} (alive : session.readiness ≠ .closed) :
    session.part.Sound := by
  unfold part
  split
  next rests =>
    rw [Bool.and_eq_true] at rests
    exact ⟨rests.1, alive⟩
  next stays =>
    rw [Bool.and_eq_true] at stays
    exact ⟨rfl, stays⟩

theorem Turn.sound {session after : Session} {happening : Happening} {events : List Event}
    (turn : Turn session happening after events) (sound : session.Sound) : after.Sound := by
  cases turn with
  | refused _ dialing => exact part_sound (by simp [sound.dialing dialing])
  | writeFails _ _ _ up | fails _ up | ends up => exact part_sound (by simp [sound.up up])
  | peerCloses | leaves => exact part_sound (by simp)
  | opens | restOver => exact rfl
  | writes | receives | control => exact sound
  | stops _ released => exact ⟨rfl, by simp [released]⟩

theorem step?_of_ended {session : Session} (ended : session.phase = .ended)
    (happening : Happening) : session.step? happening = none := by
  cases happening <;> simp [step?, ended]

end Session

/-! ## Uses of a transport -/

namespace SocketTransport

inductive Act where
  | start (url : String) (channel : Nat)
  | send (payload : Bytes)
  | stop
  | session (place : Nat) (happening : Happening)
deriving DecidableEq

def act (transport : SocketTransport) : Act → SocketTransport
  | .start url channel => transport.start url channel
  | .send payload => (transport.send payload).2
  | .stop => transport.stop
  | .session place happening =>
    match transport.happen? place happening with
    | some (transport, _, _) => transport
    | none => transport

def run (acts : List Act) (transport : SocketTransport) : SocketTransport := acts.foldl act transport

theorem run_append (first second : List Act) (transport : SocketTransport) :
    transport.run (first ++ second) = (transport.run first).run second :=
  List.foldl_append

/-- Every session is sound and may dial again as the transport does; the one that is held is the
current one. -/
structure Sound (transport : SocketTransport) : Prop where
  each : ∀ session ∈ transport.sessions,
    session.Sound ∧ session.autoReconnect = transport.autoReconnect
  holds : ∀ place, transport.current = some place →
    ∃ session, transport.sessions[place]? = some session ∧ session.held = true

theorem sound_new (autoReconnect : Bool) : Sound { autoReconnect } :=
  ⟨by simp, by simp⟩

theorem session?_eq {transport : SocketTransport} {place : Nat}
    (current : transport.current = some place) :
    transport.session? = transport.sessions[place]? := by
  simp [session?, current]

theorem readiness_eq {transport : SocketTransport} {place : Nat} {session : Session}
    (current : transport.current = some place)
    (found : transport.sessions[place]? = some session) :
    transport.readiness = session.readiness := by
  simp [readiness, session?_eq current, found]

theorem readiness_of_none {transport : SocketTransport} (none : transport.current = none) :
    transport.readiness = .closed := by
  simp [readiness, session?, none]

theorem getElem?_alter (transport : SocketTransport) (place n : Nat) (change : Session → Session) :
    (transport.alter place change).sessions[n]? =
      transport.sessions[n]?.map fun session => if place = n then change session else session :=
  List.getElem?_modify ..

theorem forall_alter {transport : SocketTransport} {fits : Session → Prop} {place : Nat}
    {change : Session → Session} (all : ∀ session ∈ transport.sessions, fits session)
    (changed : ∀ session, transport.sessions[place]? = some session → fits session →
      fits (change session)) :
    ∀ session ∈ (transport.alter place change).sessions, fits session := by
  intro session member
  obtain ⟨n, found⟩ := List.mem_iff_getElem?.mp member
  rw [getElem?_alter] at found
  obtain ⟨old, before, rfl⟩ := Option.map_eq_some_iff.mp found
  have fitted := all old (List.mem_of_getElem? before)
  split
  next here =>
    subst here
    exact changed old before fitted
  next => exact fitted

theorem Sound.alter {transport : SocketTransport} (sound : transport.Sound) (place : Nat)
    (change : Session → Session)
    (keeps : ∀ session, transport.sessions[place]? = some session → session.Sound →
      (change session).Sound ∧ Session.SameOwner session (change session)) :
    (transport.alter place change).Sound := by
  constructor
  · refine forall_alter sound.each fun session found fits => ?_
    have changed := keeps session found fits.1
    exact ⟨changed.1, changed.2.autoReconnect.trans fits.2⟩
  · intro current same
    obtain ⟨session, found, held⟩ := sound.holds current same
    rw [getElem?_alter, found, Option.map_some]
    split
    next here =>
      subst here
      have fits := (sound.each session (List.mem_of_getElem? found)).1
      exact ⟨_, rfl, (keeps session found fits).2.held.trans held⟩
    next => exact ⟨session, rfl, held⟩

theorem Sound.stop {transport : SocketTransport} (sound : transport.Sound) :
    transport.stop.Sound := by
  unfold SocketTransport.stop
  split
  · exact sound
  next place _ =>
    refine ⟨?_, by simp⟩
    exact forall_alter sound.each fun session _ fits => ⟨fits.1.release, fits.2⟩

theorem Sound.start {transport : SocketTransport} (sound : transport.Sound) (url : String)
    (channel : Nat) : (transport.start url channel).Sound := by
  have stopped := sound.stop
  constructor
  · intro session member
    rcases List.mem_append.mp member with old | new
    · exact stopped.each session old
    · rw [List.mem_singleton.mp new]
      exact ⟨rfl, rfl⟩
  · intro place current
    change some transport.stop.sessions.length = some place at current
    rw [← Option.some.inj current]
    exact ⟨_, List.getElem?_concat_length, rfl⟩

theorem Sound.send {transport : SocketTransport} (sound : transport.Sound) (payload : Bytes) :
    (transport.send payload).2.Sound := by
  unfold SocketTransport.send
  split
  · split
    · exact sound
    · split
      · exact sound
      · exact sound.alter _ _ fun session _ fits => ⟨fits, rfl, rfl, rfl⟩
  · exact sound

theorem happen?_some {transport after : SocketTransport} {place : Nat} {happening : Happening}
    {reports : List Report} {log : List Log.Event}
    (happens : transport.happen? place happening = some (after, reports, log)) :
    ∃ session effect, transport.sessions[place]? = some session ∧
      session.step? happening = some effect ∧
      after = transport.alter place (fun _ => effect.session) ∧
      reports = effect.events.map (fun event => ⟨session.channel, event⟩) := by
  unfold happen? at happens
  cases found : transport.sessions[place]? with
  | none => simp [found] at happens
  | some session =>
    cases step : session.step? happening with
    | none => simp [found, step] at happens
    | some effect =>
      simp only [found, step, Option.pure_def, Option.bind_eq_bind, Option.bind_some,
        Option.some.injEq, Prod.mk.injEq] at happens
      exact ⟨session, effect, rfl, step, happens.1.symm, happens.2.1.symm⟩

theorem Sound.happen {transport after : SocketTransport} (sound : transport.Sound) {place : Nat}
    {happening : Happening} {reports : List Report} {log : List Log.Event}
    (happens : transport.happen? place happening = some (after, reports, log)) : after.Sound := by
  obtain ⟨session, effect, found, step, rfl, _⟩ := happen?_some happens
  refine sound.alter place _ fun old same fits => ?_
  have turn := Session.turn_of_step? step
  rw [found] at same
  cases same
  exact ⟨turn.sound fits, turn.sameOwner⟩

theorem Sound.act {transport : SocketTransport} (sound : transport.Sound) (act : Act) :
    (transport.act act).Sound := by
  cases act with
  | start url channel => exact sound.start url channel
  | send payload => exact sound.send payload
  | stop => exact sound.stop
  | session place happening =>
    simp only [SocketTransport.act]
    split
    next happens => exact sound.happen happens
    next => exact sound

theorem Sound.run {transport : SocketTransport} (sound : transport.Sound) (acts : List Act) :
    (transport.run acts).Sound := by
  induction acts generalizing transport with
  | nil => exact sound
  | cons act acts ih => exact ih (sound.act act)

theorem stop_autoReconnect (transport : SocketTransport) :
    transport.stop.autoReconnect = transport.autoReconnect := by
  unfold stop
  split <;> rfl

theorem act_autoReconnect (transport : SocketTransport) (act : Act) :
    (transport.act act).autoReconnect = transport.autoReconnect := by
  cases act with
  | start | stop => exact stop_autoReconnect transport
  | send payload =>
    simp only [act, send]
    split
    · split
      · rfl
      · split <;> rfl
    · rfl
  | session place happening =>
    simp only [act]
    split
    next happens =>
      obtain ⟨_, _, _, _, rfl, _⟩ := happen?_some happens
      rfl
    next => rfl

theorem run_autoReconnect (acts : List Act) (transport : SocketTransport) :
    (transport.run acts).autoReconnect = transport.autoReconnect := by
  induction acts generalizing transport with
  | nil => rfl
  | cons act acts ih => exact (ih (transport.act act)).trans (act_autoReconnect transport act)

end SocketTransport

end FrameLink.Link
