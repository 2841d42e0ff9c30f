import Mathlib
import FrameLink.Proofs.Link.OverSockets
/-!
Whether a connection that was given up can open again by itself. It cannot when its transport was
stopped, or had nothing left that dials. But giving up leaves a session alone that says it is closing,
and after a close frame of the peer that session only rests before its next dial.
-/

namespace FrameLink.Link

namespace SocketTransport

/-- No session is held, or one that has ended. -/
def Quiet (transport : SocketTransport) : Prop :=
  ∀ place session, transport.current = some place → transport.sessions[place]? = some session →
    session.phase = .ended ∧ session.readiness = .closed

theorem Quiet.readiness {transport : SocketTransport} (quiet : transport.Quiet) :
    transport.readiness = .closed := by
  cases current : transport.current with
  | none => exact readiness_of_none current
  | some place =>
    cases found : transport.sessions[place]? with
    | none => simp [SocketTransport.readiness, session?, current, found]
    | some session => rw [readiness_eq current found, (quiet place session current found).2]

theorem stop_quiet (transport : SocketTransport) : transport.stop.Quiet := by
  intro place session current
  unfold stop at current
  split at current
  next none => simp [none] at current
  next => simp at current

theorem Quiet.act {transport : SocketTransport} (quiet : transport.Quiet) {act : Act}
    (other : act.isStart = false) : (transport.act act).Quiet := by
  cases act with
  | start => simp [Act.isStart] at other
  | stop => exact stop_quiet transport
  | send payload =>
    have refused : (transport.send payload).2 = transport := by
      unfold send
      split
      next place session current found =>
        rw [session?_eq current] at found
        simp [(quiet place session current found).2]
      next => rfl
    simp only [SocketTransport.act, refused]
    exact quiet
  | session place happening =>
    simp only [SocketTransport.act]
    split
    next happens =>
      obtain ⟨session, effect, found, step, rfl, _⟩ := happen?_some happens
      intro held holder current there
      change transport.current = some held at current
      rw [getElem?_alter] at there
      obtain ⟨old, before, rfl⟩ := Option.map_eq_some_iff.mp there
      have ended := quiet held old current before
      split
      next same =>
        subst same
        rw [before] at found
        cases found
        rw [Session.step?_of_ended ended.1] at step
        cases step
      next => exact ended
    next => exact quiet

theorem Quiet.leads {before after : SocketTransport} (quiet : before.Quiet)
    (leads : Leads before after) : after.Quiet := by
  obtain ⟨acts, none, rfl⟩ := leads
  induction acts generalizing before with
  | nil => exact quiet
  | cons act acts ih =>
    exact ih (quiet.act (none act (List.mem_cons_self ..)))
      fun act member => none act (List.mem_cons_of_mem _ member)

end SocketTransport

namespace Connection

open SocketTransport

variable {α β : Type}

/-- Never started, or with nothing left that could open. -/
def Down (connection : Connection SocketTransport α) : Prop :=
  connection.started = false ∨ connection.transport.Quiet

theorem Down.not_ready {connection : Connection SocketTransport α} (down : connection.Down) :
    connection.state.1 ≠ .socket .ready := by
  rw [state_over]
  rcases down with idle | quiet
  · simp [idle]
  · rw [quiet.readiness]
    split <;> simp

theorem Down.proceeds {before after : Connection SocketTransport α} (down : before.Down)
    (proceeds : Proceeds before after) : after.Down := by
  rcases down with idle | quiet
  · exact .inl (proceeds.started.trans idle)
  · exact .inr (quiet.leads proceeds.leads)

/-- Giving up leaves nothing that could open, unless a session says that it is closing. -/
theorem disconnect_down {connection : Connection SocketTransport α}
    (sound : connection.transport.Sound) (other : connection.state.1 ≠ .socket .closing) :
    connection.disconnect.Down := by
  cases stops : stoppable connection.state.1 with
  | true =>
    rw [disconnect_of_stoppable stops, stop_over]
    exact .inr (stop_quiet connection.transport)
  | false =>
    rw [disconnect_of_other stops]
    rw [state_over] at stops other
    cases started : connection.started with
    | false => exact .inl started
    | true =>
      simp only [started, if_true] at stops other
      have closed : connection.transport.readiness = .closed := by
        cases readiness : connection.transport.readiness <;> simp_all [stoppable]
      refine .inr fun place session current found => ?_
      rw [readiness_eq current found] at closed
      have fits := (sound.each session (List.mem_of_getElem? found)).1
      exact ⟨fits.ended_of_closed closed, closed⟩

namespace Course

def StaysDown (course : Course α) : Prop := course.dial = none ∧ course.connection.Down

theorem StaysDown.run [Wire α] [Wire β] {course : Course α} (down : course.StaysDown)
    (moves : List (Move β)) (others : ∀ move ∈ moves, isDial move = false) :
    (course.run moves).StaysDown := by
  have each : ∀ (course next : Course α) (move : Move β), isDial move = false →
      course.step? move = some next → course.StaysDown → next.StaysDown := by
    intro course next move other step down
    have kept := step?_proceeds step other
    exact ⟨kept.2 down.1, down.2.proceeds kept.1⟩
  exact run_keeps each moves others course down

/-- A move with which the connection is given up: a disconnect, or the last look at a handshake that
did not succeed. -/
inductive GivesUp (course next : Course α) : Move β → Prop
  | disconnects : GivesUp course next .disconnects
  | fails (fault : Error) (told : next.opened = course.opened ++ [.error fault]) :
    GivesUp course next .looks

theorem disconnects_eq [Wire α] [Wire β] {course : Course α} (idle : course.dial.isNone = true) :
    course.step? (.disconnects : Move β) =
      some { course with connection := course.connection.disconnect } := by
  simp only [step?, use?, if_pos idle]

theorem disconnected_of_givesUp [Wire α] [Wire β] {course next : Course α} {move : Move β}
    (step : course.step? move = some next) (gives : GivesUp course next move) :
    next.dial = none ∧ next.connection.started = course.connection.disconnect.started ∧
      next.connection.transport = course.connection.disconnect.transport := by
  cases gives with
  | disconnects =>
    cases step?_makes step with
    | disconnects idle => exact ⟨idle, rfl, rfl⟩
  | fails fault told =>
    obtain ⟨dial, _, rfl⟩ := Option.map_eq_some_iff.mp step
    rcases look_eq dial course with ⟨attempts, same⟩ | same <;> rw [same] at told ⊢
    · simp at told
    · dsimp only at told ⊢
      rw [conclude, readiness_over] at told ⊢
      cases readiness : course.connection.transport.readiness with
      | ready => simp [readiness] at told
      | connecting | closing | closed => exact ⟨rfl, rfl, rfl⟩

/-- A session that is closing rests, and the next dial may open it. -/
theorem reopens_of_closing [Wire α] [Wire β] {course : Course α}
    (sound : course.connection.transport.Sound) (started : course.connection.started = true)
    (closing : course.connection.transport.readiness = .closing) :
    ∃ place, (course.run [(.session place .restOver : Move β), .session place .accepted]
      ).connection.state.1 = .socket .ready := by
  cases current : course.connection.transport.current with
  | none => simp [readiness_of_none current] at closing
  | some place =>
    obtain ⟨session, found, held⟩ := sound.holds place current
    rw [readiness_eq current found] at closing
    have resting := (sound.each session (List.mem_of_getElem? found)).1.resting_of_closing closing
    have rested : session.step? .restOver = some
        { session := { session with phase := .dialing, readiness := .connecting } } := by
      rw [Session.step?, if_pos resting]
    obtain ⟨redials, first, begun, left⟩ := step?_session (β := β) found rested
    have dialing : redials.connection.transport.sessions[place]? =
        some { session with phase := .dialing, readiness := .connecting } := by
      rw [left, getElem?_alter, found, Option.map_some, if_pos rfl]
    obtain ⟨log, accepted⟩ : ∃ log, Session.step?
        { session with phase := .dialing, readiness := .connecting } .accepted = some
          { session := { session with
              phase := .up, readiness := .ready, sockets := session.sockets + 1 }
            events := [.opened], log } := ⟨_, rfl⟩
    obtain ⟨opens, second, still, after⟩ := step?_session (β := β) dialing accepted
    have up : opens.connection.transport.sessions[place]? = some { session with
        phase := .up, readiness := .ready, sockets := session.sockets + 1 } := by
      rw [after, getElem?_alter, dialing, Option.map_some, if_pos rfl]
    have same : opens.connection.transport.current = some place := by
      rw [after, left]
      exact current
    refine ⟨place, ?_⟩
    simp only [run, List.foldl_cons, List.foldl_nil, first, second, Option.getD_some]
    rw [state_over, still, begun, started, if_pos rfl, readiness_eq same up]

theorem autoReconnect_of_closing {course : Course α} (sound : course.connection.transport.Sound)
    (closing : course.connection.state.1 = .socket .closing) :
    course.connection.started = true ∧ course.connection.transport.readiness = .closing ∧
      course.connection.transport.autoReconnect = true := by
  rw [state_over] at closing
  split at closing
  next begun =>
    have seen := State.socket.inj closing
    refine ⟨begun, seen, ?_⟩
    cases current : course.connection.transport.current with
    | none => simp [readiness_of_none current] at seen
    | some place =>
      obtain ⟨session, found, _⟩ := sound.holds place current
      rw [readiness_eq current found] at seen
      obtain ⟨fits, same⟩ := sound.each session (List.mem_of_getElem? found)
      have resting := fits.resting_of_closing seen
      rw [← same]
      exact (fits.resting resting).1
  next => cases closing

/-- After a disconnect, or an attempt to open that failed, the connection never opens again until it
is opened anew, exactly if no session was closing at that moment. Without automatic reconnection
none ever is. -/
theorem never_ready_again_iff [Wire α] [Wire β] (settings : ConnectSettings)
    (before : List (Move β)) (move : Move β) (next : Course α)
    (step : ((ofSettings settings).run before).step? move = some next)
    (gives : GivesUp ((ofSettings settings).run before) next move) :
    ((∀ after : List (Move β), (∀ move ∈ after, isDial move = false) →
        (next.run after).connection.state.1 ≠ .socket .ready) ↔
      ((ofSettings settings : Course α).run before).connection.state.1 ≠ .socket .closing) ∧
    (settings.autoReconnect = false →
      ((ofSettings settings : Course α).run before).connection.state.1 ≠ .socket .closing) := by
  have sound := run_sound (α := α) settings before
  obtain ⟨idle, started, transport⟩ := disconnected_of_givesUp step gives
  refine ⟨⟨?_, ?_⟩, ?_⟩
  · intro never closing
    have kept := disconnect_of_other (by rw [closing]; rfl)
    rw [kept] at started transport
    obtain ⟨begun, seen, _⟩ := autoReconnect_of_closing sound closing
    obtain ⟨place, reopened⟩ := reopens_of_closing (β := β) (transport ▸ sound)
      (started.trans begun) (transport ▸ seen)
    exact never _ (by simp [isDial]) reopened
  · intro other after others
    have down : next.StaysDown := by
      refine ⟨idle, ?_⟩
      rcases disconnect_down sound other with never | quiet
      · exact .inl (started.trans never)
      · exact .inr (transport ▸ quiet)
    exact (down.run after others).2.not_ready
  · intro off closing
    have on := (autoReconnect_of_closing sound closing).2.2
    rw [run_autoReconnect, off] at on
    cases on

/-- Opened, and given up while it is ready. -/
theorem never_ready_after_disconnect :
    ∃ next : Course Unit, ((ofSettings {}).run ([.dials "127.0.0.1" 8167 false,
        .session 0 .accepted, .looks] : List (Move Unit))).step? (.disconnects : Move Unit) =
          some next ∧
      ∀ after : List (Move Unit), (∀ move ∈ after, isDial move = false) →
        (next.run after).connection.state.1 ≠ .socket .ready := by
  obtain ⟨idle, ready⟩ : ((ofSettings {} : Course Unit).run ([.dials "127.0.0.1" 8167 false,
      .session 0 .accepted, .looks] : List (Move Unit))).dial.isNone = true ∧
      ((ofSettings {} : Course Unit).run ([.dials "127.0.0.1" 8167 false,
        .session 0 .accepted, .looks] : List (Move Unit))).connection.state.1 ≠
          .socket .closing := by
    decide +kernel
  have step := disconnects_eq (β := Unit) idle
  exact ⟨_, step, (never_ready_again_iff {} _ .disconnects _ step .disconnects).1.mpr ready⟩

/-- The peer closes the socket, and the connection is disconnected before the next dial: then it
opens again by itself. So it does when the attempt to open it fails at that moment. -/
theorem ready_after_disconnect :
    ((ofSettings {} : Course Unit).run ([.dials "127.0.0.1" 8167 false, .session 0 .accepted,
        .looks, .session 0 (.peerCloses none), .disconnects, .session 0 .restOver,
        .session 0 .accepted] : List (Move Unit))).connection.state.1 = .socket .ready ∧
      ((ofSettings {} : Course Unit).run ([.dials "127.0.0.1" 8167 false, .session 0 .accepted,
        .session 0 (.peerCloses none), .looks] : List (Move Unit))).opened.map Except.isOk =
          [false] ∧
      ((ofSettings {} : Course Unit).run ([.dials "127.0.0.1" 8167 false, .session 0 .accepted,
        .session 0 (.peerCloses none), .looks, .session 0 .restOver,
        .session 0 .accepted] : List (Move Unit))).connection.state.1 = .socket .ready := by
  decide +kernel

end Course

end Connection

end FrameLink.Link
