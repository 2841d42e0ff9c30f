import Mathlib
import FrameLink.Proofs.Link.OverSockets
import FrameLink.Proofs.Wire.ReadBack
/-!
What a move does to the session at one place. A call that opens nothing sends at most, and with the next
number, or lets go of the session that is held; only the network brings a session further.
-/

namespace FrameLink.Link

/-- The payload is a frame with this number. -/
def Carries (β : Type) [Wire β] (id : Correlation) (payload : Bytes) : Prop :=
  ∃ body : β, payload = Wire.encode (Frame.mk id body)

theorem Carries.number {β : Type} [Wire β] {id other : Correlation} {payload : Bytes}
    (one : Carries β id payload) (two : Carries β other payload) : id = other := by
  obtain ⟨body, rfl⟩ := one
  obtain ⟨body', same⟩ := two
  change Wire.encode id.value ++ Wire.encode body =
    Wire.encode other.value ++ Wire.encode body' at same
  have short : ∀ value : UInt64, Wire.size value < 256 ^ 8 := fun _ => by
    change 8 < 256 ^ 8
    decide
  have first := Wire.Lawful.reads id.value (short _) (Wire.encode body)
  rw [same, Wire.Lawful.reads other.value (short _)] at first
  have values : other.value = id.value := (Prod.mk.inj (Except.ok.inj first)).1
  exact congrArg Correlation.mk values.symm

namespace Session

/-- Payloads that fit may have been accepted, and the session let go of; nothing happened to it. -/
def Grows (fits : Bytes → Prop) (session after : Session) : Prop :=
  ∃ more held, (∀ payload ∈ more, fits payload) ∧
    after = { session with outbound := session.outbound ++ more, held }

variable {fits : Bytes → Prop}

theorem Grows.refl (session : Session) : session.Grows fits session :=
  ⟨[], session.held, by simp, by rw [List.append_nil]⟩

theorem Grows.trans {first second third : Session} (one : first.Grows fits second)
    (two : second.Grows fits third) : first.Grows fits third := by
  obtain ⟨more, held, early, rfl⟩ := one
  obtain ⟨last, holds, late, rfl⟩ := two
  refine ⟨more ++ last, holds, fun payload member => ?_, by rw [List.append_assoc]⟩
  exact (List.mem_append.mp member).elim (early payload) (late payload)

inductive Goes (fits : Bytes → Prop) (session : Session) : Option Happening → Session → Prop
  | grows (left : Session) (grows : session.Grows fits left) : Goes fits session none left
  | turns (happening : Happening) (left : Session) (events : List Event)
    (turn : Turn session happening left events) : Goes fits session (some happening) left

structure IsNew (session : Session) : Prop where
  phase : session.phase = .dialing
  outbound : session.outbound = []
  written : session.written = []
  sockets : session.sockets = 0

end Session

namespace SocketTransport

open Session

def Grows (fits : Bytes → Prop) (before after : SocketTransport) : Prop :=
  ∀ place : Nat, Option.Rel (Session.Grows fits) before.sessions[place]? after.sessions[place]?

variable {fits : Bytes → Prop}

theorem Grows.refl (transport : SocketTransport) : Grows fits transport transport := by
  intro place
  cases transport.sessions[place]? with
  | none => exact .none
  | some session => exact .some (.refl session)

theorem Grows.trans {first second third : SocketTransport} (one : Grows fits first second)
    (two : Grows fits second third) : Grows fits first third := by
  intro place
  have early := one place
  have late := two place
  revert early late
  cases first.sessions[place]? <;> cases second.sessions[place]? <;>
    cases third.sessions[place]? <;> rintro (grown | _) (again | _)
  · exact .none
  · exact .some (grown.trans again)

theorem alter_grows (transport : SocketTransport) (place : Nat) {change : Session → Session}
    (grows : ∀ session : Session, session.Grows fits (change session)) :
    Grows fits transport (transport.alter place change) := by
  intro other
  rw [getElem?_alter]
  cases transport.sessions[other]? with
  | none => exact .none
  | some session =>
    rw [Option.map_some]
    split
    · exact .some (grows session)
    · exact .some (.refl session)

theorem stop_grows (transport : SocketTransport) : Grows fits transport transport.stop := by
  unfold stop
  split
  · exact .refl transport
  next place _ =>
    exact alter_grows transport place fun session =>
      ⟨[], false, by simp, by rw [List.append_nil]⟩

theorem send_grows (transport : SocketTransport) {payload : Bytes} (fit : fits payload) :
    Grows fits transport (transport.send payload).2 := by
  unfold send
  split
  next place session _ _ =>
    split
    · exact .refl transport
    · split
      · exact .refl transport
      · exact alter_grows transport place fun session =>
          ⟨[payload], session.held, by simpa using fit, rfl⟩
  · exact .refl transport

end SocketTransport

namespace Connection

open Wait SocketTransport

variable {α β : Type}

/-! ## What calls do to the transport -/

/-- All that a call can do to the transport, unless it opens the connection. -/
inductive Uses (β : Type) [Wire β] (connection : Connection SocketTransport α) :
    SocketTransport → Prop
  | leaves : Uses β connection connection.transport
  | stops : Uses β connection connection.transport.stop
  | sends (body : β) : Uses β connection
    (connection.transport.send (Wire.encode (Frame.mk connection.counter.draw.1 body))).2

theorem Uses.grows [Wire β] {connection : Connection SocketTransport α} {after : SocketTransport}
    (uses : Uses β connection after) :
    Grows (Carries β connection.counter.draw.1) connection.transport after := by
  cases uses with
  | leaves => exact .refl _
  | stops => exact stop_grows _
  | sends body => exact send_grows _ ⟨body, rfl⟩

theorem encode_ok [Wire β] {frame : Frame β} {limit : Nat} {payload : Bytes}
    (encoded : frame.encode limit = .ok payload) : payload = Wire.encode frame := by
  unfold Frame.encode at encoded
  dsimp only at encoded
  split at encoded <;> cases encoded
  rfl

theorem transport_disconnect (connection : Connection SocketTransport α) :
    connection.disconnect.transport = connection.transport ∨
      connection.disconnect.transport = connection.transport.stop := by
  cases stops : stoppable connection.state.1 with
  | true =>
    rw [disconnect_of_stoppable stops, stop_over]
    exact .inr rfl
  | false =>
    rw [disconnect_of_other stops]
    exact .inl rfl

theorem uses_of_stop [Wire β] {connection : Connection SocketTransport α} {after : SocketTransport}
    (either : after = connection.transport ∨ after = connection.transport.stop) :
    Uses β connection after := by
  rcases either with rfl | rfl
  · exact .leaves
  · exact .stops

theorem transport_conclude (url : Url) (connection : Connection SocketTransport α) :
    (connection.conclude url).2.transport = connection.transport ∨
      (connection.conclude url).2.transport = connection.transport.stop := by
  have stopped := transport_disconnect connection
  rw [conclude, readiness_over]
  cases connection.transport.readiness with
  | ready => exact .inl rfl
  | connecting | closing | closed => exact stopped

theorem send_uses [Wire β] (body : β) (connection : Connection SocketTransport α) :
    Uses β connection (connection.send body).2.transport := by
  by_cases ready : connection.state.1 = .socket .ready
  · rw [send_of_ready body ready]
    split
    · exact .leaves
    next payload encoded =>
      have sent : Uses β connection
          (hand payload { connection with counter := connection.counter.draw.2 }).2.transport := by
        rw [encode_ok encoded]
        exact .sends body
      split <;> next same =>
        rw [same] at sent
        exact sent
  · rw [send_of_other body ready]
    exact .leaves

theorem beginRequest_uses [Wire β] (body : β) (timeout : Duration)
    (connection : Connection SocketTransport α) :
    Uses β connection (connection.beginRequest body timeout).2.transport := by
  by_cases ready : connection.state.1 = .socket .ready
  · rw [beginRequest_of_ready body timeout ready]
    split
    · exact .leaves
    next payload encoded =>
      have sent : Uses β connection
          (hand payload { connection with counter := connection.counter.draw.2 }).2.transport := by
        rw [encode_ok encoded]
        exact .sends body
      split <;> next same =>
        rw [same] at sent
        exact sent
  · rw [beginRequest_of_other body timeout ready]
    exact .leaves

section Unattended

variable {σ : Type}

theorem transport_hear (reports : List Report) (connection : Connection σ α) :
    (connection.hear reports).transport = connection.transport := by
  unfold hear
  split <;> rfl

theorem transport_beginReceive (timeout : Duration) (connection : Connection σ α) :
    (connection.beginReceive timeout).2.transport = connection.transport := by
  unfold beginReceive
  dsimp only
  split <;> rfl

theorem transport_attend (call : Call) (connection : Connection σ α) :
    (connection.attend call).2.transport = connection.transport := by
  unfold attend
  dsimp only
  split <;> split <;> rfl

theorem transport_retire (call : Call) (connection : Connection σ α) :
    (connection.retire call).transport = connection.transport := by
  unfold retire
  split <;> rfl

theorem transport_cancel (ticket : Ticket) (connection : Connection σ α) :
    (connection.cancel ticket).2.transport = connection.transport := by
  unfold cancel
  split <;> rfl

theorem transport_deliver [Wire α] (data : Bytes) (connection : Connection σ α) :
    (connection.deliver data).transport = connection.transport := by
  unfold deliver
  split
  · rfl
  · split
    · split <;> rfl
    · rfl

theorem transport_take [Wire α] (event : Event) (connection : Connection σ α) :
    (connection.take event).transport = connection.transport := by
  cases event with
  | opened | closed => rfl
  | message data => exact transport_deliver data connection

end Unattended

theorem transport_handleTimeout (timeout : Duration) (connection : Connection SocketTransport α) :
    (connection.handleTimeout timeout).transport = connection.transport ∨
      (connection.handleTimeout timeout).transport = connection.transport.stop := by
  unfold handleTimeout
  dsimp only
  split
  · rw [stop_over]
    split <;> exact .inr rfl
  · exact .inl rfl

theorem transport_lapse (call : Call) (connection : Connection SocketTransport α) :
    (connection.lapse call).2.transport = connection.transport ∨
      (connection.lapse call).2.transport = connection.transport.stop := by
  have attended := transport_attend call connection
  unfold lapse
  split
  next same =>
    rw [same] at attended
    exact .inl attended
  next left same =>
    rw [same] at attended
    have retired := transport_retire call (left.quit call)
    have handled := transport_handleTimeout call.timeout ((left.quit call).retire call)
    rw [retired, show (left.quit call).transport = _ from attended] at handled
    exact handled

namespace Course

theorem transport_look (dial : Dial) (course : Course α) :
    (course.look dial).connection.transport = course.connection.transport ∨
      (course.look dial).connection.transport = course.connection.transport.stop := by
  rcases look_eq dial course with ⟨attempts, same⟩ | same <;> rw [same]
  · exact .inl rfl
  · exact transport_conclude dial.url course.connection

def happensAt (place : Nat) : Move β → Option Happening
  | .session other happening => if other = place then some happening else none
  | _ => none

inductive Befalls (fits : Bytes → Prop) (place : Nat) (move : Move β) :
    Option Session → Option Session → Prop
  | absent : Befalls fits place move none none
  | begins (session : Session) (new : session.IsNew) : Befalls fits place move none (some session)
  | goes (session left : Session) (goes : session.Goes fits (happensAt place move) left) :
    Befalls fits place move (some session) (some left)

variable {fits : Bytes → Prop}

theorem befalls_of_grows {before after : SocketTransport} {place : Nat} {move : Move β}
    (grows : Grows fits before after) (quiet : happensAt place move = none) :
    Befalls fits place move before.sessions[place]? after.sessions[place]? := by
  have here := grows place
  revert here
  cases before.sessions[place]? <;> cases after.sessions[place]? <;> intro here
  · exact .absent
  · cases here
  · cases here
  next session left =>
    cases here with
    | some grown => exact .goes session left (quiet ▸ .grows left grown)

theorem befalls_of_start {before stopped : SocketTransport} {place : Nat} {move : Move β}
    (grows : Grows fits before stopped) (quiet : happensAt place move = none) (url : String)
    (channel : Nat) :
    Befalls fits place move before.sessions[place]? (stopped.start url channel).sessions[place]? := by
  have grown := (grows.trans (stop_grows stopped))
  have kept := befalls_of_grows grown quiet
  unfold start
  dsimp only
  rcases Nat.lt_trichotomy place stopped.stop.sessions.length with old | new | beyond
  · rw [List.getElem?_append_left old]
    exact kept
  · have empty := grown place
    rw [List.getElem?_eq_none (Nat.le_of_eq new.symm)] at empty
    rw [new, List.getElem?_concat_length, ← new]
    cases vacant : before.sessions[place]? with
    | none => exact .begins _ ⟨rfl, rfl, rfl, rfl⟩
    | some session =>
      rw [vacant] at empty
      cases empty
  · have short : (stopped.stop.sessions ++ [Session.mk url channel stopped.stop.autoReconnect
        .dialing .connecting true [] 0 []]).length ≤ place := by
      rw [List.length_append, List.length_singleton]
      omega
    rw [List.getElem?_eq_none (Nat.le_of_lt beyond)] at kept
    rw [List.getElem?_eq_none short]
    exact kept

theorem befalls_of_same {before after : SocketTransport} {place : Nat} {move : Move β}
    (same : after = before) (quiet : happensAt place move = none) :
    Befalls fits place move before.sessions[place]? after.sessions[place]? := by
  subst same
  exact befalls_of_grows (.refl after) quiet

theorem befalls_of_happens {before after : SocketTransport} {place other : Nat}
    {happening : Happening} {reports : List Report} {log : List Log.Event}
    (happens : before.happen? other happening = some (after, reports, log)) :
    Befalls fits place (.session other happening : Move β) before.sessions[place]?
      after.sessions[place]? := by
  obtain ⟨session, effect, found, does, rfl, _⟩ := happen?_some happens
  rw [getElem?_alter]
  by_cases here : other = place
  · subst here
    rw [found, Option.map_some, if_pos rfl]
    have own : happensAt other (.session other happening : Move β) = some happening := if_pos rfl
    exact .goes _ _ (own ▸ .turns _ _ effect.events (Session.turn_of_step? does))
  · have quiet : happensAt place (.session other happening : Move β) = none := if_neg here
    cases there : before.sessions[place]? with
    | none => exact .absent
    | some session =>
      rw [Option.map_some, if_neg here]
      exact .goes session session (quiet ▸ .grows session (.refl session))

theorem step?_befalls [Wire α] [Wire β] {course next : Course α} {move : Move β}
    (step : course.step? move = some next) (place : Nat) :
    Befalls (Carries β course.connection.counter.draw.1) place move
      course.connection.transport.sessions[place]? next.connection.transport.sessions[place]? := by
  cases step?_makes step with
  | fails => exact befalls_of_same rfl rfl
  | dials url =>
    obtain ⟨log, dialled⟩ := dial_eq url _ course.connection
    rw [dialled]
    exact befalls_of_start (uses_of_stop (transport_disconnect course.connection)).grows rfl _ _
  | looks dial => exact befalls_of_grows (uses_of_stop (transport_look dial course)).grows rfl
  | sends body => exact befalls_of_grows (send_uses body course.connection).grows rfl
  | receives timeout => exact befalls_of_same (transport_beginReceive timeout course.connection) rfl
  | requests body timeout =>
    exact befalls_of_grows (beginRequest_uses body timeout course.connection).grows rfl
  | waits call found attended | returns call outcome found attended =>
    have looked := transport_attend call course.connection
    rw [attended] at looked
    exact befalls_of_same looked rfl
  | cancels ticket cancelled =>
    have dropped := transport_cancel ticket course.connection
    rw [cancelled] at dropped
    exact befalls_of_same dropped rfl
  | lapses call => exact befalls_of_grows (uses_of_stop (transport_lapse call course.connection)).grows rfl
  | pumps channel event events =>
    exact befalls_of_same
      (transport_take event { course.connection with pump := some ⟨channel, events⟩ }) rfl
  | disconnects =>
    exact befalls_of_grows (uses_of_stop (transport_disconnect course.connection)).grows rfl
  | stirs transport reports log happens =>
    change Befalls _ place _ _ (Connection.hear reports
      { course.connection with transport }).transport.sessions[place]?
    rw [transport_hear]
    exact befalls_of_happens happens
  | passes span => exact befalls_of_same rfl rfl

end Course

end Connection

end FrameLink.Link
