import Mathlib
import FrameLink.Link.Connection.Course
import FrameLink.Proofs.Link.Session
/-!
What the calls of a connection over sockets do to its transport. Only opening the connection starts a
session; all else sends, stops or leaves the transport alone.
-/

namespace FrameLink.Link

namespace SocketTransport

def Act.isStart : Act → Bool
  | .start .. => true
  | _ => false

def Leads (before after : SocketTransport) : Prop :=
  ∃ acts : List Act, (∀ act ∈ acts, act.isStart = false) ∧ after = before.run acts

theorem Leads.refl (transport : SocketTransport) : Leads transport transport :=
  ⟨[], by simp, rfl⟩

theorem Leads.trans {first second third : SocketTransport} (one : Leads first second)
    (two : Leads second third) : Leads first third := by
  obtain ⟨acts, none, rfl⟩ := one
  obtain ⟨later, neither, rfl⟩ := two
  refine ⟨acts ++ later, ?_, (run_append acts later first).symm⟩
  intro act member
  rcases List.mem_append.mp member with early | late
  · exact none act early
  · exact neither act late

theorem Leads.single (transport : SocketTransport) (act : Act) (other : act.isStart = false) :
    Leads transport (transport.act act) :=
  ⟨[act], by simpa using other, rfl⟩

theorem Leads.stop (transport : SocketTransport) : Leads transport transport.stop :=
  .single transport .stop rfl

theorem Leads.send (transport : SocketTransport) (payload : Bytes) :
    Leads transport (transport.send payload).2 :=
  .single transport (.send payload) rfl

theorem Leads.happen {before after : SocketTransport} {place : Nat} {happening : Happening}
    {reports : List Report} {log : List Log.Event}
    (happens : before.happen? place happening = some (after, reports, log)) :
    Leads before after := by
  have leads := Leads.single before (.session place happening) rfl
  simpa only [act, happens] using leads

theorem Leads.sound {before after : SocketTransport} (leads : Leads before after)
    (sound : before.Sound) : after.Sound := by
  obtain ⟨acts, _, rfl⟩ := leads
  exact sound.run acts

theorem Leads.autoReconnect {before after : SocketTransport} (leads : Leads before after) :
    after.autoReconnect = before.autoReconnect := by
  obtain ⟨acts, _, rfl⟩ := leads
  exact run_autoReconnect acts before

end SocketTransport

namespace Connection

open Wait SocketTransport

variable {α β : Type}

@[simp] theorem hear_nil {σ : Type} (connection : Connection σ α) :
    connection.hear [] = connection := by
  unfold hear
  split
  · rfl
  next pump heard => simp [← heard]

@[simp] theorem readiness_over (connection : Connection SocketTransport α) :
    connection.readiness = (connection.transport.readiness, connection) :=
  Prod.ext rfl (hear_nil connection)

theorem state_over (connection : Connection SocketTransport α) :
    connection.state =
      (if connection.started then .socket connection.transport.readiness else .idle, connection) := by
  unfold state
  split <;> simp

@[simp] theorem state_snd (connection : Connection SocketTransport α) :
    connection.state.2 = connection := by
  rw [state_over]

@[simp] theorem stop_over (connection : Connection SocketTransport α) :
    connection.stop = { connection with transport := connection.transport.stop } :=
  hear_nil { connection with transport := connection.transport.stop }

def stoppable : State → Bool
  | .socket .connecting | .socket .ready => true
  | _ => false

theorem disconnect_of_stoppable {connection : Connection SocketTransport α}
    (stops : stoppable connection.state.1 = true) :
    connection.disconnect =
      (connection.say .debug s!"Disconnecting ({connection.state.1.text})").stop := by
  rw [state_over] at stops ⊢
  rw [disconnect, state_over]
  split at stops
  · cases readiness : connection.transport.readiness <;> simp_all [stoppable]
  · simp [stoppable] at stops

theorem disconnect_of_other {connection : Connection SocketTransport α}
    (stays : stoppable connection.state.1 = false) : connection.disconnect = connection := by
  rw [state_over] at stays
  rw [disconnect, state_over]
  split at stays
  · cases readiness : connection.transport.readiness <;> simp_all [stoppable]
  · simp_all

/-! ## What every call keeps -/

structure Proceeds (before after : Connection SocketTransport α) : Prop where
  started : after.started = before.started
  settings : after.settings = before.settings
  leads : Leads before.transport after.transport

theorem Proceeds.refl (connection : Connection SocketTransport α) :
    Proceeds connection connection := ⟨rfl, rfl, .refl _⟩

theorem Proceeds.trans {first second third : Connection SocketTransport α}
    (one : Proceeds first second) (two : Proceeds second third) : Proceeds first third :=
  ⟨two.started.trans one.started, two.settings.trans one.settings, one.leads.trans two.leads⟩

theorem hear_proceeds (reports : List Report) (connection : Connection SocketTransport α) :
    Proceeds connection (connection.hear reports) := by
  unfold hear
  split <;> exact ⟨rfl, rfl, .refl _⟩

theorem disconnect_proceeds (connection : Connection SocketTransport α) :
    Proceeds connection connection.disconnect := by
  cases stops : stoppable connection.state.1 with
  | true =>
    rw [disconnect_of_stoppable stops]
    rw [stop_over]
    exact ⟨rfl, rfl, .stop _⟩
  | false =>
    rw [disconnect_of_other stops]
    exact .refl _

theorem conclude_proceeds (url : Url) (connection : Connection SocketTransport α) :
    Proceeds connection (connection.conclude url).2 := by
  have stopped := disconnect_proceeds connection
  rw [conclude, readiness_over]
  cases connection.transport.readiness with
  | ready => exact ⟨rfl, rfl, .refl _⟩
  | connecting | closing | closed => exact ⟨stopped.started, stopped.settings, stopped.leads⟩

def hand (payload : Bytes) (connection : Connection SocketTransport α) :
    Except Error Unit × Connection SocketTransport α :=
  ((connection.transport.send payload).1,
    { connection with transport := (connection.transport.send payload).2 })

theorem send_of_ready [Wire β] (body : β) {connection : Connection SocketTransport α}
    (ready : connection.state.1 = .socket .ready) :
    connection.send body =
      match (Frame.mk connection.counter.draw.1 body).encode connection.limit with
      | .error fault =>
        (.error (.frame fault), { connection with counter := connection.counter.draw.2 })
      | .ok payload =>
        match hand payload { connection with counter := connection.counter.draw.2 } with
        | (.error fault, sent) => (.error fault, sent)
        | (.ok (), sent) => (.ok (some connection.counter.draw.1), sent.chat
            s!"📤 Sent request {connection.counter.draw.1.text} ({payload.length} bytes)") := by
  have seen : connection.state = (.socket .ready, connection) :=
    Prod.ext ready (state_snd connection)
  rw [send, seen]
  change (match (Frame.mk connection.counter.draw.1 body).encode connection.limit with
    | .error fault => _
    | .ok payload => _) = _
  cases (Frame.mk connection.counter.draw.1 body).encode connection.limit with
  | error fault => rfl
  | ok payload =>
    cases sent : connection.transport.send payload with
    | mk outcome transport =>
      have taken : Transport.send payload connection.transport = (outcome, transport) := sent
      cases outcome <;> simp only [hand, taken, sent] <;> rfl

theorem send_of_other [Wire β] (body : β) {connection : Connection SocketTransport α}
    (other : connection.state.1 ≠ .socket .ready) :
    connection.send body = (.ok none,
      connection.say .warn s!"Send skipped: connection is {connection.state.1.text}") := by
  have seen : connection.state = (connection.state.1, connection) :=
    Prod.ext rfl (state_snd connection)
  rw [send, seen]
  split
  next same => exact absurd (congrArg Prod.fst same) other
  next same =>
    cases same
    rfl

theorem beginRequest_of_ready [Wire β] (body : β) (timeout : Duration)
    {connection : Connection SocketTransport α} (ready : connection.state.1 = .socket .ready) :
    connection.beginRequest body timeout =
      match (Frame.mk connection.counter.draw.1 body).encode connection.limit with
      | .error fault =>
        (some (.error (.frame fault)), { connection with counter := connection.counter.draw.2 })
      | .ok payload =>
        match hand payload { connection with counter := connection.counter.draw.2 } with
        | (.error fault, sent) =>
          (some (.error fault), { sent with
            exchange := ((connection.exchange.register connection.counter.draw.1
              connection.tickets).forget connection.counter.draw.1).release connection.tickets
            tickets := connection.tickets + 1 })
        | (.ok (), sent) =>
          (none, ({ sent with
              exchange := connection.exchange.register connection.counter.draw.1
                connection.tickets }.chat
            s!"📤 Sent correlated request {connection.counter.draw.1.text}").wait
              (.request connection.counter.draw.1) timeout) := by
  have seen : connection.state = (.socket .ready, connection) :=
    Prod.ext ready (state_snd connection)
  rw [beginRequest, seen]
  change (match (Frame.mk connection.counter.draw.1 body).encode connection.limit with
    | .error fault => _
    | .ok payload => _) = _
  cases (Frame.mk connection.counter.draw.1 body).encode connection.limit with
  | error fault => rfl
  | ok payload =>
    cases sent : connection.transport.send payload with
    | mk outcome transport =>
      have taken : Transport.send payload connection.transport = (outcome, transport) := sent
      cases outcome <;> simp only [hand, taken, sent] <;> rfl

theorem beginRequest_of_other [Wire β] (body : β) (timeout : Duration)
    {connection : Connection SocketTransport α} (other : connection.state.1 ≠ .socket .ready) :
    connection.beginRequest body timeout =
      (some (.error (.notConnected connection.state.1)), connection) := by
  have seen : connection.state = (connection.state.1, connection) :=
    Prod.ext rfl (state_snd connection)
  rw [beginRequest, seen]
  split
  next same => exact absurd (congrArg Prod.fst same) other
  next same =>
    cases same
    rfl

theorem hand_proceeds (payload : Bytes) (connection : Connection SocketTransport α) :
    Proceeds connection (hand payload connection).2 :=
  ⟨rfl, rfl, .send _ payload⟩

theorem send_proceeds [Wire β] (body : β) (connection : Connection SocketTransport α) :
    Proceeds connection (connection.send body).2 := by
  by_cases ready : connection.state.1 = .socket .ready
  · rw [send_of_ready body ready]
    split
    · exact ⟨rfl, rfl, .refl _⟩
    next payload _ =>
      have handed := hand_proceeds payload
        { connection with counter := connection.counter.draw.2 }
      split
      next same =>
        rw [same] at handed
        exact ⟨handed.started, handed.settings, handed.leads⟩
      next same =>
        rw [same] at handed
        exact ⟨handed.started, handed.settings, handed.leads⟩
  · rw [send_of_other body ready]
    exact ⟨rfl, rfl, .refl _⟩

theorem beginRequest_proceeds [Wire β] (body : β) (timeout : Duration)
    (connection : Connection SocketTransport α) :
    Proceeds connection (connection.beginRequest body timeout).2 := by
  by_cases ready : connection.state.1 = .socket .ready
  · rw [beginRequest_of_ready body timeout ready]
    split
    · exact ⟨rfl, rfl, .refl _⟩
    next payload _ =>
      have handed := hand_proceeds payload
        { connection with counter := connection.counter.draw.2 }
      split
      next same =>
        rw [same] at handed
        exact ⟨handed.started, handed.settings, handed.leads⟩
      next same =>
        rw [same] at handed
        exact ⟨handed.started, handed.settings, handed.leads⟩
  · rw [beginRequest_of_other body timeout ready]
    exact .refl _

theorem beginReceive_proceeds (timeout : Duration) (connection : Connection SocketTransport α) :
    Proceeds connection (connection.beginReceive timeout).2 := by
  unfold beginReceive
  dsimp only
  split <;> exact ⟨rfl, rfl, .refl _⟩

theorem attend_proceeds (call : Call) (connection : Connection SocketTransport α) :
    Proceeds connection (connection.attend call).2 := by
  unfold attend
  dsimp only
  split
  · split <;> exact ⟨rfl, rfl, .refl _⟩
  · split <;> exact ⟨rfl, rfl, .refl _⟩

theorem handleTimeout_proceeds (timeout : Duration) (connection : Connection SocketTransport α) :
    Proceeds connection (connection.handleTimeout timeout) := by
  unfold handleTimeout
  dsimp only
  split
  · rw [stop_over]
    split <;> exact ⟨rfl, rfl, .stop _⟩
  · exact ⟨rfl, rfl, .refl _⟩

theorem retire_proceeds (call : Call) (connection : Connection SocketTransport α) :
    Proceeds connection (connection.retire call) := by
  unfold retire
  split <;> exact ⟨rfl, rfl, .refl _⟩

theorem lapse_proceeds (call : Call) (connection : Connection SocketTransport α) :
    Proceeds connection (connection.lapse call).2 := by
  have attended := attend_proceeds call connection
  unfold lapse
  split
  next same =>
    rw [same] at attended
    exact ⟨attended.started, attended.settings, attended.leads⟩
  next left same =>
    rw [same] at attended
    have retired := retire_proceeds call (left.quit call)
    have handled := handleTimeout_proceeds call.timeout ((left.quit call).retire call)
    have both := retired.trans handled
    exact attended.trans ⟨both.started, both.settings, both.leads⟩

theorem cancel_proceeds (ticket : Ticket) (connection : Connection SocketTransport α) :
    Proceeds connection (connection.cancel ticket).2 := by
  unfold cancel
  split <;> exact ⟨rfl, rfl, .refl _⟩

theorem deliver_proceeds [Wire α] (data : Bytes) (connection : Connection SocketTransport α) :
    Proceeds connection (connection.deliver data) := by
  unfold deliver
  split
  · exact ⟨rfl, rfl, .refl _⟩
  · split
    · split <;> exact ⟨rfl, rfl, .refl _⟩
    · exact ⟨rfl, rfl, .refl _⟩

theorem take_proceeds [Wire α] (event : Event) (connection : Connection SocketTransport α) :
    Proceeds connection (connection.take event) := by
  cases event with
  | opened => exact ⟨rfl, rfl, .refl _⟩
  | message data => exact deliver_proceeds data connection
  | closed reason => exact ⟨rfl, rfl, .refl _⟩

theorem dial_eq (url : Url) (verbose : Bool) (connection : Connection SocketTransport α) :
    ∃ log, connection.dial url verbose = (.ok (),
      { connection with
        transport := connection.disconnect.transport.start url.text connection.channels
        exchange := { connection.exchange with verbose }
        started := true
        pump := some { channel := connection.channels }
        channels := connection.channels + 1
        log }) := by
  cases stops : stoppable connection.state.1 with
  | true =>
    rw [dial, disconnect_of_stoppable stops, stop_over]
    exact ⟨_, rfl⟩
  | false =>
    rw [dial, disconnect_of_other stops]
    exact ⟨_, rfl⟩

/-! ## Moves -/

namespace Course

def isDial : Move β → Bool
  | .dials .. => true
  | _ => false

theorem look_eq (dial : Dial) (course : Course α) :
    (∃ attempts, course.look dial = { course with dial := some { dial with attempts } }) ∨
      course.look dial = { course with
        connection := (course.connection.conclude dial.url).2
        dial := none
        opened := course.opened ++ [(course.connection.conclude dial.url).1] } := by
  unfold look
  split
  next attempts _ _ same =>
    rw [readiness_over] at same
    rw [← (Prod.mk.inj same).2]
    exact .inl ⟨attempts, rfl⟩
  · exact .inr rfl

theorem look_proceeds (dial : Dial) (course : Course α) :
    Proceeds course.connection (course.look dial).connection := by
  rcases look_eq dial course with ⟨attempts, same⟩ | same <;> rw [same]
  · exact .refl _
  · exact conclude_proceeds dial.url course.connection

/-- A move that can be made, and what comes of it. -/
inductive Makes [Wire α] [Wire β] (course : Course α) : Move β → Course α → Prop
  | fails {address : String} {port : UInt16} {verbose : Bool} (message : String)
    (idle : course.dial = none) (quiet : course.connection.calls = []) :
    Makes course (.dials address port verbose)
      { course with opened := course.opened ++ [.error (.invalidEndpoint message)] }
  | dials {address : String} {port : UInt16} {verbose : Bool} (url : Url)
    (idle : course.dial = none) (quiet : course.connection.calls = []) :
    Makes course (.dials address port verbose) { course with
      connection := (course.connection.dial url verbose).2
      dial := some ⟨url, (course.connection.dial url verbose).2.settings.maxAttempts.toNat⟩ }
  | looks (dial : Dial) (dialing : course.dial = some dial) :
    Makes course .looks (course.look dial)
  | sends (body : β) (idle : course.dial = none) :
    Makes course (.sends body) { course with connection := (course.connection.send body).2 }
  | receives (timeout : Duration) (idle : course.dial = none) :
    Makes course (.receives timeout)
      (course.note course.connection.tickets (course.connection.beginReceive timeout))
  | requests (body : β) (timeout : Duration) (idle : course.dial = none) :
    Makes course (.requests body timeout)
      (course.note course.connection.tickets (course.connection.beginRequest body timeout))
  | waits {ticket : Ticket} (call : Call) {left : Connection SocketTransport α}
    (found : course.connection.call? ticket = some call)
    (attended : course.connection.attend call = (none, left)) :
    Makes course (.attends ticket) { course with connection := left }
  | returns {ticket : Ticket} (call : Call) (outcome : Outcome α)
    {left : Connection SocketTransport α} (found : course.connection.call? ticket = some call)
    (attended : course.connection.attend call = (some outcome, left)) :
    Makes course (.attends ticket) (course.note ticket (some outcome, left.remove ticket))
  | cancels (ticket : Ticket) {left : Connection SocketTransport α}
    (cancelled : course.connection.cancel ticket = (true, left)) :
    Makes course (.cancels ticket) { course with connection := left }
  | lapses {ticket : Ticket} (call : Call) (found : course.connection.call? ticket = some call)
    (late : ¬course.connection.now < call.deadline) :
    Makes course (.lapses ticket)
      (course.note ticket
        (some (course.connection.lapse call).1, (course.connection.lapse call).2))
  | pumps (channel : Nat) (event : Event) (events : List Event)
    (heard : course.connection.pump = some ⟨channel, event :: events⟩) :
    Makes course .pumps { course with
      connection := { course.connection with pump := some ⟨channel, events⟩ }.take event }
  | disconnects (idle : course.dial = none) :
    Makes course .disconnects { course with connection := course.connection.disconnect }
  | stirs {place : Nat} {happening : Happening} (transport : SocketTransport)
    (reports : List Report) (log : List Log.Event)
    (happens : course.connection.transport.happen? place happening = some (transport, reports, log)) :
    Makes course (.session place happening) { course with
      connection := { ({ course.connection with transport }.hear reports) with
        log := ({ course.connection with transport }.hear reports).log ++ log } }
  | passes (span : Duration) :
    Makes course (.passes span) { course with
      connection.now := course.connection.now + span.nanos }

theorem pump?_makes [Wire α] [Wire β] {course next : Course α} (step : course.pump? = some next) :
    course.Makes (.pumps : Move β) next := by
  unfold pump? at step
  cases heard : course.connection.pump with
  | none => simp [heard] at step
  | some pump =>
    obtain ⟨channel, events⟩ := pump
    cases events with
    | nil => simp [heard] at step
    | cons event events =>
      simp only [heard, Option.bind_eq_bind, Option.bind_some, Option.pure_def,
        Option.some.injEq] at step
      subst step
      exact .pumps channel event events heard

theorem use?_makes [Wire α] [Wire β] {course next : Course α} {move : Move β}
    (idle : course.dial = none) (use : course.use? move = some next) : course.Makes move next := by
  cases move with
  | dials address port verbose =>
    simp only [use?] at use
    split at use
    next quiet =>
      have quiet := List.isEmpty_iff.mp quiet
      split at use
      next message _ =>
        cases use
        exact .fails message idle quiet
      next url _ =>
        have made : course.Makes (.dials address port verbose : Move β) _ := .dials url idle quiet
        obtain ⟨log, dialled⟩ := dial_eq url verbose course.connection
        rw [dialled] at use made
        cases use
        exact made
    · cases use
  | sends body =>
    cases use
    exact .sends body idle
  | receives timeout =>
    cases use
    exact .receives timeout idle
  | requests body timeout =>
    cases use
    exact .requests body timeout idle
  | disconnects =>
    cases use
    exact .disconnects idle
  | looks | attends | cancels | lapses | pumps | session | passes => cases use

theorem step?_makes [Wire α] [Wire β] {course next : Course α} {move : Move β}
    (step : course.step? move = some next) : course.Makes move next := by
  have used (one : Move β)
      (use : (if course.dial.isNone then course.use? one else none) = some next) :
      course.Makes one next := by
    split at use
    next idle => exact use?_makes (Option.isNone_iff_eq_none.mp idle) use
    · cases use
  cases move with
  | dials address port verbose => exact used _ step
  | sends body => exact used _ step
  | receives timeout => exact used _ step
  | requests body timeout => exact used _ step
  | disconnects => exact used _ step
  | looks =>
    obtain ⟨dial, dialing, rfl⟩ := Option.map_eq_some_iff.mp step
    exact .looks dial dialing
  | attends ticket =>
    obtain ⟨call, found, step⟩ := Option.bind_eq_some_iff.mp step
    split at step <;> cases step
    next outcome left attended => exact .returns call outcome found attended
    next left attended => exact .waits call found attended
  | cancels ticket =>
    simp only [step?] at step
    split at step <;> cases step
    next left cancelled => exact .cancels ticket cancelled
  | lapses ticket =>
    obtain ⟨call, found, step⟩ := Option.bind_eq_some_iff.mp step
    split at step <;> cases step
    next late => exact .lapses call found late
  | pumps => exact pump?_makes step
  | session place happening =>
    obtain ⟨⟨transport, reports, log⟩, happens, step⟩ := Option.bind_eq_some_iff.mp step
    cases step
    exact .stirs transport reports log happens
  | passes span =>
    cases step
    exact .passes span

/-- A move that opens nothing keeps what every call keeps, and begins no dial. -/
theorem step?_proceeds [Wire α] [Wire β] {course next : Course α} {move : Move β}
    (step : course.step? move = some next) (other : isDial move = false) :
    Proceeds course.connection next.connection ∧ (course.dial = none → next.dial = none) := by
  cases step?_makes step with
  | fails | dials => simp [isDial] at other
  | looks dial dialing => exact ⟨look_proceeds dial course, fun idle => by simp [idle] at dialing⟩
  | sends body => exact ⟨send_proceeds body course.connection, id⟩
  | receives timeout => exact ⟨beginReceive_proceeds timeout course.connection, id⟩
  | requests body timeout => exact ⟨beginRequest_proceeds body timeout course.connection, id⟩
  | waits call found attended =>
    have looked := attend_proceeds call course.connection
    rw [attended] at looked
    exact ⟨looked, id⟩
  | returns call outcome found attended =>
    have looked := attend_proceeds call course.connection
    rw [attended] at looked
    exact ⟨⟨looked.started, looked.settings, looked.leads⟩, id⟩
  | cancels ticket cancelled =>
    have dropped := cancel_proceeds ticket course.connection
    rw [cancelled] at dropped
    exact ⟨dropped, id⟩
  | lapses call => exact ⟨lapse_proceeds call course.connection, id⟩
  | pumps channel event events =>
    have taken := take_proceeds event { course.connection with pump := some ⟨channel, events⟩ }
    exact ⟨⟨taken.started, taken.settings, taken.leads⟩, id⟩
  | disconnects => exact ⟨disconnect_proceeds course.connection, id⟩
  | stirs transport reports log happens =>
    have heard := hear_proceeds reports { course.connection with transport }
    exact ⟨⟨heard.started, heard.settings, (Leads.happen happens).trans heard.leads⟩, id⟩
  | passes span => exact ⟨⟨rfl, rfl, .refl _⟩, id⟩

/-- Opening waits for no call. It fails on an endpoint that is none, and changes nothing then, or
starts a session. -/
theorem step?_dials [Wire α] [Wire β] {course next : Course α} {address : String} {port : UInt16}
    {verbose : Bool} (step : course.step? (.dials address port verbose : Move β) = some next) :
    course.dial = none ∧ course.connection.calls = [] ∧ next.finished = course.finished ∧
      (next.connection = course.connection ∨ ∃ url log, next.connection =
        { course.connection with
          transport := course.connection.disconnect.transport.start url course.connection.channels
          exchange := { course.connection.exchange with verbose }
          started := true
          pump := some { channel := course.connection.channels }
          channels := course.connection.channels + 1
          log }) := by
  cases step?_makes step with
  | fails message idle quiet => exact ⟨idle, quiet, rfl, .inl rfl⟩
  | dials url idle quiet =>
    obtain ⟨log, dialled⟩ := dial_eq url verbose course.connection
    exact ⟨idle, quiet, rfl, .inr ⟨_, log, congrArg Prod.snd dialled⟩⟩

theorem step?_sound [Wire α] [Wire β] {course next : Course α} {move : Move β}
    (step : course.step? move = some next) (sound : course.connection.transport.Sound) :
    next.connection.transport.Sound := by
  cases opens : isDial move with
  | false => exact (step?_proceeds step opens).1.leads.sound sound
  | true =>
    cases move with
    | dials address port verbose =>
      have stopped := (disconnect_proceeds course.connection).leads.sound sound
      obtain ⟨_, _, _, same | ⟨url, log, same⟩⟩ := step?_dials step <;> rw [same]
      · exact sound
      · exact stopped.start _ _
    | _ => simp [isDial] at opens

theorem step?_autoReconnect [Wire α] [Wire β] {course next : Course α} {move : Move β}
    (step : course.step? move = some next) :
    next.connection.transport.autoReconnect = course.connection.transport.autoReconnect := by
  cases opens : isDial move with
  | false => exact (step?_proceeds step opens).1.leads.autoReconnect
  | true =>
    cases move with
    | dials address port verbose =>
      have stopped := (disconnect_proceeds course.connection).leads.autoReconnect
      obtain ⟨_, _, _, same | ⟨url, log, same⟩⟩ := step?_dials step <;> rw [same]
      exact (act_autoReconnect _ (.start url course.connection.channels)).trans stopped
    | _ => simp [isDial] at opens

theorem step?_session [Wire α] [Wire β] {course : Course α} {place : Nat} {session : Session}
    {happening : Happening} {effect : Session.Effect}
    (found : course.connection.transport.sessions[place]? = some session)
    (does : session.step? happening = some effect) :
    ∃ next, course.step? (.session place happening : Move β) = some next ∧
      next.connection.started = course.connection.started ∧
      next.connection.transport = course.connection.transport.alter place fun _ => effect.session := by
  have happens : course.connection.transport.happen? place happening =
      some (course.connection.transport.alter place fun _ => effect.session,
        effect.events.map fun event => ⟨session.channel, event⟩, effect.log) := by
    simp [happen?, found, does]
  refine ⟨_, by simp [step?, happens]; rfl, ?_, ?_⟩
  · exact (hear_proceeds _ _).started
  · unfold hear
    split <;> rfl

theorem run_keeps [Wire α] [Wire β] {keeps : Course α → Prop} {allowed : Move β → Prop}
    (each : ∀ course next move, allowed move → course.step? move = some next → keeps course →
      keeps next) (moves : List (Move β)) (all : ∀ move ∈ moves, allowed move) (course : Course α)
    (first : keeps course) : keeps (course.run moves) := by
  induction moves generalizing course with
  | nil => exact first
  | cons move moves ih =>
    have later := fun move member => all move (List.mem_cons_of_mem _ member)
    cases step : course.step? move with
    | none =>
      simp only [run, List.foldl_cons, step, Option.getD_none]
      exact ih later course first
    | some next =>
      simp only [run, List.foldl_cons, step, Option.getD_some]
      exact ih later next (each course next move (all move (List.mem_cons_self ..)) step first)

theorem run_sound [Wire α] [Wire β] (settings : ConnectSettings) (moves : List (Move β)) :
    ((ofSettings settings : Course α).run moves).connection.transport.Sound := by
  have each : ∀ (course next : Course α) (move : Move β), True → course.step? move = some next →
      course.connection.transport.Sound → next.connection.transport.Sound :=
    fun _ _ _ _ step sound => step?_sound step sound
  exact run_keeps each moves (fun _ _ => trivial) _ (sound_new settings.autoReconnect)

theorem run_autoReconnect [Wire α] [Wire β] (settings : ConnectSettings) (moves : List (Move β)) :
    ((ofSettings settings : Course α).run moves).connection.transport.autoReconnect =
      settings.autoReconnect := by
  have each : ∀ (course next : Course α) (move : Move β), True → course.step? move = some next →
      course.connection.transport.autoReconnect = settings.autoReconnect →
      next.connection.transport.autoReconnect = settings.autoReconnect :=
    fun _ _ _ _ step same => (step?_autoReconnect step).trans same
  exact run_keeps each moves (fun _ _ => trivial) _ rfl

end Course

end Connection

end FrameLink.Link
