import Mathlib
import FrameLink.Proofs.Link.Stays
import FrameLink.Scenario.Rehearsed
/-!
When opening a connection ends, on a clock that moves only while it is waited, and whatever the
readiness of the transport does over time: at the first look that finds it no longer connecting, or with
the last interval.
-/

namespace FrameLink.Link

open Wait

section Looks

variable {σ : Type} [Transport σ]

def lookedAt (moments : List Instant) (transport : σ) : σ :=
  moments.foldl (fun transport moment => (Transport.readiness moment transport).2.1) transport

/-- From a moment on, whoever looks at the transport finds the readiness that it has at that time,
however often it was looked at before. -/
def Shows (ready : Instant → Readiness) (since : Instant) (transport : σ) : Prop :=
  ∀ moments now, (since :: (moments ++ [now])).Pairwise (· ≤ ·) →
    (Transport.readiness now (lookedAt moments transport)).1 = ready now

variable {ready : Instant → Readiness} {since now : Instant} {transport : σ}

theorem Shows.found (shows : Shows ready since transport) (later : since ≤ now) :
    (Transport.readiness now transport).1 = ready now :=
  shows [] now (by simp [later])

theorem Shows.look (shows : Shows ready since transport) (later : since ≤ now) :
    Shows ready now (lookedAt [now] transport) := by
  intro moments last ordered
  refine shows (now :: moments) last (List.pairwise_cons.mpr ⟨?_, ordered⟩)
  intro moment member
  rcases List.mem_cons.mp member with rfl | after
  · exact later
  · exact later.trans (List.rel_of_pairwise_cons ordered after)

theorem Shows.wait (shows : Shows ready since transport) (later : since ≤ now) :
    Shows ready now transport := by
  intro moments last ordered
  refine shows moments last (List.pairwise_cons.mpr ⟨?_, (List.pairwise_cons.mp ordered).2⟩)
  exact fun moment member => later.trans (List.rel_of_pairwise_cons ordered member)

open Scenario in
theorem shows_rehearsed (since : Instant) (transport : Rehearsed) :
    Shows (fun now => if transport.opensAt.any (· ≤ now) then .ready else transport.ready) since
      transport := by
  intro moments now ordered
  induction moments generalizing since transport with
  | nil =>
    simp only [lookedAt, List.foldl_nil, Transport.readiness, Rehearsed.look]
    split <;> simp_all
  | cons moment rest ih =>
    have ordered := (List.pairwise_cons.mp ordered).2
    have later : moment ≤ now := List.rel_of_pairwise_cons ordered (by simp)
    have rehearsed := ih moment (transport.look moment).2.1 ordered
    refine Eq.trans (by rfl) (rehearsed.trans ?_)
    by_cases opens : transport.opensAt.any (· ≤ moment)
    · have opened : transport.opensAt.any (· ≤ now) := by
        cases known : transport.opensAt with
        | none => simp [known] at opens
        | some instant =>
          have past : instant ≤ moment := by simpa [known] using opens
          simpa using past.trans later
      simp [Rehearsed.look, opens, opened]
    · simp [Rehearsed.look, opens]

end Looks

namespace Connection

variable {σ α : Type}

/-- Time passes, the transport is looked at at the moments given, and nothing else of what opening a
connection depends on has changed. -/
structure Elapses [Transport σ] (moments : List Instant) (span : Nat)
    (before after : Connection σ α) : Prop where
  settings : after.settings = before.settings
  started : after.started = before.started
  calls : after.calls = before.calls
  now : after.now = before.now + span
  transport : after.transport = lookedAt moments before.transport

section Steps

variable [Transport σ] {moments : List Instant} {span : Nat} {ready : Instant → Readiness}

theorem Elapses.refl (connection : Connection σ α) : Elapses [] 0 connection connection :=
  ⟨rfl, rfl, rfl, rfl, rfl⟩

theorem Elapses.trans {first second third : Connection σ α} {later : List Instant} {rest : Nat}
    (one : Elapses moments span first second) (two : Elapses later rest second third) :
    Elapses (moments ++ later) (span + rest) first third where
  settings := two.settings.trans one.settings
  started := two.started.trans one.started
  calls := two.calls.trans one.calls
  now := by rw [two.now, one.now, Nat.add_assoc]
  transport := by simp only [two.transport, one.transport, lookedAt, List.foldl_append]

theorem hear_elapses (reports : List Report) (connection : Connection σ α) :
    Elapses [] 0 connection (connection.hear reports) := by
  unfold hear
  split <;> exact ⟨rfl, rfl, rfl, rfl, rfl⟩

theorem deliver_elapses [Wire α] (data : Bytes) (connection : Connection σ α) :
    Elapses [] 0 connection (connection.deliver data) := by
  unfold deliver
  split
  · exact ⟨rfl, rfl, rfl, rfl, rfl⟩
  · split
    · split <;> exact ⟨rfl, rfl, rfl, rfl, rfl⟩
    · exact ⟨rfl, rfl, rfl, rfl, rfl⟩

theorem take_elapses [Wire α] (connection : Connection σ α) (event : Event) :
    Elapses [] 0 connection (connection.take event) := by
  cases event with
  | opened | closed reason => exact ⟨rfl, rfl, rfl, rfl, rfl⟩
  | message data => exact deliver_elapses data connection

theorem drain_elapses [Wire α] (connection : Connection σ α) :
    Elapses [] 0 connection connection.drain := by
  unfold drain
  split
  · exact .refl _
  next pump _ =>
    have taken (events : List Event) (connection : Connection σ α) :
        Elapses [] 0 connection (events.foldl take connection) := by
      induction events generalizing connection with
      | nil => exact .refl connection
      | cons event rest ih => exact (take_elapses connection event).trans (ih _)
    have heard := taken pump.events { connection with pump := some { pump with events := [] } }
    exact ⟨heard.settings, heard.started, heard.calls, heard.now, heard.transport⟩

theorem readiness_elapses (connection : Connection σ α) :
    Elapses [connection.now] 0 connection connection.readiness.2 := by
  have heard := hear_elapses (Transport.readiness connection.now connection.transport).2.2
    { connection with transport := lookedAt [connection.now] connection.transport }
  exact ⟨heard.settings, heard.started, heard.calls, heard.now, heard.transport⟩

theorem sleep_elapses [Wire α] (span : Duration) {connection : Connection σ α}
    (calm : connection.calls = []) :
    Elapses [] span.nanos connection (connection.sleep span).2 := by
  have drained := drain_elapses connection
  have nobody : connection.drain.calls = [] := drained.calls.trans calm
  have settled : connection.settle = ([], connection.drain) := by
    have none : connection.drain.alert = [] := by simp [alert, call?, nobody]
    rw [settle, none, attendAll]
  have due : passing (connection.now + span.nanos) connection.drain.deadlines = [] := by
    simp [deadlines, nobody, passing]
  rw [sleep, settled]
  dsimp only
  rw [due, reach]
  exact ⟨drained.settings, drained.started, drained.calls, rfl, drained.transport⟩

theorem stop_elapses (connection : Connection σ α) :
    Elapses [] 0 { connection with transport := (Transport.stop connection.transport).1 }
      connection.stop :=
  hear_elapses _ _

theorem readiness_found {connection : Connection σ α}
    (shows : Shows ready connection.now connection.transport) :
    connection.readiness.1 = ready connection.now :=
  shows.found le_rfl

theorem readiness_shows {connection : Connection σ α}
    (shows : Shows ready connection.now connection.transport) :
    Shows ready connection.readiness.2.now connection.readiness.2.transport := by
  have looked := readiness_elapses connection
  rw [looked.now, looked.transport]
  exact shows.look le_rfl

theorem poll_elapses [Wire α] {connection : Connection σ α} (calm : connection.calls = [])
    (shows : Shows ready connection.now connection.transport) :
    let left := (connection.readiness.2.sleep connection.readiness.2.settings.pollInterval).2
    Elapses [connection.now] connection.settings.pollInterval.nanos connection left ∧
      Shows ready left.now left.transport := by
  have looked := readiness_elapses connection
  have polled := looked.trans (sleep_elapses connection.readiness.2.settings.pollInterval
    (looked.calls.trans calm))
  rw [looked.settings, Nat.zero_add] at polled
  rw [looked.settings]
  refine ⟨polled, ?_⟩
  rw [polled.now, polled.transport]
  exact (shows.look le_rfl).wait (Nat.le_add_right ..)

end Steps

/-! ## The wait for the handshake -/

/-- The transport is connecting at the end of every interval before this one. So many intervals are all,
or it is no longer connecting at their end. -/
def Settles (ready : Instant → Readiness) (interval : Duration) (attempts : Nat) (start : Instant)
    (count : Nat) : Prop :=
  IsLeast {count | count ≤ attempts ∧
    (count = attempts ∨ ready (start + count * interval.nanos) ≠ .connecting)} count

section Attempts

variable {ready : Instant → Readiness} {interval : Duration} {attempts count : Nat} {start : Instant}

theorem settles_used_up : Settles ready interval 0 start 0 :=
  ⟨⟨le_rfl, .inl rfl⟩, fun _ _ => Nat.zero_le _⟩

theorem settles_at_once (settled : ready start ≠ .connecting) :
    Settles ready interval attempts start 0 :=
  ⟨⟨Nat.zero_le _, .inr (by simpa using settled)⟩, fun _ _ => Nat.zero_le _⟩

theorem Settles.poll (connecting : ready start = .connecting)
    (settles : Settles ready interval attempts (start + interval.nanos) count) :
    Settles ready interval (attempts + 1) start (count + 1) := by
  have shift (count : Nat) :
      start + (count + 1) * interval.nanos = start + interval.nanos + count * interval.nanos := by
    ring
  obtain ⟨⟨within, ended⟩, least⟩ := settles
  refine ⟨⟨Nat.succ_le_succ within, ?_⟩, ?_⟩
  · rw [shift]
    exact ended.imp_left (congrArg (· + 1))
  · rintro (_ | earlier) ⟨within, ended⟩
    · simp [connecting] at ended
    · rw [shift] at ended
      exact Nat.succ_le_succ (least ⟨Nat.le_of_succ_le_succ within, ended.imp_left Nat.succ.inj⟩)

variable [Transport σ] [Wire α]

theorem awaitHandshake_over {connection : Connection σ α}
    (settled : connection.readiness.1 ≠ .connecting) :
    connection.awaitHandshake (attempts + 1) = connection.readiness.2 := by
  rw [awaitHandshake]
  split
  next looked => exact absurd (congrArg Prod.fst looked) settled
  next looked => rw [looked]

theorem awaitHandshake_poll {connection : Connection σ α}
    (connecting : connection.readiness.1 = .connecting) :
    connection.awaitHandshake (attempts + 1) = awaitHandshake attempts
      (connection.readiness.2.sleep connection.readiness.2.settings.pollInterval).2 := by
  rw [awaitHandshake]
  split
  next looked => rw [looked]
  next other looked => exact absurd (by rw [looked] at connecting; exact connecting) other

/-- By induction on the attempts that are left: a look that finds the transport connecting uses one up,
and from the end of the interval on it shows what it would have shown. -/
theorem awaitHandshake_settles (attempts : Nat) {connection : Connection σ α}
    (calm : connection.calls = []) (shows : Shows ready connection.now connection.transport) :
    ∃ count moments,
      Settles ready connection.settings.pollInterval attempts connection.now count ∧
      Elapses moments (count * connection.settings.pollInterval.nanos) connection
        (connection.awaitHandshake attempts) ∧
      Shows ready (connection.awaitHandshake attempts).now
        (connection.awaitHandshake attempts).transport := by
  induction attempts generalizing connection with
  | zero => exact ⟨0, [], settles_used_up, by simpa [awaitHandshake] using .refl connection, shows⟩
  | succ attempts ih =>
    have found := readiness_found shows
    by_cases connecting : ready connection.now = .connecting
    · obtain ⟨polled, later⟩ := poll_elapses calm shows
      obtain ⟨count, moments, settles, waited, shows⟩ := ih (polled.calls.trans calm) later
      rw [polled.settings] at settles waited
      rw [polled.now] at settles
      rw [awaitHandshake_poll (found.trans connecting)]
      refine ⟨count + 1, connection.now :: moments, settles.poll connecting, ?_, shows⟩
      rw [Nat.succ_mul, Nat.add_comm]
      exact polled.trans waited
    · rw [awaitHandshake_over (by rwa [found])]
      exact ⟨0, _, settles_at_once connecting, by simpa using readiness_elapses connection,
        readiness_shows shows⟩

end Attempts

/-! ## How it ends -/

section Ends

variable [Transport σ] {ready : Instant → Readiness}

theorem disconnect_now (connection : Connection σ α) :
    connection.disconnect.now = connection.now := by
  have looked : connection.state.2.now = connection.now := by
    unfold state
    split
    · exact (readiness_elapses connection).now
    · rfl
  unfold disconnect
  cases seen : connection.state with
  | mk state left =>
    rw [seen] at looked
    have stopped (message : String) : (left.say .debug message).stop.now = connection.now :=
      (stop_elapses (left.say .debug message)).now.trans looked
    cases state with
    | idle => exact looked
    | socket readiness =>
      cases readiness with
      | closing | closed => exact looked
      | connecting | ready => exact stopped _

theorem disconnect_transport {connection : Connection σ α} (started : connection.started)
    (shows : Shows ready connection.now connection.transport) :
    connection.disconnect.transport =
      match ready connection.now with
      | .closing | .closed => lookedAt [connection.now] connection.transport
      | .connecting | .ready =>
        (Transport.stop (lookedAt [connection.now] connection.transport)).1 := by
  have looked := readiness_elapses connection
  have state : connection.state = (.socket (ready connection.now), connection.readiness.2) := by
    rw [← readiness_found shows]
    simp [Connection.state, started]
  unfold disconnect
  rw [state]
  cases ready connection.now with
  | closing | closed => exact looked.transport
  | connecting | ready =>
    have stopped (message : String) := stop_elapses (connection.readiness.2.say .debug message)
    rw [← looked.transport]
    exact (stopped _).transport

theorem conclude_ends (url : Url) {connection : Connection σ α} (started : connection.started)
    (shows : Shows ready connection.now connection.transport) :
    (connection.conclude url).1 =
        (if ready connection.now = .ready then .ok () else .error (.handshakeTimeout url.text
          connection.settings.maxAttempts.toNat (.socket (ready connection.now)))) ∧
      (connection.conclude url).2.now = connection.now ∧
      ∃ moments, (connection.conclude url).2.transport =
        if ready connection.now = .connecting then
          (Transport.stop (lookedAt moments connection.transport)).1
        else lookedAt moments connection.transport := by
  have looked := readiness_elapses connection
  have found := readiness_found shows
  have given := disconnect_transport (looked.started.trans started) (readiness_shows shows)
  rw [looked.now, Nat.add_zero, ← found] at given
  rw [← found]
  unfold conclude
  split
  next left seen =>
    rw [seen] at looked
    simp only [seen, reduceCtorEq, if_true, if_false]
    exact ⟨trivial, looked.now, _, looked.transport⟩
  next readiness left other seen =>
    rw [seen] at looked given
    simp only [seen, if_neg other]
    refine ⟨by rw [looked.settings], (disconnect_now left).trans looked.now,
      [connection.now, connection.now], given.trans ?_⟩
    rw [looked.transport]
    cases readiness with
    | ready => exact absurd rfl other
    | connecting | closing | closed => rfl

theorem dial_starts {url : Url} {verbose : Bool} {connection dialled : Connection σ α}
    (started : connection.dial url verbose = (.ok (), dialled)) :
    dialled.settings = connection.settings ∧ dialled.calls = connection.calls ∧ dialled.started ∧
      dialled.now = connection.now := by
  have effect := dial_effect url verbose connection
  rw [started] at effect
  refine ⟨effect.2.2.2.1, effect.2.1, ?_⟩
  unfold dial at started
  dsimp only at started
  split at started
  · cases started
  next transport reports _ =>
    cases started
    have heard := hear_elapses reports { connection.disconnect with
      transport, started := true
      pump := some ⟨connection.disconnect.channels, []⟩
      exchange := { connection.disconnect.exchange with verbose }
      channels := connection.disconnect.channels + 1 }
    exact ⟨heard.started, heard.now.trans (disconnect_now connection)⟩

theorem connect_of_dialled [Wire α] {address : String} {port : UInt16} {verbose : Bool} {url : Url}
    {connection dialled : Connection σ α}
    (addressed : Url.ofEndpoint address port connection.settings.path = .ok url)
    (started : connection.dial url verbose = (.ok (), dialled)) :
    connection.connect address port verbose =
      (dialled.awaitHandshake dialled.settings.maxAttempts.toNat).conclude url := by
  unfold connect
  split
  next refused => rw [addressed] at refused; cases refused
  next same =>
    cases addressed.symm.trans same
    rw [started]

/-- Opening a connection ends when the first interval ends after which the transport is no longer
connecting, or else the last one. It succeeds if the transport is open then, and otherwise names what it
is; one that is still connecting is stopped. -/
theorem connect_ends_on_settling [Wire α] {address : String} {port : UInt16} {verbose : Bool}
    {url : Url} {connection dialled : Connection σ α} (calm : connection.calls = [])
    (addressed : Url.ofEndpoint address port connection.settings.path = .ok url)
    (started : connection.dial url verbose = (.ok (), dialled))
    (shows : Shows ready connection.now dialled.transport) :
    let interval := connection.settings.pollInterval
    let attempts := connection.settings.maxAttempts.toNat
    let connected := connection.connect address port verbose
    let after := connected.2
    (∃ count, Settles ready interval attempts connection.now count ∧
      after.now = connection.now + count * interval.nanos) ∧
      after.now ≤ connection.now + interval.nanos * attempts ∧
      connected.1 = (if ready after.now = .ready then .ok ()
        else .error (.handshakeTimeout url.text attempts (.socket (ready after.now)))) ∧
      ∃ moments, after.transport =
        if ready after.now = .connecting then
          (Transport.stop (lookedAt moments dialled.transport)).1
        else lookedAt moments dialled.transport := by
  dsimp only
  obtain ⟨settings, calls, running, now⟩ := dial_starts started
  rw [connect_of_dialled addressed started, settings]
  rw [← now] at shows
  obtain ⟨count, moments, settles, waited, shows⟩ :=
    awaitHandshake_settles connection.settings.maxAttempts.toNat (calls.trans calm) shows
  generalize dialled.awaitHandshake connection.settings.maxAttempts.toNat = left at *
  obtain ⟨outcome, still, looks, transport⟩ :=
    conclude_ends url (waited.started.trans running) shows
  rw [still]
  rw [settings, now] at settles
  have ended := waited.now
  rw [settings, now] at ended
  refine ⟨⟨count, settles, ended⟩, ?_, ?_, moments ++ looks, ?_⟩
  · rw [ended, Nat.mul_comm]
    exact Nat.add_le_add_left (Nat.mul_le_mul_left _ settles.1.1) _
  · rw [outcome, waited.settings, settings]
  · rw [transport, waited.transport]
    simp only [lookedAt, List.foldl_append]

end Ends

/-- Looked at every 100 ms, a socket that opens after 250 ms is found open at 300 ms. -/
theorem opens_between_looks :
    let connection : Connection Scenario.Rehearsed String :=
      { settings := { pollInterval := .ofMillis 100, maxAttempts := 4 }
        transport := { onStart := .connecting, openAfter := some (.ofMillis 250) } }
    let connected := connection.connect "localhost" 9000 false
    connected.1 = .ok () ∧ connected.2.now = 300000000 := by
  intro connection
  let url : Url := ⟨"", none, "localhost", some 9000, "/sc2api", none, none⟩
  let dialled := (connection.dial url false).2
  let opening : Instant := 0 + (Duration.ofMillis 250).nanos
  let ready : Instant → Readiness :=
    fun now => if (some opening).any (· ≤ now) then .ready else .connecting
  have calm : connection.calls = [] := rfl
  have addressed : Url.ofEndpoint "localhost" 9000 connection.settings.path = .ok url := by
    unfold Url.ofEndpoint
    decide +kernel
  have started : connection.dial url false = (.ok (), dialled) := rfl
  have shows : Shows ready connection.now dialled.transport := shows_rehearsed _ _
  obtain ⟨⟨count, settles, ended⟩, _, outcome, _⟩ :=
    connect_ends_on_settling calm addressed started shows
  have third : Settles ready (.ofMillis 100) 4 0 3 :=
    (((settles_at_once (by decide)).poll (by decide)).poll (by decide)).poll (by decide)
  obtain rfl : count = 3 := settles.unique third
  have interval : 0 + 3 * (Duration.ofMillis 100).nanos = 300000000 := by decide
  have now : (connection.connect "localhost" 9000 false).2.now = 300000000 :=
    ended.trans interval
  rw [now] at outcome
  exact ⟨outcome.trans (if_pos (by decide)), now⟩

end Connection

end FrameLink.Link
