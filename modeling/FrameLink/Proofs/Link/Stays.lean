import Mathlib
import FrameLink.Proofs.Link.Entries
/-!
What leaves a connection as it is, as far as its calls can tell. Whatever a transport does at once reaches
only the pump, so the operations that do no more than use the transport leave the exchange alone.
-/

namespace FrameLink.Link.Connection

open Wait

variable {σ α β : Type}

/-- The session that is followed is the same, and so is how calls are treated. -/
structure SameSession (before after : Connection σ α) : Prop where
  settings : after.settings = before.settings
  channels : after.channels = before.channels
  channel : after.pump.map (·.channel) = before.pump.map (·.channel)

theorem SameSession.refl (connection : Connection σ α) : SameSession connection connection :=
  ⟨rfl, rfl, rfl⟩

theorem SameSession.trans {first second third : Connection σ α} (one : SameSession first second)
    (two : SameSession second third) : SameSession first third :=
  ⟨two.settings.trans one.settings, two.channels.trans one.channels,
    two.channel.trans one.channel⟩

structure Stays (before after : Connection σ α) : Prop extends SameSession before after where
  exchange : after.exchange = before.exchange
  calls : after.calls = before.calls
  tickets : after.tickets = before.tickets

theorem Stays.refl (connection : Connection σ α) : Stays connection connection :=
  ⟨.refl _, rfl, rfl, rfl⟩

theorem Stays.trans {first second third : Connection σ α} (one : Stays first second)
    (two : Stays second third) : Stays first third :=
  ⟨one.toSameSession.trans two.toSameSession, two.exchange.trans one.exchange,
    two.calls.trans one.calls, two.tickets.trans one.tickets⟩

theorem hear_stays (reports : List Report) (connection : Connection σ α) :
    Stays connection (connection.hear reports) := by
  unfold hear
  split
  · exact .refl connection
  next pump heard => exact ⟨⟨rfl, rfl, by simp [heard]⟩, rfl, rfl, rfl⟩

theorem carried_stays (transport : σ) (reports : List Report) (connection : Connection σ α) :
    Stays connection ({ connection with transport }.hear reports) := by
  have heard := hear_stays reports { connection with transport }
  exact ⟨⟨heard.settings, heard.channels, heard.channel⟩, heard.exchange, heard.calls,
    heard.tickets⟩

theorem say_stays (level : Log.Level) (message : String) (connection : Connection σ α) :
    Stays connection (connection.say level message) := ⟨⟨rfl, rfl, rfl⟩, rfl, rfl, rfl⟩

section Unattended

variable [Transport σ]

theorem readiness_stays (connection : Connection σ α) :
    Stays connection connection.readiness.2 := by
  simp only [readiness]
  exact carried_stays ..

theorem state_stays (connection : Connection σ α) : Stays connection connection.state.2 := by
  unfold state
  split
  · exact readiness_stays connection
  · exact .refl connection

theorem stop_stays (connection : Connection σ α) : Stays connection connection.stop := by
  simp only [stop]
  exact carried_stays ..

theorem disconnect_stays (connection : Connection σ α) : Stays connection connection.disconnect := by
  have looked := state_stays connection
  unfold disconnect
  cases seen : connection.state with
  | mk state left =>
    rw [seen] at looked
    have stopped : Stays connection (left.say .debug s!"Disconnecting ({state.text})").stop :=
      looked.trans ((say_stays _ _ left).trans (stop_stays _))
    cases state with
    | idle => exact looked
    | socket readiness =>
      cases readiness with
      | closing | closed => exact looked
      | connecting | ready => exact stopped

theorem conclude_stays (url : Url) (connection : Connection σ α) :
    Stays connection (connection.conclude url).2 := by
  have looked := readiness_stays connection
  unfold conclude
  split
  next seen =>
    rw [seen] at looked
    exact looked.trans (say_stays ..)
  next readiness left _ seen =>
    rw [seen] at looked
    exact looked.trans ((disconnect_stays left).trans (say_stays ..))

theorem send_stays [Wire β] (body : β) (connection : Connection σ α) :
    Stays connection (connection.send body).2 := by
  have looked := state_stays connection
  unfold send
  cases seen : connection.state with
  | mk state left =>
    rw [seen] at looked
    cases state with
    | idle => exact looked.trans (say_stays ..)
    | socket readiness =>
      cases readiness with
      | connecting | closing | closed => exact looked.trans (say_stays ..)
      | ready =>
        refine looked.trans ?_
        dsimp only
        split
        · exact ⟨⟨rfl, rfl, rfl⟩, rfl, rfl, rfl⟩
        · split <;> exact ⟨⟨rfl, rfl, rfl⟩, rfl, rfl, rfl⟩

/-- Whether a request is registered, as far as can be told beforehand. -/
def registers [Wire β] (body : β) (connection : Connection σ α) : Bool :=
  connection.state.1 = .socket .ready &&
    ((Frame.mk connection.counter.draw.1 body).encode connection.limit).isOk

/-- A request is refused and leaves no trace, is registered and withdrawn at once, or is registered
and waits. -/
theorem beginRequest_cases [Wire β] {body : β} {timeout : Duration}
    {connection after : Connection σ α} {outcome : Option (Outcome α)}
    (begun : connection.beginRequest body timeout = (outcome, after)) :
    ((∃ fault, outcome = some (.error fault)) ∧ connection.registers body = false ∧
      Stays connection after) ∨
    (connection.registers body = true ∧ SameSession connection after ∧
      after.tickets = connection.tickets + 1 ∧
      let registered := connection.exchange.register connection.counter.draw.1 connection.tickets
      ((∃ fault, outcome = some (.error fault)) ∧ after.calls = connection.calls ∧
        after.exchange = (registered.forget connection.counter.draw.1).release connection.tickets) ∨
      (outcome = none ∧ after.exchange = registered ∧
        ∃ call : Call, after.calls = connection.calls ++ [call] ∧
          call.ticket = connection.tickets ∧ call.purpose = .request connection.counter.draw.1)) := by
  have looked := state_stays connection
  have kept := books_state [] connection
  unfold beginRequest at begun
  cases seen : connection.state with
  | mk state left =>
    rw [seen] at begun looked kept
    have counter : left.counter = connection.counter := congrArg Books.counter kept
    have limit : left.limit = connection.limit :=
      congrArg (fun settings => settings.maxFrameBytes.toNat) looked.settings
    simp only [registers, seen, ← counter, ← limit, ← looked.exchange, ← looked.tickets,
      ← looked.calls]
    cases state with
    | idle =>
      cases begun
      exact .inl ⟨⟨_, rfl⟩, by simp, looked⟩
    | socket readiness =>
      cases readiness with
      | connecting | closing | closed =>
        cases begun
        exact .inl ⟨⟨_, rfl⟩, by simp, looked⟩
      | ready =>
        simp only [decide_true, Bool.true_and]
        dsimp only at begun
        split at begun
        next fault encoded =>
          cases begun
          refine .inl ⟨⟨_, rfl⟩, congrArg Except.isOk encoded, ?_⟩
          exact ⟨⟨looked.settings, looked.channels, looked.channel⟩, looked.exchange, looked.calls,
            looked.tickets⟩
        next payload encoded =>
          refine .inr ⟨congrArg Except.isOk encoded, ?_⟩
          split at begun
          · cases begun
            exact ⟨⟨looked.settings, looked.channels, looked.channel⟩, rfl,
              .inl ⟨⟨_, rfl⟩, rfl, rfl⟩⟩
          · cases begun
            exact ⟨⟨looked.settings, looked.channels, looked.channel⟩, rfl,
              .inr ⟨rfl, rfl, _, rfl, rfl, rfl⟩⟩

/-- A dial that is carried out follows a new session from then on, or none. It is silent about what is
unread and what is outstanding. -/
theorem dial_effect (url : Url) (verbose : Bool) (connection : Connection σ α) :
    let after := (connection.dial url verbose).2
    after.exchange = { connection.exchange with verbose } ∧ after.calls = connection.calls ∧
      after.tickets = connection.tickets ∧ after.settings = connection.settings ∧
      after.channels = connection.channels + 1 ∧
      (after.pump.map (·.channel) = none ∨ after.pump.map (·.channel) = some connection.channels) := by
  have idle := disconnect_stays connection
  have exchange : ({ connection.disconnect.exchange with verbose } : Exchange α) =
      { connection.exchange with verbose } := by rw [idle.exchange]
  have channels : connection.disconnect.channels + 1 = connection.channels + 1 := by
    rw [idle.channels]
  unfold dial
  dsimp only
  split
  · exact ⟨exchange, idle.calls, idle.tickets, idle.settings, channels, .inl rfl⟩
  next transport reports _ =>
    have heard := hear_stays reports { connection.disconnect with
      transport, started := true
      pump := some ⟨connection.disconnect.channels, []⟩
      exchange := { connection.disconnect.exchange with verbose }
      channels := connection.disconnect.channels + 1 }
    refine ⟨heard.exchange.trans exchange, heard.calls.trans idle.calls,
      heard.tickets.trans idle.tickets, heard.settings.trans idle.settings,
      heard.channels.trans channels, .inr (heard.channel.trans ?_)⟩
    exact congrArg some idle.channels

/-- What runs out of time does to what calls share: unless the policy is to fail the call only, what is
unread is discarded; and the callback is called. -/
theorem handleTimeout_effect (timeout : Duration) (connection : Connection σ α) :
    let after := connection.handleTimeout timeout
    SameSession connection after ∧ after.calls = connection.calls ∧
      after.tickets = connection.tickets ∧
      after.exchange = { connection.exchange with
        inbox := if connection.settings.timeoutPolicy = .disconnect then
          connection.exchange.inbox.quietly fun _ => [] else connection.exchange.inbox
        callbacks := connection.exchange.callbacks.fireTimeout } := by
  unfold handleTimeout
  dsimp only
  cases connection.settings.timeoutPolicy with
  | failCall => exact ⟨⟨rfl, rfl, rfl⟩, rfl, rfl, rfl⟩
  | disconnect =>
    have stopped := (say_stays .warn
      s!"⏱️ No response within {timeout.text}; dropping the connection" connection).trans
        (stop_stays _)
    generalize (connection.say _ _).stop = left at stopped
    simp only [if_true, ← stopped.exchange]
    split <;> next cleared =>
      obtain rfl := congrArg Prod.snd cleared
      exact ⟨⟨stopped.settings, stopped.channels, stopped.channel⟩, stopped.calls, stopped.tickets,
        rfl⟩

end Unattended

end FrameLink.Link.Connection
