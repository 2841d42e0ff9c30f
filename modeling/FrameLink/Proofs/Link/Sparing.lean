import Mathlib
import FrameLink.Proofs.Link.Receivers
/-!
A call that runs out of time under the policy to fail only the call: nobody else is concerned, and no
response is lost.
-/

namespace FrameLink.Link

open Wait

structure Exchange.Withdrawn {α : Type} (call : Call) (before after : Exchange α) : Prop where
  queue : after.inbox.queue = before.inbox.queue
  woken : after.inbox.bell.woken = before.inbox.bell.woken.erase call.ticket
  parked : after.inbox.bell.parked = before.inbox.bell.parked.erase call.ticket
  /-- A ring that is remembered may be spent only where nothing is unread. -/
  permit : after.inbox.bell.permit = before.inbox.bell.permit ∨ before.inbox.queue = []
  receipts : ∀ ticket, ticket ≠ call.ticket → after.receipt? ticket = before.receipt? ticket
  receive : call.purpose = .receive → after.pending = before.pending
  request : ∀ id, call.purpose = .request id → (id, call.ticket) ∈ before.pending.live ∧
    after.pending.live = before.pending.live.filter (fun entry => entry.1 != id) ∧
    after.pending.expired =
      (if before.pending.expired.length = Pending.expiredCapacity then before.pending.expired.drop 1
        else before.pending.expired) ++ [id]
  verbose : after.verbose = before.verbose

namespace Connection

variable {σ α β : Type} {connection : Connection σ α} {left : List (Correlation × Ticket)}

/-! ## The call that times out -/

theorem attend_found (ticket : Ticket) (place : Awaited (List α)) :
    (place.attend ticket).1 = place.queue.head? := by
  cases attended : place.attend ticket with
  | mk found left =>
    have queue := attend_queue attended
    obtain ⟨some, _⟩ | ⟨rfl, nothing, _⟩ := attend_bell attended
    · obtain ⟨item, rfl⟩ := Option.isSome_iff_exists.mp some
      rw [queue]
      rfl
    · rw [nothing]
      rfl

/-- A receive that looks in vain and gives up leaves only the line. -/
theorem withdraw_receive {call : Call} {looked : Connection σ α} (lined : connection.Lined)
    (purpose : call.purpose = .receive) (attended : connection.attend call = (none, looked)) :
    ∃ inbox, (looked.quit call).retire call =
        { connection with exchange := { connection.exchange with inbox } } ∧
      connection.exchange.Withdrawn call { connection.exchange with inbox } := by
  simp only [quit, retire, purpose]
  have once : (connection.exchange.inbox.bell.woken ++ connection.exchange.inbox.bell.parked).Nodup :=
    lined.once
  obtain ⟨sleeps, _, rfl⟩ | ⟨wakes, _, nothing, rfl⟩ | ⟨_, some, _⟩ :=
    attend_receive_cases purpose attended
  · refine ⟨_, rfl, ⟨rfl, ?_, ?_, ?_, fun _ _ => rfl, fun _ => rfl, fun id asks => ?_, rfl⟩⟩
    · simp [Awaited.leave, Bell.leave, sleeps, List.erase_of_not_mem sleeps]
    · simp [Awaited.leave, Bell.leave, sleeps]
    · simp [Awaited.leave, Bell.leave, sleeps]
    · cases purpose.symm.trans asks
  · -- It was woken for a response that somebody else has taken, and is parked once more.
    have apart : call.ticket ∉ connection.exchange.inbox.bell.parked :=
      List.disjoint_of_nodup_append once wakes
    have away : call.ticket ∉ connection.exchange.inbox.bell.woken.erase call.ticket :=
      (List.nodup_append.mp once).1.not_mem_erase
    refine ⟨_, rfl, ⟨nothing.symm, ?_, ?_, .inr nothing, fun _ _ => rfl, fun _ => rfl,
      fun id asks => ?_, rfl⟩⟩
    · simp [Awaited.leave, Bell.leave, away]
    · simp [Awaited.leave, Bell.leave, away, List.erase_append_right _ apart,
        List.erase_of_not_mem apart]
    · cases purpose.symm.trans asks
  · cases some

theorem withdraw_request {call : Call} {id : Correlation} {looked : Connection σ α}
    (lined : connection.Lined) (sound : Roll.Sound connection.roll left)
    (member : call ∈ connection.calls) (purpose : call.purpose = .request id)
    (attended : connection.attend call = (none, looked)) :
    ∃ pending receipts, (looked.quit call).retire call =
        { connection with exchange := { connection.exchange with pending, receipts } } ∧
      connection.exchange.Withdrawn call { connection.exchange with pending, receipts } := by
  obtain ⟨pending, _, rfl⟩ | ⟨_, some, _⟩ := attend_request_roll purpose attended
  · have registered : (id, call.ticket) ∈ looked.exchange.pending.live :=
      (sound.entries id call.ticket).mpr
        (.inl (Roll.mem_waiting.mpr ⟨call, member, rfl, purpose, pending⟩))
    have owned := (Pending.find?_eq_some_iff sound.numbers).mpr registered
    have retired := congrArg Books.receipt (books_retire [] purpose looked owned)
    have absent : call.ticket ∉ looked.exchange.inbox.bell.line :=
      lined.not_mem_request sound member purpose
    rw [Bell.line, List.mem_append, not_or] at absent
    simp only [quit, retire, purpose] at retired ⊢
    refine ⟨_, _, rfl, ⟨rfl, ?_, ?_, .inl rfl, fun ticket apart => ?_, fun receives => ?_,
      fun number asks => ?_, rfl⟩⟩
    · exact (List.erase_of_not_mem absent.1).symm
    · exact (List.erase_of_not_mem absent.2).symm
    · exact (congrFun retired ticket).trans (Function.update_of_ne apart ..)
    · cases purpose.symm.trans receives
    · obtain rfl := Purpose.request.inj (purpose.symm.trans asks)
      have expires : looked.exchange.pending.expire id = _ := Pending.expire_of_found owned
      exact ⟨registered, congrArg Pending.live expires, congrArg Pending.expired expires⟩
  · cases some

/-- What a call leaves behind that ran out of time, where the policy is to fail only the call. -/
structure Spares (call : Call) (before after : Connection σ α) : Prop where
  rest : after =
    { before with calls := after.calls, exchange := after.exchange, log := after.log }
  calls : after.calls = before.calls.filter fun other => other.ticket != call.ticket
  callbacks : after.exchange.callbacks = before.exchange.callbacks.fireTimeout
  shared : before.exchange.Withdrawn call after.exchange
  looks : ∀ other : Call, other.ticket ≠ call.ticket →
    (after.attend other).1 = (before.attend other).1

/-- What another call finds when it looks does not depend on who has given up. -/
theorem attend_withdrawn {call other : Call} {before after : Connection σ α}
    (withdrawn : before.exchange.Withdrawn call after.exchange)
    (apart : other.ticket ≠ call.ticket) : (after.attend other).1 = (before.attend other).1 := by
  cases purpose : other.purpose with
  | receive =>
    simp only [attend, purpose, withdrawn.woken, List.mem_erase_of_ne apart]
    split
    · have found : (after.exchange.inbox.wake other.ticket).1 =
          (before.exchange.inbox.wake other.ticket).1 := by
        simp only [Awaited.wake, attend_found, withdrawn.queue]
      exact congrArg (Option.map _) found
    · rfl
  | request id =>
    simp only [attend, purpose, withdrawn.receipts other.ticket apart]
    cases before.exchange.receipt? other.ticket with
    | none => rfl
    | some receipt => cases receipt <;> rfl

variable [Transport σ]

theorem handleTimeout_fails (timeout : Duration)
    (policy : connection.settings.timeoutPolicy = .failCall) :
    ∃ log, connection.handleTimeout timeout =
      { connection with exchange := connection.exchange.fireTimeout, log } := by
  unfold handleTimeout
  simp only [policy]
  exact ⟨_, rfl⟩

theorem lapse_spares {call : Call} (lined : connection.Lined)
    (sound : Roll.Sound connection.roll left) (member : call ∈ connection.calls)
    (policy : connection.settings.timeoutPolicy = .failCall)
    (vain : (connection.attend call).1 = none) :
    (connection.lapse call).1 = .error (.receiveTimeout call.timeout) ∧
      Spares call connection (connection.lapse call).2 := by
  have calls := lapse_calls call connection
  unfold lapse at calls ⊢
  cases attended : connection.attend call with
  | mk outcome looked =>
    rw [attended] at calls vain
    obtain rfl : outcome = none := vain
    obtain ⟨exchange, withdrew, callbacks, withdrawn⟩ : ∃ exchange,
        (looked.quit call).retire call = { connection with exchange } ∧
        exchange.callbacks = connection.exchange.callbacks ∧
        connection.exchange.Withdrawn call exchange := by
      cases purpose : call.purpose with
      | receive =>
        obtain ⟨inbox, withdrew, withdrawn⟩ := withdraw_receive lined purpose attended
        exact ⟨_, withdrew, rfl, withdrawn⟩
      | request id =>
        obtain ⟨pending, receipts, withdrew, withdrawn⟩ :=
          withdraw_request lined sound member purpose attended
        exact ⟨_, withdrew, rfl, withdrawn⟩
    have asked : ({ connection with exchange } : Connection σ α).settings.timeoutPolicy =
      .failCall := policy
    obtain ⟨log, handled⟩ := handleTimeout_fails call.timeout asked
    have shared : connection.exchange.Withdrawn call exchange.fireTimeout := { withdrawn with }
    dsimp only at calls ⊢
    rw [withdrew, handled] at calls ⊢
    exact ⟨rfl, ⟨rfl, calls, congrArg Callbacks.fireTimeout callbacks, shared,
      fun other apart => attend_withdrawn shared apart⟩⟩

/-! ## What comes and what is received -/

namespace Life

variable {life : Life σ α}

theorem lapses_step [Wire α] [Wire β] {ticket : Ticket} {call : Call}
    (found : life.connection.call? ticket = some call)
    (due : call.deadline ≤ life.connection.now) :
    life.step (.lapses ticket : Deed σ β) = life.finish ticket
      (some (life.connection.lapse call).1, (life.connection.lapse call).2) := by
  simp only [step, found, if_neg (Nat.not_lt.mpr due)]

/-- The response that a call returned, unless the call is a request. -/
def plain? (life : Life σ α) : Finished α → Option α
  | (ticket, .ok body) =>
    match life.connection.call? ticket with
    | some ⟨_, .request _, _, _⟩ => none
    | _ => some body
  | (_, .error _) => none

variable [Wire α] [Wire β]

/-- What the calls return that a deed ends and that are no requests. -/
def received (life : Life σ α) (deed : Deed σ β) : List α :=
  ((life.step deed).finished.drop life.finished.length).filterMap life.plain?

/-- Where a timeout fails only the call, what was unread and what comes is received, or still unread. -/
theorem account_step (policy : life.connection.settings.timeoutPolicy = .failCall)
    (new : life.connection.call? life.connection.tickets = none) (deed : Deed σ β) :
    life.unread ++ (life.arrival? deed).toList =
      life.received deed ++ (life.step deed).unread := by
  have flow := life.flow deed
  unfold received
  generalize life.step deed = next at flow ⊢
  generalize life.arrival? deed = came at flow ⊢
  cases flow with
  | waits queue finished => simp [queue, finished]
  | fails ticket fault queue finished =>
    rcases queue with same | ⟨_, disconnect⟩
    · simp [same, finished, plain?]
    · cases policy.symm.trans disconnect
  | answers call id body found purpose queue finished =>
    have asked : life.plain? (call.ticket, .ok body) = none := by
      obtain ⟨ticket, _, timeout, deadline⟩ := call
      obtain rfl := purpose
      simp [plain?, found]
    simp [queue, finished, asked]
  | returns ticket body whose queue finished =>
    have plain : life.plain? (ticket, .ok body) = some body := by
      rcases whose with rfl | ⟨call, found, purpose⟩
      · simp [plain?, new]
      · obtain ⟨ticket, _, timeout, deadline⟩ := call
        obtain rfl := purpose
        simp [plain?, found]
    simp [queue, finished, plain]
  | arrives pump body heard queue finished => simp [queue, finished]

end Life

namespace Traced

variable [Wire α] [Wire β] {traced : Traced σ α} {settings : ConnectSettings}

/-- The responses that come to the inbox, in the order in which they come. -/
def arrivals : List (Use σ β) → Traced σ α → List α
  | [], _ => []
  | .does deed :: rest, traced =>
    (traced.life.arrival? deed).toList ++ arrivals rest (traced.step deed)
  | .hooks onTimeout onClosed :: rest, traced => arrivals rest (traced.hook onTimeout onClosed)

def received : List (Use σ β) → Traced σ α → List α
  | [], _ => []
  | .does deed :: rest, traced => traced.life.received deed ++ received rest (traced.step deed)
  | .hooks onTimeout onClosed :: rest, traced => received rest (traced.hook onTimeout onClosed)

theorem Regular.account (regular : traced.Regular settings)
    (policy : settings.timeoutPolicy = .failCall) (all : List (Use σ β)) :
    traced.life.unread ++ traced.arrivals all =
      traced.received all ++ (traced.uses all).life.unread := by
  induction all generalizing traced with
  | nil => exact List.append_nil _
  | cons use rest ih =>
    have later := ih (regular.use use)
    cases use with
    | hooks onTimeout onClosed => exact later
    | does deed =>
      obtain ⟨left, sound⟩ := regular.sound
      have new : traced.life.connection.call? traced.life.connection.tickets = none := by
        rw [call?, List.find?_eq_none]
        intro call member same
        exact (sound.early call member).ne (beq_iff_eq.mp same)
      have asked : traced.life.connection.settings.timeoutPolicy = .failCall := by
        rw [regular.settings]
        exact policy
      have step := traced.life.account_step asked new deed
      calc traced.life.unread ++ ((traced.life.arrival? deed).toList ++ _)
        _ = traced.life.received deed ++ ((traced.step deed).life.unread ++ _) := by
          rw [← List.append_assoc, step, List.append_assoc]
          rfl
        _ = traced.life.received deed ++ (_ ++ _) := congrArg _ later
        _ = _ := (List.append_assoc ..).symm

theorem Regular.lined (regular : traced.Regular settings) (lined : traced.life.connection.Lined)
    (all : List (Use σ β)) : (traced.uses all).life.connection.Lined := by
  induction all generalizing traced with
  | nil => exact lined
  | cons use rest ih =>
    have next := regular.use use
    cases use with
    | does deed =>
      obtain ⟨left, sound⟩ := regular.sound
      exact ih next (Life.lined_step lined sound deed)
    | hooks => exact ih next lined

end Traced

variable [Wire α] [Wire β]

/-- Where a timeout fails only the call, the responses that came are at any time those that receives
have returned, and then those that are unread, in the order in which they came. And a call that runs out
of time says so and spares all others: the transport is left alone, everybody else waits on until their
own deadline, the callback is called once, and a request has only its own number moved to those that are
remembered, of which the oldest makes room where there are as many as can be. -/
theorem timeout_spares (settings : ConnectSettings) (transport : σ) (before : List (Use σ β))
    (policy : settings.timeoutPolicy = .failCall) :
    let start : Traced σ α := .ofTransport settings transport
    let traced := start.uses before
    let connection := traced.life.connection
    start.arrivals before = start.received before ++ traced.life.unread ∧
    ∀ (ticket : Ticket) (call : Call), connection.call? ticket = some call →
      call.deadline ≤ connection.now → (connection.attend call).1 = none →
      let next := traced.step (.lapses ticket : Deed σ β)
      next.life.finished =
        traced.life.finished ++ [(ticket, .error (.receiveTimeout call.timeout))] ∧
      Spares call connection next.life.connection := by
  intro start traced connection
  have new : start.Regular settings := Traced.regular_new settings transport
  refine ⟨new.account policy before, fun ticket call found due vain => ?_⟩
  intro next
  have regular : traced.Regular settings := new.uses before
  have lined : connection.Lined := new.lined (Life.lined_new settings transport) before
  obtain ⟨left, sound⟩ := regular.sound
  have asked : connection.settings.timeoutPolicy = .failCall := by
    rw [show connection.settings = settings from regular.settings]
    exact policy
  obtain ⟨member, rfl⟩ := call?_some found
  obtain ⟨error, spares⟩ := lapse_spares lined sound member asked vain
  have step : next.life = traced.life.finish call.ticket
      (some (.error (.receiveTimeout call.timeout)), (connection.lapse call).2) := by
    rw [← error]
    exact Life.lapses_step (β := β) found due
  rw [step]
  exact ⟨rfl, spares⟩

section Rehearsed

open Scenario (Rehearsed)

def lenient : Traced Rehearsed UInt8 := .ofTransport { timeoutPolicy := .failCall } {}

/-- Two receives and a request wait, and the time of one receive and of the request is up. -/
def impatient : List (Use Rehearsed Unit) :=
  .hooks (some 1) none :: opens.map .does ++
    [.does (.receives (.ofSecs 1)), .does (.receives (.ofSecs 2)), .does (.requests () (.ofSecs 1)),
      .does (.passes (.ofSecs 1))]

/-- Both time out. Then the response to the request comes, and one that nobody asked for. -/
def late : List (Use Rehearsed Unit) :=
  impatient ++ [.does (.lapses 2), .does (.lapses 0),
    .does (.stirs { ready := .ready, channel := some 0 }
      [⟨0, .message [1, 0, 0, 0, 0, 0, 0, 0, 9]⟩, ⟨0, .message [0, 0, 0, 0, 0, 0, 0, 0, 7]⟩] []),
    .does .pumps, .does .pumps, .does (.attends 1)]

/-- A request is out of time. Its number is remembered, so the response to it is dropped when it comes;
the receive that still waits gets the one that nobody asked for. -/
theorem later_receive_served :
    let traced := lenient.uses impatient
    let next := traced.step (.lapses 2 : Deed Rehearsed Unit)
    next.life.finished = [(2, .error (.receiveTimeout (.ofSecs 1)))] ∧
    next.life.connection.calls =
      [⟨0, .receive, .ofSecs 1, 1000000000⟩, ⟨1, .receive, .ofSecs 2, 2000000000⟩] ∧
    next.life.connection.exchange.callbacks = ⟨some 1, none, 1, 0⟩ ∧
    next.life.connection.exchange.pending.live = [] ∧
    next.life.connection.exchange.pending.expired = [⟨1⟩] ∧
    lenient.received late = [7] ∧ lenient.arrivals late = [7] := by
  intro traced next
  let call : Call := ⟨2, .request ⟨1⟩, .ofSecs 1, 1000000000⟩
  obtain ⟨_, spared⟩ := timeout_spares (σ := Rehearsed) (α := UInt8) (β := Unit)
    { timeoutPolicy := .failCall } {} impatient rfl
  obtain ⟨finished, spares⟩ := spared 2 call (by decide +kernel) (by decide +kernel) (by decide +kernel)
  obtain ⟨account, _⟩ := timeout_spares (σ := Rehearsed) (α := UInt8) (β := Unit)
    { timeoutPolicy := .failCall } {} late rfl
  obtain ⟨_, live, expired⟩ := spares.shared.request ⟨1⟩ rfl
  have received : lenient.received late = [7] := by decide +kernel
  refine ⟨finished, spares.calls.trans (by decide +kernel), spares.callbacks.trans (by decide +kernel),
    live.trans (by decide +kernel), expired.trans (by decide +kernel), received, ?_⟩
  refine account.trans ?_
  change lenient.received late ++ _ = _
  rw [received]
  decide +kernel

variable {connection : Connection Rehearsed UInt8} {left : List (Correlation × Ticket)}

structure Takes (connection : Connection Rehearsed UInt8) : Prop where
  started : connection.started = true
  ready : connection.transport.ready = .ready
  settled : connection.transport.opensAt = none
  sends : connection.transport.sendError = none
  limit : 8 ≤ connection.limit

theorem Takes.state (takes : connection.Takes) :
    connection.state = (.socket .ready, connection) := by
  have looked : Transport.readiness connection.now connection.transport =
      (.ready, connection.transport, []) := by
    change Rehearsed.look connection.now connection.transport = _
    simp [Rehearsed.look, takes.settled, takes.ready]
  rw [Connection.state, if_pos takes.started]
  simp only [readiness, looked, hear_nil]

theorem Takes.beginRequest (takes : connection.Takes) (timeout : Duration) :
    let id := connection.counter.draw.1
    let after := (connection.beginRequest () timeout).2
    after.Takes ∧ after.settings = connection.settings ∧ after.now = connection.now ∧
      after.counter = connection.counter.draw.2 ∧ after.tickets = connection.tickets + 1 ∧
      after.exchange = connection.exchange.register id connection.tickets ∧
      after.calls = connection.calls ++
        [⟨connection.tickets, .request id, timeout, connection.now + timeout.nanos⟩] := by
  intro id
  have encoded : (Frame.mk id ()).encode connection.limit = .ok (Wire.encode (Frame.mk id ())) := by
    unfold Frame.encode
    exact if_pos takes.limit
  have sent : ∀ payload, Transport.send payload connection.transport =
      (.ok (), { connection.transport with sent := connection.transport.sent ++ [payload] }) := by
    intro payload
    change Rehearsed.send payload connection.transport = _
    simp [Rehearsed.send, takes.sends]
  unfold Connection.beginRequest
  rw [takes.state]
  dsimp only
  have limit : ({ connection with counter := connection.counter.draw.2 } :
      Connection Rehearsed UInt8).limit = connection.limit := rfl
  rw [limit, encoded]
  dsimp only
  rw [sent]
  exact ⟨⟨takes.started, takes.ready, takes.settled, takes.sends, takes.limit⟩, rfl, rfl, rfl, rfl,
    rfl, rfl⟩

/-- So many requests, and nothing else, have run out of time. -/
structure Worn (count : Nat) (connection : Connection Rehearsed UInt8) : Prop where
  takes : connection.Takes
  policy : connection.settings.timeoutPolicy = .failCall
  calls : connection.calls = []
  tickets : connection.tickets = count
  counter : connection.counter = ⟨.ofNat (count + 1)⟩
  live : connection.exchange.pending.live = []
  expired : connection.exchange.pending.expired =
    (List.range count).map fun earlier => ⟨.ofNat (earlier + 1)⟩

structure Asks (count : Nat) (before after : Connection Rehearsed UInt8) : Prop where
  takes : after.Takes
  policy : after.settings.timeoutPolicy = .failCall
  calls : after.calls = [⟨count, .request ⟨.ofNat (count + 1)⟩, .zero, after.now⟩]
  tickets : after.tickets = count + 1
  counter : after.counter = ⟨.ofNat (count + 2)⟩
  live : after.exchange.pending.live = [(⟨.ofNat (count + 1)⟩, count)]
  expired : after.exchange.pending.expired = before.exchange.pending.expired
  pending : after.exchange.receipt? count = some .pending

theorem Worn.asks {count : Nat} (worn : Worn count connection)
    (sound : Roll.Sound connection.roll left) :
    Asks count connection (connection.beginRequest () .zero).2 := by
  obtain ⟨takes, settings, now, counter, tickets, exchange, calls⟩ := worn.takes.beginRequest .zero
  refine ⟨takes, ?_, ?_, ?_, ?_, ?_, ?_, ?_⟩
  · rw [settings]
    exact worn.policy
  · rw [calls, worn.calls, worn.tickets, worn.counter, now]
    rfl
  · rw [tickets, worn.tickets]
  · rw [counter, worn.counter, UInt64.ofNat_add (count + 1) 1]
    rfl
  · rw [exchange, worn.counter, worn.tickets]
    simp [Exchange.register, Pending.register, Pending.erase, Exchange.close, worn.live,
      Correlation.Counter.draw]
  · rw [exchange]
    rfl
  · have unused : connection.exchange.receipt? count = none :=
      sound.unused count worn.tickets.le
    rw [exchange, worn.tickets, Exchange.receipt?_register_new unused]
    exact Function.update_self ..

def nextCall (count : Nat) (connection : Connection Rehearsed UInt8) : Call :=
  ⟨count, .request ⟨.ofNat (count + 1)⟩, .zero, connection.now⟩

theorem Asks.found {count : Nat} {after : Connection Rehearsed UInt8}
    (asks : Asks count connection after) :
    after.call? count = some (nextCall count after) ∧
      (nextCall count after).deadline ≤ after.now ∧
      (after.attend (nextCall count after)).1 = none :=
  ⟨by simp [call?, asks.calls, nextCall], Nat.le_refl _, by simp [attend, nextCall, asks.pending]⟩

theorem Worn.goes {count : Nat} {traced : Traced Rehearsed UInt8} {settings : ConnectSettings}
    (worn : Worn count traced.life.connection) (regular : traced.Regular settings)
    (lined : traced.life.connection.Lined) :
    let asked := traced.step (.requests () .zero : Deed Rehearsed Unit)
    let after := asked.life.connection
    Asks count traced.life.connection after ∧
      Spares (nextCall count after) after
        (asked.step (.lapses count : Deed Rehearsed Unit)).life.connection := by
  intro asked after
  obtain ⟨_, sound⟩ := regular.sound
  obtain ⟨_, later⟩ := (regular.use (.does (.requests () .zero) : Use Rehearsed Unit)).sound
  have asks : Asks count traced.life.connection after := worn.asks sound
  have standing : after.Lined :=
    Life.lined_step lined sound (.requests () .zero : Deed Rehearsed Unit)
  obtain ⟨found, due, vain⟩ := asks.found
  have spares := (lapse_spares standing later (call?_some found).1 asks.policy vain).2
  have step : asked.life.step (.lapses count : Deed Rehearsed Unit) = _ :=
    Life.lapses_step found due
  change _ ∧ Spares _ after (asked.life.step (.lapses count : Deed Rehearsed Unit)).connection
  rw [step]
  exact ⟨asks, spares⟩

theorem Asks.worn {count : Nat} {after last : Connection Rehearsed UInt8}
    (asks : Asks count connection after) (worn : Worn count connection)
    (few : count < Pending.expiredCapacity) (spares : Spares (nextCall count after) after last) :
    Worn (count + 1) last := by
  obtain ⟨rest, calls, _, shared, _⟩ := spares
  obtain ⟨_, live, expired⟩ := shared.request _ rfl
  have takes := asks.takes
  rw [rest]
  refine ⟨⟨takes.started, takes.ready, takes.settled, takes.sends, takes.limit⟩, asks.policy, ?_,
    asks.tickets, asks.counter, ?_, ?_⟩
  · rw [calls, asks.calls]
    simp [nextCall]
  · rw [live, asks.live]
    simp
  · rw [expired, asks.expired, worn.expired, List.length_map, List.length_range, if_neg few.ne,
      List.range_succ, List.map_append]
    rfl

theorem Asks.forgets {count : Nat} {after last : Connection Rehearsed UInt8}
    (asks : Asks count connection after) (worn : Worn count connection)
    (full : count = Pending.expiredCapacity) (spares : Spares (nextCall count after) after last) :
    ⟨1⟩ ∈ after.exchange.pending.expired ∧ ⟨1⟩ ∉ last.exchange.pending.expired := by
  obtain ⟨_, _, expired⟩ := spares.shared.request _ rfl
  have all := asks.expired.trans worn.expired
  rw [expired, all]
  refine ⟨List.mem_map.mpr ⟨0, by simp [full, Pending.expiredCapacity], rfl⟩, ?_⟩
  rw [List.length_map, List.length_range, if_pos full]
  subst full
  decide +kernel

/-- Opens a connection; so many requests run out of time, one after the other. -/
def wearing (count : Nat) : List (Use Rehearsed Unit) :=
  opens.map .does ++ (List.range count).flatMap fun ticket =>
    [.does (.requests () .zero), .does (.lapses ticket)]

theorem worn_wearing (count : Nat) (few : count ≤ Pending.expiredCapacity) :
    Worn count (lenient.uses (wearing count)).life.connection := by
  induction count with
  | zero =>
    refine ⟨⟨?_, ?_, ?_, ?_, ?_⟩, ?_, ?_, ?_, ?_, ?_, ?_⟩ <;> decide +kernel
  | succ count ih =>
    have worn := ih (Nat.le_of_succ_le few)
    have new : lenient.Regular _ := Traced.regular_new ..
    have lined := new.lined (Life.lined_new ..) (wearing count)
    obtain ⟨asks, spares⟩ := worn.goes (new.uses (wearing count)) lined
    have more : wearing (count + 1) = wearing count ++
        [.does (.requests () .zero), .does (.lapses count)] := by
      simp [wearing, List.range_succ]
    rw [more, Traced.uses, List.foldl_append]
    exact asks.worn worn few spares

/-- As many numbers are remembered as can be. The next request that runs out of time has its own number
remembered, and makes the first one be forgotten. -/
theorem oldest_number_forgotten :
    let count := Pending.expiredCapacity
    let asked := (lenient.uses (wearing count)).step (.requests () .zero : Deed Rehearsed Unit)
    let connection := asked.life.connection
    let call : Call := ⟨count, .request ⟨.ofNat (count + 1)⟩, .zero, connection.now⟩
    let next := (asked.step (.lapses count : Deed Rehearsed Unit)).life.connection
    connection.call? count = some call ∧ call.deadline ≤ connection.now ∧
      (connection.attend call).1 = none ∧
      ⟨1⟩ ∈ connection.exchange.pending.expired ∧ ⟨1⟩ ∉ next.exchange.pending.expired := by
  have worn := worn_wearing _ (Nat.le_refl Pending.expiredCapacity)
  have new : lenient.Regular _ := Traced.regular_new ..
  have lined := new.lined (Life.lined_new ..) (wearing Pending.expiredCapacity)
  obtain ⟨asks, spares⟩ := worn.goes (new.uses (wearing Pending.expiredCapacity)) lined
  obtain ⟨found, due, vain⟩ := asks.found
  exact ⟨found, due, vain, asks.forgets worn rfl spares⟩

end Rehearsed

end Connection

end FrameLink.Link
