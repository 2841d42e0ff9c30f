import Mathlib
import FrameLink.Proofs.Link.Numbers
/-!
A send or a request whose payload does not get onto the transport. Whichever way it fails, it leaves what
the other calls see as it was, and the number that it drew is not drawn again.
-/

namespace FrameLink.Link

open Wait

/-- What can be read off a transport, such as all that it has taken, and neither a look nor a payload that
it refuses changes. -/
structure Steady {σ ρ : Type} [Transport σ] (read : σ → ρ) : Prop where
  looks : ∀ now transport, read (Transport.readiness now transport).2.1 = read transport
  refuses : ∀ payload transport fault, (Transport.send payload transport).1 = .error fault →
    read (Transport.send payload transport).2 = read transport

theorem SocketTransport.steady {ρ : Type} (read : SocketTransport → ρ) : Steady read := by
  refine ⟨fun _ _ => rfl, fun payload transport fault refused => ?_⟩
  change read (SocketTransport.send payload transport).2 = _
  change (SocketTransport.send payload transport).1 = _ at refused
  unfold SocketTransport.send at refused ⊢
  split
  next place session held found =>
    simp only [held, found] at refused
    split
    · rfl
    next ready =>
      rw [if_neg ready] at refused
      split
      · rfl
      next running =>
        rw [if_neg running] at refused
        cases refused
  · rfl

theorem steady_sent : Steady Scenario.Rehearsed.sent := by
  refine ⟨fun now transport => ?_, fun payload transport fault refused => ?_⟩
  · change (transport.look now).2.1.sent = _
    unfold Scenario.Rehearsed.look
    split <;> rfl
  · change (transport.send payload).2.sent = _
    change (transport.send payload).1 = _ at refused
    unfold Scenario.Rehearsed.send at refused ⊢
    cases told : transport.sendError with
    | some message => rfl
    | none =>
      rw [told] at refused
      cases refused

namespace Connection

variable {σ α β : Type} [Transport σ]

/-- Whether the payload of a call gets onto the transport: that is open, the frame is short enough, and
the transport takes it. -/
def reaches [Wire β] (body : β) (connection : Connection σ α) : Bool :=
  match connection.state with
  | (.socket .ready, connection) =>
    match (Frame.mk connection.counter.draw.1 body).encode connection.limit with
    | .error _ => false
    | .ok payload => (Transport.send payload connection.transport).1.isOk
  | _ => false

/-- Nothing has changed for the other calls, nor in what the transport has taken. -/
structure Untouched (before after : Connection σ α) : Prop extends SameSession before after where
  exchange : after.exchange = before.exchange
  calls : after.calls = before.calls
  taken : ∀ {ρ : Type} {read : σ → ρ}, Steady read → read after.transport = read before.transport

omit [Transport σ] in
theorem Untouched.sockets {before after : Connection SocketTransport α}
    (untouched : Untouched before after) : after.transport = before.transport :=
  untouched.taken (SocketTransport.steady id)

/-- What a call in vain makes of the transport: it looks at it, and may be refused one payload. -/
def Spurned (connection : Connection σ α) (left : σ) : Prop :=
  left = connection.state.2.transport ∨
    ∃ payload fault, Transport.send payload connection.state.2.transport = (.error fault, left)

theorem Spurned.read_eq {ρ : Type} {read : σ → ρ} {connection : Connection σ α} {left : σ}
    (spurned : connection.Spurned left) (steady : Steady read) :
    read left = read connection.transport := by
  have looked : read connection.state.2.transport = read connection.transport := by
    unfold state
    split
    · simp only [readiness]
      rw [transport_hear]
      exact steady.looks ..
    · rfl
  obtain rfl | ⟨payload, fault, refused⟩ := spurned
  · exact looked
  · have same := steady.refuses payload connection.state.2.transport fault (congrArg Prod.fst refused)
    rw [refused] at same
    exact same.trans looked

variable [Wire β] {body : β} {connection : Connection σ α}

/-- The three ways in which a payload does not get onto the transport. -/
inductive Vain (body : β) (connection : Connection σ α) : Prop
  | shut (other : connection.state.1 ≠ .socket .ready)
  | long (fault : FrameError) (seen : connection.state = (.socket .ready, connection.state.2))
    (failed : (Frame.mk connection.state.2.counter.draw.1 body).encode connection.state.2.limit =
      .error fault)
  | refused (payload : Bytes) (fault : Error) (left : σ)
    (seen : connection.state = (.socket .ready, connection.state.2))
    (encoded : (Frame.mk connection.state.2.counter.draw.1 body).encode connection.state.2.limit =
      .ok payload)
    (refused : Transport.send payload connection.state.2.transport = (.error fault, left))

theorem vain_of_reaches (vain : connection.reaches body = false) : connection.Vain body := by
  by_cases ready : connection.state.1 = .socket .ready
  · have seen : connection.state = (.socket .ready, connection.state.2) := Prod.ext ready rfl
    rw [reaches, seen] at vain
    dsimp only at vain
    split at vain
    next fault failed => exact .long fault seen failed
    next payload encoded =>
      cases handed : Transport.send payload connection.state.2.transport with
      | mk answer left =>
        rw [handed] at vain
        cases answer with
        | error fault => exact .refused payload fault left seen encoded handed
        | ok => cases vain
  · exact .shut ready

theorem send_in_vain (vain : connection.Vain body) :
    ((connection.send body).1 = .ok none ∨ ∃ fault, (connection.send body).1 = .error fault) ∧
      connection.Spurned (connection.send body).2.transport := by
  cases vain with
  | shut other =>
    unfold send
    split
    next same => exact absurd (congrArg Prod.fst same) other
    next seen => exact ⟨.inl rfl, .inl (congrArg (·.2.transport) seen.symm)⟩
  | long fault seen failed =>
    dsimp only [limit] at failed
    rw [send, seen]
    dsimp only [limit]
    rw [failed]
    exact ⟨.inr ⟨_, rfl⟩, .inl rfl⟩
  | refused payload fault left seen encoded refused =>
    dsimp only [limit] at encoded
    rw [send, seen]
    dsimp only [limit]
    rw [encoded]
    dsimp only
    rw [refused]
    exact ⟨.inr ⟨_, rfl⟩, .inr ⟨payload, fault, refused⟩⟩

theorem beginRequest_in_vain (timeout : Duration) (vain : connection.Vain body) :
    (∃ fault, (connection.beginRequest body timeout).1 = some (.error fault)) ∧
      connection.Spurned (connection.beginRequest body timeout).2.transport := by
  cases vain with
  | shut other =>
    unfold beginRequest
    split
    next same => exact absurd (congrArg Prod.fst same) other
    next seen => exact ⟨⟨_, rfl⟩, .inl (congrArg (·.2.transport) seen.symm)⟩
  | long fault seen failed =>
    dsimp only [limit] at failed
    rw [beginRequest, seen]
    dsimp only [limit]
    rw [failed]
    exact ⟨⟨_, rfl⟩, .inl rfl⟩
  | refused payload fault left seen encoded refused =>
    dsimp only [limit] at encoded
    rw [beginRequest, seen]
    dsimp only [limit]
    rw [encoded]
    dsimp only
    rw [refused]
    exact ⟨⟨_, rfl⟩, .inr ⟨payload, fault, refused⟩⟩

theorem send_untouched (vain : connection.Vain body) :
    Untouched connection (connection.send body).2 :=
  have stays := send_stays body connection
  ⟨stays.toSameSession, stays.exchange, stays.calls, (send_in_vain vain).2.read_eq⟩

/-- A request registers its number before it is refused; where that was free, nothing else was touched. -/
theorem beginRequest_untouched (timeout : Duration) (vain : connection.Vain body)
    (free : connection.registers body = true →
      connection.exchange.pending.find? connection.counter.draw.1 = none)
    (fresh : connection.exchange.receipt? connection.tickets = none) :
    Untouched connection (connection.beginRequest body timeout).2 := by
  obtain ⟨⟨fault, failed⟩, spurned⟩ := beginRequest_in_vain timeout vain
  cases begun : connection.beginRequest body timeout with
  | mk outcome after =>
    rw [begun] at failed spurned
    obtain rfl : outcome = some (.error fault) := failed
    obtain ⟨_, _, stays⟩ | ⟨registers, same, _, ⟨_, calls, exchange⟩ | ⟨waits, _⟩⟩ :=
      beginRequest_cases begun
    · exact ⟨stays.toSameSession, stays.exchange, stays.calls, spurned.read_eq⟩
    · have withdrawn := Exchange.withdrawn_eq (free registers) fresh
      exact ⟨same, exchange.trans withdrawn, calls, spurned.read_eq⟩
    · cases waits

namespace Life

/-- A send or a request whose payload does not get onto the transport. -/
def Unsent (life : Life σ α) : Deed σ β → Prop
  | .sends body | .requests body _ => life.connection.reaches body = false
  | _ => False

variable [Wire α]

/-- The one who sends is told that nothing was sent, or why; a request fails. -/
def Failed (life : Life σ α) : Deed σ β → Prop
  | .sends body => (life.connection.send body).1 = .ok none ∨
      ∃ fault, (life.connection.send body).1 = .error fault
  | .requests body timeout => ∃ fault, (life.step (.requests body timeout)).finished =
      life.finished ++ [(life.connection.tickets, .error fault)]
  | _ => False

theorem Unsent.failed {life : Life σ α} {deed : Deed σ β} (unsent : life.Unsent deed) :
    life.Failed deed := by
  cases deed with
  | sends body => exact (send_in_vain (vain_of_reaches unsent)).1
  | requests body timeout =>
    obtain ⟨⟨fault, failed⟩, _⟩ := beginRequest_in_vain timeout (vain_of_reaches unsent)
    refine ⟨fault, ?_⟩
    simp only [step, finish, failed]
    rfl
  | _ => exact unsent.elim

/-- Whichever way a call fails, the others are as before, where a number that it registers is new. -/
theorem Unsent.untouched {life : Life σ α} {deed : Deed σ β} (unsent : life.Unsent deed)
    (free : ∀ body timeout, deed = .requests body timeout → life.connection.registers body = true →
      life.connection.exchange.pending.find? life.connection.counter.draw.1 = none)
    (fresh : life.connection.exchange.receipt? life.connection.tickets = none) :
    Untouched life.connection (life.step deed).connection := by
  cases deed with
  | sends body => exact send_untouched (vain_of_reaches unsent)
  | requests body timeout =>
    exact beginRequest_untouched timeout (vain_of_reaches unsent) (free body timeout rfl) fresh
  | _ => exact unsent.elim

end Life

variable [Wire α]

/-- A send or a request whose payload does not get onto the transport fails, and leaves everything as it
was but for the number that it drew: what is outstanding, remembered, unread and waited for, the tallies
of the callbacks, and what the transport has taken. Until all other numbers have been drawn, no later call
draws that number again, and no outstanding request has it. -/
theorem unsent_leaves_no_trace (settings : ConnectSettings) (transport : σ)
    (before : List (Use σ β)) (deed : Deed σ β) :
    let start : Traced σ α := .ofTransport settings transport
    let connection := (start.uses before).life.connection
    let next := (start.uses before).step deed
    (start.uses before).life.Unsent deed →
    (start.uses before).life.Failed deed ∧
    (Untouched connection next.life.connection ∨
      2 ^ 64 ≤ (start.drawn before).length ∧
        connection.exchange.pending.find? connection.counter.draw.1 ≠ none ∧
        ∃ body timeout, deed = .requests body timeout ∧ connection.registers body = true) ∧
    ∀ id ∈ (start.uses before).life.drawn deed, ∀ (later : List (Use σ β)) (place : Nat),
      (next.drawn later)[place]? = some id → 2 ^ 64 ∣ place + 1 := by
  intro start connection next unsent
  refine ⟨unsent.failed, ?_, fun id drew later place again => Traced.dvd_of_drawn_again drew again⟩
  obtain ⟨_, sound⟩ := ((Traced.regular_new (α := α) settings transport).uses before).sound
  have fresh := sound.unused connection.tickets (Nat.le_refl _)
  by_cases registers : ∃ body timeout, deed = .requests body timeout ∧ connection.registers body = true
  · by_cases free : connection.exchange.pending.find? connection.counter.draw.1 = none
    · exact .inl (unsent.untouched (fun _ _ _ _ => free) fresh)
    · exact .inr ⟨Traced.drawn_all free, free, registers⟩
  · refine .inl (unsent.untouched (fun body timeout same registered => ?_) fresh)
    exact absurd ⟨body, timeout, same, registered⟩ registers

section Rehearsed

open Scenario (Rehearsed)

/-- A request and a receive wait; then the transport takes nothing more. -/
def stuck : List (Use Rehearsed Unit) :=
  opens.map .does ++ [.does (.requests () (.ofSecs 1)), .does (.receives (.ofSecs 1)),
    .does (.stirs { ready := .ready, sendError := some "full", sent := [[1, 0, 0, 0, 0, 0, 0, 0]] }
      [] [])]

/-- The second request is refused: the first one waits as before, and so does the receive. The number of
the refused one is not that of the next. -/
theorem refused_request_withdrawn :
    let start : Traced Rehearsed UInt8 := .ofTransport {} {}
    let connection := (start.uses stuck).life.connection
    let next := (start.uses stuck).step (.requests () (.ofSecs 1) : Deed Rehearsed Unit)
    connection.exchange.pending.live = [(⟨1⟩, 0)] ∧
    next.life.finished = [(2, .error (.transport "full"))] ∧
    Untouched connection next.life.connection ∧
    next.life.connection.transport.sent = connection.transport.sent ∧
    next.drawn [(.does (.sends ()) : Use Rehearsed Unit)] ≠ [⟨2⟩] := by
  intro start connection next
  have vain : connection.reaches () = false := by decide +kernel
  obtain ⟨_, untouched | ⟨all, _⟩, new⟩ := unsent_leaves_no_trace (σ := Rehearsed) (α := UInt8) {} {}
    stuck (.requests () (.ofSecs 1) : Deed Rehearsed Unit) vain
  · change Untouched connection next.life.connection at untouched
    have sent := untouched.taken steady_sent
    refine ⟨by decide +kernel, by decide +kernel, untouched, sent, fun again => ?_⟩
    have place := new ⟨2⟩ (by decide +kernel) [.does (.sends ())] 0 (congrArg (·[0]?) again)
    exact absurd place (by decide)
  · exact absurd all (by decide +kernel)

end Rehearsed

end Connection

end FrameLink.Link
