import Mathlib
import FrameLink.Proofs.Link.TimeUp
import FrameLink.Proofs.Wait.Line
/-!
The receives of a connection that wait. Each of them stands once in the line at the inbox, and nobody
else does.
-/

namespace FrameLink.Link

open Wait

/-! ## The line -/

/-- The receives among the calls stand in line, each once, and nobody else does. -/
structure InLine (line : List Ticket) (calls : List Call) : Prop where
  once : line.Nodup
  stands : ∀ ticket, ticket ∈ line ↔
    ∃ call ∈ calls, call.ticket = ticket ∧ call.purpose = .receive

namespace InLine

variable {line other : List Ticket} {calls : List Call}

theorem perm (inLine : InLine line calls) (perm : line.Perm other) : InLine other calls :=
  ⟨perm.nodup_iff.mp inLine.once, fun ticket => perm.mem_iff.symm.trans (inLine.stands ticket)⟩

theorem requeues (inLine : InLine line calls) {ticket : Ticket} (member : ticket ∈ line) :
    InLine (line.erase ticket ++ [ticket]) calls :=
  inLine.perm ((List.perm_cons_erase member).trans (List.perm_append_singleton ..).symm)

theorem leaves (inLine : InLine line calls) (ticket : Ticket) :
    InLine (line.erase ticket) (calls.filter fun call => call.ticket != ticket) := by
  refine ⟨inLine.once.erase ticket, fun another => ?_⟩
  rw [inLine.once.mem_erase_iff, inLine.stands]
  constructor
  · rintro ⟨apart, call, member, rfl, purpose⟩
    exact ⟨call, List.mem_filter.mpr ⟨member, by simpa using apart⟩, rfl, purpose⟩
  · rintro ⟨call, member, rfl, purpose⟩
    obtain ⟨there, apart⟩ := List.mem_filter.mp member
    exact ⟨by simpa using apart, call, there, rfl, purpose⟩

theorem joins (inLine : InLine line calls) {call : Call} (new : call.ticket ∉ line)
    (purpose : call.purpose = .receive) : InLine (line ++ [call.ticket]) (calls ++ [call]) := by
  refine ⟨inLine.once.append (List.nodup_singleton _) (by simpa using new), fun ticket => ?_⟩
  rw [List.mem_append, inLine.stands, List.mem_singleton]
  constructor
  · rintro (⟨another, member, rest⟩ | rfl)
    · exact ⟨another, List.mem_append_left _ member, rest⟩
    · exact ⟨call, List.mem_append_right _ (List.mem_singleton_self call), rfl, purpose⟩
  · rintro ⟨another, member, rfl, receives⟩
    rcases List.mem_append.mp member with old | added
    · exact .inl ⟨another, old, rfl, receives⟩
    · exact .inr (by rw [List.mem_singleton.mp added])

theorem requests (inLine : InLine line calls) {call : Call} {id : Correlation}
    (purpose : call.purpose = .request id) : InLine line (calls ++ [call]) := by
  refine ⟨inLine.once, fun ticket => (inLine.stands ticket).trans ⟨?_, ?_⟩⟩
  · rintro ⟨another, member, rest⟩
    exact ⟨another, List.mem_append_left _ member, rest⟩
  · rintro ⟨another, member, same, receives⟩
    rcases List.mem_append.mp member with old | added
    · exact ⟨another, old, same, receives⟩
    · rw [List.mem_singleton.mp added, purpose] at receives
      cases receives

end InLine

/-- A look that finds a response leaves the bell alone. One in vain finds that there is none, and the
call is parked. -/
theorem attend_bell {α : Type} {place left : Awaited (List α)} {ticket : Ticket} {found : Option α}
    (attended : place.attend ticket = (found, left)) :
    (found.isSome = true ∧ left.bell = place.bell) ∨
    (found = none ∧ place.queue = [] ∧
      left = ⟨[], ⟨false, place.bell.parked ++ [ticket], place.bell.woken⟩⟩) := by
  have looked := place.attend_attends ticket trivial
  rw [attended] at looked
  cases looked with
  | finds => exact .inl ⟨rfl, rfl⟩
  | parks _ nothing still =>
    obtain rfl : _ = [] := still
    exact .inr ⟨rfl, nothing, rfl⟩

namespace Connection

variable {σ α β : Type} {left : List (Correlation × Ticket)}

def line (connection : Connection σ α) : List Ticket := connection.exchange.inbox.bell.line

/-- A receive that is parked does not look. One that is woken takes a response, or is parked again. -/
theorem attend_receive_cases {call : Call} {connection after : Connection σ α}
    {outcome : Option (Outcome α)} (purpose : call.purpose = .receive)
    (attended : connection.attend call = (outcome, after)) :
    let bell := connection.exchange.inbox.bell
    (call.ticket ∉ bell.woken ∧ outcome = none ∧ after = connection) ∨
    (call.ticket ∈ bell.woken ∧ outcome = none ∧ connection.exchange.inbox.queue = [] ∧
      after = { connection with exchange := { connection.exchange with
        inbox := ⟨[], false, bell.parked ++ [call.ticket], bell.woken.erase call.ticket⟩ } }) ∨
    (call.ticket ∈ bell.woken ∧ outcome.isSome = true ∧
      after.exchange.inbox.bell = bell.rouse call.ticket) := by
  simp only [attend, purpose] at attended
  split at attended
  next woken =>
    cases looked : connection.exchange.inbox.wake call.ticket with
    | mk found inbox =>
      rw [looked] at attended
      cases attended
      obtain ⟨some, bell⟩ | ⟨rfl, nothing, rfl⟩ := attend_bell looked
      · exact .inr (.inr ⟨woken, by simpa using some, bell⟩)
      · exact .inr (.inl ⟨woken, rfl, nothing, rfl⟩)
  next parked =>
    cases attended
    exact .inl ⟨parked, rfl, rfl⟩

theorem attend_request_inbox {call : Call} {id : Correlation} (purpose : call.purpose = .request id)
    (connection : Connection σ α) :
    (connection.attend call).2.exchange.inbox = connection.exchange.inbox := by
  simp only [attend, purpose]
  split <;> rfl

theorem line_deliver [Wire α] (data : Bytes) (connection : Connection σ α) :
    (connection.deliver data).line = connection.line := by
  unfold deliver
  cases (Frame.decode data connection.limit : Except FrameError (Frame α)) with
  | error fault => rfl
  | ok frame =>
    obtain ⟨id, body⟩ := frame
    dsimp only
    split
    · have kept := Exchange.resolve_inbox id body connection.exchange
      cases found : connection.exchange.resolve id body with
      | mk delivery exchange =>
        rw [found] at kept
        have same := congrArg (fun inbox : Awaited (List α) => inbox.bell.line) kept
        cases delivery with
        | resolved | expired => exact same
        | unclaimed body => exact (Bell.line_ring _).trans same
    · exact Bell.line_ring _

def Lined (connection : Connection σ α) : Prop := InLine connection.line connection.calls

namespace Lined

variable {connection after : Connection σ α} {call : Call}

theorem congr (lined : connection.Lined) (line : after.line = connection.line)
    (calls : after.calls = connection.calls) : after.Lined := by
  rw [Lined, line, calls]
  exact lined

theorem stays (lined : connection.Lined) (stays : Stays connection after) : after.Lined :=
  lined.congr (congrArg (fun exchange => exchange.inbox.bell.line) stays.exchange) stays.calls

theorem not_mem_request (lined : connection.Lined) (sound : Roll.Sound connection.roll left)
    {id : Correlation} (member : call ∈ connection.calls) (purpose : call.purpose = .request id) :
    call.ticket ∉ connection.line := by
  intro standing
  obtain ⟨other, there, same, receives⟩ := (lined.stands call.ticket).mp standing
  rw [sound.same_call member there same, purpose] at receives
  cases receives

theorem line_quit (lined : connection.Lined) (sound : Roll.Sound connection.roll left)
    (member : call ∈ connection.calls) :
    (connection.quit call).line = connection.line.erase call.ticket := by
  cases purpose : call.purpose with
  | receive =>
    simp only [line, quit, purpose]
    exact Bell.line_leave ..
  | request id =>
    rw [List.erase_of_not_mem (lined.not_mem_request sound member purpose)]
    simp only [line, quit, purpose]
    rfl

theorem gone (lined : connection.Lined) (call : Call)
    (line : after.line = connection.line.erase call.ticket)
    (calls : after.calls = connection.calls.filter fun other => other.ticket != call.ticket) :
    after.Lined := by
  rw [Lined, line, calls]
  exact InLine.leaves lined call.ticket

theorem attend_none (lined : connection.Lined) (attended : connection.attend call = (none, after)) :
    after.Lined := by
  cases purpose : call.purpose with
  | receive =>
    obtain ⟨_, _, rfl⟩ | ⟨woken, _, _, rfl⟩ | ⟨_, some, _⟩ :=
      attend_receive_cases purpose attended
    · exact lined
    · have last := InLine.requeues lined (List.mem_append_left _ woken)
      rw [line, Bell.line, List.erase_append_left _ woken, List.append_assoc] at last
      exact last
    · cases some
  | request id =>
    obtain ⟨_, _, rfl⟩ | ⟨_, some, _⟩ := attend_request_roll purpose attended
    · exact lined
    · cases some

theorem attend_some (lined : connection.Lined) (sound : Roll.Sound connection.roll left)
    (member : call ∈ connection.calls) {outcome : Outcome α}
    (attended : connection.attend call = (some outcome, after)) :
    (after.remove call.ticket).Lined := by
  have calls := attend_calls call connection
  rw [attended] at calls
  refine lined.gone call ?_ (congrArg (List.filter _) calls)
  change after.line = _
  cases purpose : call.purpose with
  | receive =>
    obtain ⟨_, none, _⟩ | ⟨_, none, _⟩ | ⟨woken, _, bell⟩ := attend_receive_cases purpose attended
    · cases none
    · cases none
    · rw [line, bell, line]
      exact (List.erase_append_left _ woken).symm
  | request id =>
    have inbox := attend_request_inbox purpose connection
    rw [attended] at inbox
    rw [List.erase_of_not_mem (lined.not_mem_request sound member purpose)]
    exact congrArg (fun inbox => inbox.bell.line) inbox

theorem cancel (lined : connection.Lined) (sound : Roll.Sound connection.roll left)
    (member : call ∈ connection.calls) : ((connection.quit call).remove call.ticket).Lined :=
  lined.gone call (lined.line_quit sound member) rfl

theorem lapse [Transport σ] (lined : connection.Lined) (sound : Roll.Sound connection.roll left)
    (member : call ∈ connection.calls) : (connection.lapse call).2.Lined := by
  have calls := lapse_calls call connection
  unfold Connection.lapse at calls ⊢
  cases attended : connection.attend call with
  | mk outcome looked =>
    rw [attended] at calls
    cases outcome with
    | some outcome => exact lined.attend_some sound member attended
    | none =>
      have same := attend_calls call connection
      rw [attended] at same
      have roll := attend_none_roll attended
      have parked := lined.attend_none attended
      obtain ⟨_, _, _, exchange⟩ :=
        handleTimeout_effect call.timeout ((looked.quit call).retire call)
      refine parked.gone call ?_ (calls.trans (by rw [same]))
      rw [← parked.line_quit (roll ▸ sound) (same ▸ member)]
      change ((((looked.quit call).retire call).handleTimeout call.timeout).exchange).inbox.bell.line
        = _
      have retired : ((looked.quit call).retire call).exchange.inbox =
          (looked.quit call).exchange.inbox := by
        unfold retire
        cases call.purpose <;> rfl
      rw [exchange, retired]
      dsimp only
      split <;> rfl

end Lined

/-! ## Deeds -/

namespace Life

theorem lined_new (settings : ConnectSettings) (transport : σ) :
    (Life.ofTransport settings transport : Life σ α).connection.Lined :=
  ⟨List.nodup_nil, fun _ => ⟨nofun, nofun⟩⟩

variable {life : Life σ α}

theorem lined_receives (lined : life.connection.Lined)
    (sound : Roll.Sound life.connection.roll left) (timeout : Duration) :
    (life.connection.beginReceive timeout).2.Lined := by
  unfold beginReceive
  cases attended : life.connection.exchange.inbox.attend life.connection.tickets with
  | mk found inbox =>
    obtain ⟨some, bell⟩ | ⟨rfl, _, rfl⟩ := attend_bell attended
    · obtain ⟨body, rfl⟩ := Option.isSome_iff_exists.mp some
      exact lined.congr (congrArg Bell.line bell) rfl
    · have new : life.connection.tickets ∉ life.connection.line := by
        intro standing
        obtain ⟨call, member, same, _⟩ := (lined.stands _).mp standing
        exact (sound.early call member).ne same
      let call : Call :=
        ⟨life.connection.tickets, .receive, timeout, life.connection.now + timeout.nanos⟩
      have joined : InLine _ (life.connection.calls ++ [call]) := InLine.joins lined new rfl
      rw [line, Bell.line, List.append_assoc] at joined
      exact joined

variable [Transport σ] [Wire β]

theorem lined_requests (lined : life.connection.Lined) (body : β) (timeout : Duration) :
    (life.connection.beginRequest body timeout).2.Lined := by
  cases begun : life.connection.beginRequest body timeout with
  | mk outcome after =>
    obtain ⟨_, _, stays⟩ | ⟨_, _, _, ⟨_, calls, exchange⟩ | ⟨_, exchange, call, calls, _, purpose⟩⟩ :=
      beginRequest_cases begun
    · exact lined.stays stays
    · exact lined.congr (congrArg (fun exchange => exchange.inbox.bell.line) exchange) calls
    · have line : after.line = life.connection.line :=
        congrArg (fun exchange => exchange.inbox.bell.line) exchange
      change InLine after.line after.calls
      rw [line, calls]
      exact InLine.requests lined purpose

variable [Wire α]

theorem lined_pumps (lined : life.connection.Lined) :
    (life.step (.pumps : Deed σ β)).connection.Lined := by
  simp only [step]
  split
  next channel event events _ =>
    refine lined.congr ?_ (calls_take event { life.connection with pump := some ⟨channel, events⟩ })
    cases event with
    | opened | closed reason => rfl
    | message data => exact line_deliver ..
  · exact lined

/-- Whatever is done, the receives that wait stand in line. -/
theorem lined_step (lined : life.connection.Lined) (sound : Roll.Sound life.connection.roll left)
    (deed : Deed σ β) : (life.step deed).connection.Lined := by
  cases deed with
  | dials url verbose =>
    simp only [step]
    split
    · obtain ⟨exchange, calls, _⟩ := dial_effect url verbose life.connection
      exact lined.congr (congrArg (fun exchange => exchange.inbox.bell.line) exchange) calls
    · exact lined
  | concludes url => exact lined.stays (conclude_stays url life.connection)
  | disconnects => exact lined.stays (disconnect_stays life.connection)
  | sends body => exact lined.stays (send_stays body life.connection)
  | receives timeout => exact lined_receives lined sound timeout
  | requests body timeout => exact lined_requests lined body timeout
  | attends ticket =>
    simp only [step]
    cases found : life.connection.call? ticket with
    | none => exact lined
    | some call =>
      obtain ⟨member, rfl⟩ := call?_some found
      cases attended : life.connection.attend call with
      | mk outcome after =>
        simp only [attended]
        cases outcome with
        | none => exact lined.attend_none attended
        | some outcome => exact lined.attend_some sound member attended
  | cancels ticket =>
    simp only [step, cancel]
    cases found : life.connection.call? ticket with
    | none => exact lined
    | some call =>
      obtain ⟨member, rfl⟩ := call?_some found
      exact lined.cancel sound member
  | lapses ticket =>
    simp only [step]
    cases found : life.connection.call? ticket with
    | none => exact lined
    | some call =>
      obtain ⟨member, rfl⟩ := call?_some found
      dsimp only
      split
      · exact lined
      · exact lined.lapse sound member
  | pumps => exact lined_pumps lined
  | stirs transport reports log =>
    have carried : ({ life.connection with transport }.hear reports).Lined :=
      lined.stays (carried_stays transport reports life.connection)
    exact carried
  | passes span => exact lined

end Life

end Connection

end FrameLink.Link
