import Mathlib
import FrameLink.Proofs.Link.Outstanding
/-!
Over which session the unread responses came. The inbox is one for all sessions, and opening a connection
leaves in it what nobody has read.
-/

namespace FrameLink.Link

open Wait

namespace Exchange

variable {α : Type}

/-- Whether a request waits for the response with this number, or is remembered to have waited. -/
def knows (id : Correlation) (exchange : Exchange α) : Bool :=
  (exchange.pending.find? id).isSome || exchange.pending.expired.contains id

theorem resolve_inbox (id : Correlation) (body : α) (exchange : Exchange α) :
    (exchange.resolve id body).2.inbox = exchange.inbox := by
  unfold resolve
  split
  · dsimp only
    split <;> rfl
  · split <;> rfl

theorem resolve_unknown {id : Correlation} {exchange : Exchange α}
    (unknown : exchange.knows id = false) (body : α) :
    exchange.resolve id body = (.unclaimed body, exchange) := by
  obtain ⟨absent, forgotten⟩ : exchange.pending.find? id = none ∧ id ∉ exchange.pending.expired := by
    simpa [knows] using unknown
  simp [resolve, absent, Pending.recognise, forgotten]

theorem resolve_known {id : Correlation} {exchange : Exchange α} (known : exchange.knows id = true)
    (body : α) :
    (exchange.resolve id body).1 = .resolved ∨ (exchange.resolve id body).1 = .expired := by
  unfold resolve
  cases waits : exchange.pending.find? id with
  | some ticket =>
    dsimp only
    split
    · exact .inl rfl
    · exact .inr rfl
  | none =>
    have remembered : id ∈ exchange.pending.expired := by simpa [knows, waits] using known
    simp [Pending.recognise, remembered]

end Exchange

namespace Connection

variable {σ α β : Type}

/-- What a message puts into the inbox: its body, unless it answers a request that is known. -/
def unasked? [Wire α] (data : Bytes) (connection : Connection σ α) : Option α :=
  match (Frame.decode data connection.limit : Except FrameError (Frame α)) with
  | .error _ => none
  | .ok ⟨id, body⟩ => if id.isSome && connection.exchange.knows id then none else some body

theorem deliver_queue [Wire α] (data : Bytes) (connection : Connection σ α) :
    (connection.deliver data).exchange.inbox.queue =
      connection.exchange.inbox.queue ++ (connection.unasked? data).toList := by
  unfold deliver unasked?
  cases (Frame.decode data connection.limit : Except FrameError (Frame α)) with
  | error fault => exact (List.append_nil _).symm
  | ok frame =>
    obtain ⟨id, body⟩ := frame
    dsimp only
    cases id.isSome with
    | false => rfl
    | true =>
      cases known : connection.exchange.knows id with
      | false =>
        rw [Exchange.resolve_unknown known]
        rfl
      | true =>
        have kept := Exchange.resolve_inbox id body connection.exchange
        have claimed := Exchange.resolve_known known body
        cases found : connection.exchange.resolve id body with
        | mk delivery exchange =>
          rw [found] at kept claimed
          have queue := congrArg Awaited.queue kept
          rcases claimed with rfl | rfl <;> exact queue.trans (List.append_nil _).symm

theorem attend_frame (call : Call) (connection : Connection σ α) :
    ∃ inbox receipts, (connection.attend call).2 = { connection with
      exchange := { connection.exchange with inbox, receipts } } := by
  unfold attend
  dsimp only
  split
  · split
    · exact ⟨_, connection.exchange.receipts, rfl⟩
    · exact ⟨connection.exchange.inbox, connection.exchange.receipts, rfl⟩
  · split
    · exact ⟨connection.exchange.inbox, connection.exchange.receipts, rfl⟩
    · exact ⟨connection.exchange.inbox, _, rfl⟩
    · exact ⟨connection.exchange.inbox, _, rfl⟩
    · exact ⟨connection.exchange.inbox, _, rfl⟩

theorem attend_sameSession (call : Call) (connection : Connection σ α) :
    SameSession connection (connection.attend call).2 := by
  obtain ⟨inbox, receipts, frame⟩ := attend_frame call connection
  rw [frame]
  exact ⟨rfl, rfl, rfl⟩

theorem lapse_sameSession [Transport σ] (call : Call) (connection : Connection σ α) :
    SameSession connection (connection.lapse call).2 := by
  have attended := attend_sameSession call connection
  unfold lapse
  cases looked : connection.attend call with
  | mk outcome left =>
    rw [looked] at attended
    cases outcome with
    | some outcome => exact ⟨attended.settings, attended.channels, attended.channel⟩
    | none =>
      have handled := (handleTimeout_effect call.timeout ((left.quit call).retire call)).1
      have retired : SameSession left ((left.quit call).retire call) := by
        unfold retire
        split <;> exact ⟨rfl, rfl, rfl⟩
      have whole := attended.trans (retired.trans handled)
      exact ⟨whole.settings, whole.channels, whole.channel⟩

theorem take_sameSession [Wire α] (event : Event) (connection : Connection σ α) :
    SameSession connection (connection.take event) := by
  cases event with
  | opened | closed reason => exact ⟨rfl, rfl, rfl⟩
  | message data =>
    change SameSession connection (connection.deliver data)
    unfold deliver
    split
    · exact ⟨rfl, rfl, rfl⟩
    · split
      · split <;> exact ⟨rfl, rfl, rfl⟩
      · exact ⟨rfl, rfl, rfl⟩

namespace Life

def unread (life : Life σ α) : List α := life.connection.exchange.inbox.queue

/-! ## What a deed does to the inbox -/

def arrival? [Wire α] (life : Life σ α) : Deed σ β → Option α
  | .pumps =>
    match life.connection.pump with
    | some ⟨_, .message data :: _⟩ => life.connection.unasked? data
    | _ => none
  | _ => none

/-- All that a deed can do to the inbox, what it finishes, and what came. -/
inductive Flow (life next : Life σ α) : Option α → Prop
  | waits (queue : next.unread = life.unread) (finished : next.finished = life.finished) :
    Flow life next none
  | fails (ticket : Ticket) (fault : Error)
    (queue : next.unread = life.unread ∨
      next.unread = [] ∧ life.connection.settings.timeoutPolicy = .disconnect)
    (finished : next.finished = life.finished ++ [(ticket, .error fault)]) :
    Flow life next none
  | answers (call : Call) (id : Correlation) (body : α)
    (found : life.connection.call? call.ticket = some call) (purpose : call.purpose = .request id)
    (queue : next.unread = life.unread)
    (finished : next.finished = life.finished ++ [(call.ticket, .ok body)]) :
    Flow life next none
  | returns (ticket : Ticket) (body : α)
    (whose : ticket = life.connection.tickets ∨
      ∃ call, life.connection.call? ticket = some call ∧ call.purpose = .receive)
    (queue : life.unread = body :: next.unread)
    (finished : next.finished = life.finished ++ [(ticket, .ok body)]) :
    Flow life next none
  | arrives (pump : Pump) (body : α) (heard : life.connection.pump = some pump)
    (queue : next.unread = life.unread ++ [body]) (finished : next.finished = life.finished) :
    Flow life next (some body)

variable {life : Life σ α}

theorem flow_of_stays {after : Connection σ α} (stays : Stays life.connection after) :
    Flow life { life with connection := after } none :=
  .waits (congrArg (·.inbox.queue) stays.exchange) rfl

theorem Flow.congr {next other : Life σ α} {came : Option α} (flow : Flow life next came)
    (queue : other.unread = next.unread) (finished : other.finished = next.finished) :
    Flow life other came := by
  cases flow with
  | waits same done => exact .waits (queue.trans same) (finished.trans done)
  | fails ticket fault same done => exact .fails ticket fault (queue ▸ same) (finished.trans done)
  | answers call id body found purpose same done =>
    exact .answers call id body found purpose (queue.trans same) (finished.trans done)
  | returns ticket body whose same done =>
    exact .returns ticket body whose (queue ▸ same) (finished.trans done)
  | arrives pump body heard same done =>
    exact .arrives pump body heard (queue.trans same) (finished.trans done)

theorem flow_attend {call : Call} {outcome : Option (Outcome α)} {after : Connection σ α}
    (found : life.connection.call? call.ticket = some call)
    (attended : life.connection.attend call = (outcome, after)) :
    Flow life (life.finish call.ticket (outcome, after)) none := by
  cases purpose : call.purpose with
  | receive =>
    obtain ⟨rfl, same⟩ | ⟨body, rest, rfl, queue, same⟩ :=
      books_attend_receive [] purpose attended
    · exact .waits (congrArg Books.queue same) (List.append_nil _)
    · have left : rest = after.exchange.inbox.queue := (congrArg Books.queue same).symm
      exact .returns call.ticket body (.inr ⟨call, found, purpose⟩)
        (queue.trans (congrArg (body :: ·) left)) rfl
  | request id =>
    obtain ⟨_, rfl, same⟩ | ⟨body, _, rfl, same⟩ | ⟨_, rfl, same⟩ :=
      books_attend_request [] purpose attended
    · exact .waits (congrArg Books.queue same) (List.append_nil _)
    · exact .answers call id body found purpose (congrArg Books.queue same) rfl
    · exact .fails call.ticket .connectionClosed (.inl (congrArg Books.queue same)) rfl

theorem attend_none_queue {call : Call} {connection after : Connection σ α}
    (attended : connection.attend call = (none, after)) :
    after.exchange.inbox.queue = connection.exchange.inbox.queue := by
  cases purpose : call.purpose with
  | receive =>
    obtain ⟨_, same⟩ | ⟨_, _, some, _⟩ := books_attend_receive [] purpose attended
    · exact congrArg Books.queue same
    · cases some
  | request id =>
    obtain ⟨_, _, rfl⟩ | ⟨_, some, _⟩ := attend_request_roll purpose attended
    · rfl
    · cases some

theorem flow_lapse [Transport σ] {call : Call} {outcome : Outcome α} {after : Connection σ α}
    (found : life.connection.call? call.ticket = some call)
    (lapsed : life.connection.lapse call = (outcome, after)) :
    Flow life (life.finish call.ticket (some outcome, after)) none := by
  unfold lapse at lapsed
  cases attended : life.connection.attend call with
  | mk came left =>
    rw [attended] at lapsed
    have looked := flow_attend found attended
    cases came with
    | some found' =>
      cases lapsed
      exact looked.congr rfl rfl
    | none =>
      cases lapsed
      obtain ⟨_, _, _, handled⟩ := handleTimeout_effect call.timeout ((left.quit call).retire call)
      have withdrawn : ((left.quit call).retire call).exchange.inbox.queue =
          left.exchange.inbox.queue ∧ ((left.quit call).retire call).settings = left.settings := by
        unfold retire quit
        cases call.purpose <;> exact ⟨rfl, rfl⟩
      have settings : left.settings = life.connection.settings := by
        have same := attend_sameSession call life.connection
        rw [attended] at same
        exact same.settings
      refine .fails call.ticket (.receiveTimeout call.timeout) ?_ rfl
      change (((left.quit call).retire call).handleTimeout call.timeout).exchange.inbox.queue = _ ∨
        (((left.quit call).retire call).handleTimeout call.timeout).exchange.inbox.queue = _ ∧ _
      rw [handled, withdrawn.2, settings]
      by_cases policy : life.connection.settings.timeoutPolicy = .disconnect
      · exact .inr ⟨by simp [policy, Awaited.quietly], policy⟩
      · rw [if_neg policy]
        exact .inl (withdrawn.1.trans (attend_none_queue attended))

variable [Transport σ] [Wire α] [Wire β]

theorem flow_requests (life : Life σ α) (body : β) (timeout : Duration) :
    Flow life (life.step (.requests body timeout : Deed σ β)) none := by
  simp only [step]
  cases begun : life.connection.beginRequest body timeout with
  | mk outcome after =>
    obtain ⟨⟨fault, rfl⟩, _, stays⟩ | ⟨_, _, _, rest⟩ := beginRequest_cases begun
    · exact .fails _ fault (.inl (congrArg (·.inbox.queue) stays.exchange)) rfl
    · obtain ⟨⟨fault, rfl⟩, _, exchange⟩ | ⟨rfl, exchange, _⟩ := rest
      · exact .fails _ fault (.inl (congrArg (·.inbox.queue) exchange)) rfl
      · exact .waits (congrArg (·.inbox.queue) exchange) (List.append_nil _)

theorem flow_receives (life : Life σ α) (timeout : Duration) :
    Flow life (life.step (.receives timeout : Deed σ β)) none := by
  simp only [step]
  cases begun : life.connection.beginReceive timeout with
  | mk outcome after =>
    obtain ⟨body, rest, rfl, queue, same⟩ | ⟨_, rfl, _, _, same⟩ := books_beginReceive [] begun
    · have left : rest = after.exchange.inbox.queue := (congrArg Books.queue same).symm
      exact .returns _ body (.inl rfl) (queue.trans (congrArg (body :: ·) left)) rfl
    · exact .waits (congrArg Books.queue same) (List.append_nil _)

theorem flow_pumps (life : Life σ α) :
    Flow life (life.step (.pumps : Deed σ β)) (life.arrival? (.pumps : Deed σ β)) := by
  simp only [step, arrival?]
  cases heard : life.connection.pump with
  | none => exact .waits rfl rfl
  | some pump =>
    obtain ⟨channel, events⟩ := pump
    cases events with
    | nil => exact .waits rfl rfl
    | cons event events =>
      cases event with
      | opened | closed reason => exact .waits rfl rfl
      | message data =>
        have queue := deliver_queue data { life.connection with pump := some ⟨channel, events⟩ }
        change _ = life.unread ++ (life.connection.unasked? data).toList at queue
        dsimp only
        cases came : life.connection.unasked? data with
        | none =>
          rw [came] at queue
          exact .waits (queue.trans (List.append_nil _)) rfl
        | some body =>
          rw [came] at queue
          exact .arrives _ body heard queue rfl

theorem flow (life : Life σ α) (deed : Deed σ β) :
    Flow life (life.step deed) (life.arrival? deed) := by
  cases deed with
  | dials url verbose =>
    simp only [step]
    split
    · have exchange := (dial_effect url verbose life.connection).1
      exact .waits (congrArg (·.inbox.queue) exchange) rfl
    · exact .waits rfl rfl
  | concludes url => exact flow_of_stays (conclude_stays url life.connection)
  | disconnects => exact flow_of_stays (disconnect_stays life.connection)
  | sends body => exact flow_of_stays (send_stays body life.connection)
  | receives timeout => exact flow_receives life timeout
  | requests body timeout => exact flow_requests life body timeout
  | attends ticket =>
    simp only [step]
    cases found : life.connection.call? ticket with
    | none => exact .waits rfl rfl
    | some call =>
      obtain ⟨_, rfl⟩ := call?_some found
      cases attended : life.connection.attend call with
      | mk outcome after =>
        have looked := flow_attend found attended
        simp only [attended]
        cases outcome with
        | none => exact looked.congr rfl (List.append_nil _).symm
        | some outcome => exact looked.congr rfl rfl
  | cancels ticket =>
    refine .waits ?_ rfl
    simp only [step, unread, cancel]
    cases life.connection.call? ticket with
    | none => rfl
    | some call =>
      change (life.connection.quit call).exchange.inbox.queue = _
      unfold quit
      cases call.purpose <;> rfl
  | lapses ticket =>
    simp only [step]
    cases found : life.connection.call? ticket with
    | none => exact .waits rfl rfl
    | some call =>
      obtain ⟨_, rfl⟩ := call?_some found
      dsimp only
      split
      · exact .waits rfl rfl
      · exact flow_lapse found rfl
  | pumps => exact flow_pumps life
  | stirs transport reports log =>
    exact (flow_of_stays (carried_stays transport reports life.connection)).congr rfl rfl
  | passes span => exact .waits rfl rfl

theorem sameSession (life : Life σ α) {deed : Deed σ β}
    (other : ∀ url verbose, deed ≠ .dials url verbose) :
    SameSession life.connection (life.step deed).connection := by
  cases deed with
  | dials url verbose => exact absurd rfl (other url verbose)
  | concludes url => exact (conclude_stays url life.connection).toSameSession
  | disconnects => exact (disconnect_stays life.connection).toSameSession
  | sends body => exact (send_stays body life.connection).toSameSession
  | receives timeout =>
    change SameSession _ (life.connection.beginReceive timeout).2
    unfold beginReceive
    dsimp only
    split <;> exact ⟨rfl, rfl, rfl⟩
  | requests body timeout =>
    simp only [step]
    cases begun : life.connection.beginRequest body timeout with
    | mk outcome after =>
      obtain ⟨_, _, stays⟩ | ⟨_, same, _⟩ := beginRequest_cases begun
      · exact stays.toSameSession
      · exact same
  | attends ticket =>
    simp only [step]
    cases life.connection.call? ticket with
    | none => exact .refl _
    | some call =>
      have attended := attend_sameSession call life.connection
      cases looked : life.connection.attend call with
      | mk outcome after =>
        rw [looked] at attended
        simp only [looked]
        cases outcome with
        | none => exact attended
        | some outcome => exact ⟨attended.settings, attended.channels, attended.channel⟩
  | cancels ticket =>
    simp only [step, cancel]
    cases life.connection.call? ticket <;> exact ⟨rfl, rfl, rfl⟩
  | lapses ticket =>
    simp only [step]
    cases life.connection.call? ticket with
    | none => exact .refl _
    | some call =>
      dsimp only
      split
      · exact .refl _
      · exact lapse_sameSession call life.connection
  | pumps =>
    simp only [step]
    cases heard : life.connection.pump with
    | none => exact .refl _
    | some pump =>
      obtain ⟨channel, events⟩ := pump
      cases events with
      | nil => exact .refl _
      | cons event events =>
        have taken := take_sameSession event
          { life.connection with pump := some ⟨channel, events⟩ }
        refine ⟨taken.settings, taken.channels, taken.channel.trans ?_⟩
        rw [heard]
        rfl
  | stirs transport reports log =>
    have carried := carried_stays transport reports life.connection
    exact ⟨carried.settings, carried.channels, carried.channel⟩
  | passes span => exact ⟨rfl, rfl, rfl⟩

/-- The deed ends a call that is no request, and the call gives out a response. -/
def Receives (life : Life σ α) (deed : Deed σ β) (ticket : Ticket) (body : α) : Prop :=
  (life.step deed).finished = life.finished ++ [(ticket, .ok body)] ∧
    ∀ call, life.connection.call? ticket = some call → call.purpose = .receive

/-- Only the oldest response is ever received. -/
theorem Receives.oldest {life : Life σ α} {deed : Deed σ β} {ticket : Ticket} {body : α}
    (receives : life.Receives deed ticket body) : life.unread = body :: (life.step deed).unread := by
  obtain ⟨finished, purpose⟩ := receives
  have flow := life.flow deed
  generalize life.arrival? deed = came at flow
  cases flow with
  | waits queue same =>
    rw [same] at finished
    simp at finished
  | fails other fault queue same =>
    rw [same] at finished
    simp at finished
  | answers call id other found asks queue same =>
    rw [same] at finished
    obtain ⟨rfl, rfl⟩ : call.ticket = ticket ∧ other = body := by simpa using finished
    rw [purpose call found] at asks
    cases asks
  | returns other body' _ queue same =>
    rw [same] at finished
    obtain ⟨rfl, rfl⟩ : other = ticket ∧ body' = body := by simpa using finished
    exact queue
  | arrives pump other heard queue same =>
    rw [same] at finished
    simp at finished

theorem followed (life : Life σ α) (deed : Deed σ β) :
    let next := (life.step deed).connection
    (next.channels = life.connection.channels ∧
      next.pump.map (·.channel) = life.connection.pump.map (·.channel)) ∨
    (next.channels = life.connection.channels + 1 ∧
      ∀ channel, next.pump.map (·.channel) = some channel → channel = life.connection.channels) := by
  by_cases dials : ∃ url verbose, deed = .dials url verbose
  · obtain ⟨url, verbose, rfl⟩ := dials
    simp only [step]
    split
    · obtain ⟨_, _, _, _, channels, pump⟩ := dial_effect url verbose life.connection
      refine .inr ⟨channels, fun channel heard => ?_⟩
      rcases pump with none | some
      · cases none.symm.trans heard
      · exact (Option.some.inj (some.symm.trans heard)).symm
    · exact .inl ⟨rfl, rfl⟩
  · have same := life.sameSession fun url verbose here => dials ⟨url, verbose, here⟩
    exact .inl ⟨same.channels, same.channel⟩

end Life

/-! ## Where the unread responses come from -/

/-- An unread response: after how many deeds it was put into the inbox, and the channel of the session
over which it came. -/
structure Letter (α : Type) where
  position : Nat
  channel : Nat
  body : α
deriving DecidableEq

/-- A life with the unread responses as letters. They decide nothing. -/
structure Traced (σ α : Type) where
  life : Life σ α
  done : Nat := 0
  letters : List (Letter α) := []

namespace Traced

/-- What left the inbox leaves it at its front, and what is new comes from the pump. -/
def follow (traced : Traced σ α) (next : Life σ α) : List (Letter α) :=
  let had := traced.life.unread.length
  traced.letters.drop (had - next.unread.length) ++ (next.unread.drop had).map fun body =>
    ⟨traced.done, (traced.life.connection.pump.map (·.channel)).getD 0, body⟩

inductive Moves (traced : Traced σ α) : List (Letter α) → Prop
  | keeps : Moves traced traced.letters
  | clears : Moves traced []
  | takes (letter : Letter α) (rest : List (Letter α)) (front : traced.letters = letter :: rest) :
    Moves traced rest
  | adds (pump : Pump) (body : α) (heard : traced.life.connection.pump = some pump) :
    Moves traced (traced.letters ++ [⟨traced.done, pump.channel, body⟩])

def Fits (traced : Traced σ α) : Prop := traced.letters.map (·.body) = traced.life.unread

theorem Fits.letters_eq_nil {traced : Traced σ α} (fits : traced.Fits) :
    traced.letters = [] ↔ traced.life.unread = [] := by
  rw [← fits, List.map_eq_nil_iff]

theorem follow_kept (traced : Traced σ α) {next : Life σ α}
    (queue : next.unread = traced.life.unread) : traced.follow next = traced.letters := by
  simp [follow, queue]

theorem Fits.follow_cleared {traced : Traced σ α} (fits : traced.Fits) {next : Life σ α}
    (queue : next.unread = []) : traced.follow next = [] := by
  have length : traced.letters.length = traced.life.unread.length := by
    rw [← fits, List.length_map]
  simp [follow, queue, ← length]

theorem follow_taken (traced : Traced σ α) {next : Life σ α} {body : α}
    (queue : traced.life.unread = body :: next.unread) :
    traced.follow next = traced.letters.drop 1 := by
  have one : traced.life.unread.length - next.unread.length = 1 := by
    rw [queue, List.length_cons]
    omega
  have none : next.unread.drop traced.life.unread.length = [] := by
    apply List.drop_eq_nil_of_le
    rw [queue, List.length_cons]
    omega
  simp [follow, one, none]

theorem follow_added (traced : Traced σ α) {next : Life σ α} {body : α} {pump : Pump}
    (heard : traced.life.connection.pump = some pump)
    (queue : next.unread = traced.life.unread ++ [body]) :
    traced.follow next = traced.letters ++ [⟨traced.done, pump.channel, body⟩] := by
  simp [follow, queue, heard]

/-- What was unread at some time is still unread but for what left at the front, and all that came since
came later, over a session from this channel on. -/
structure Since (channel position : Nat) (old : List (Letter α)) (traced : Traced σ α) : Prop where
  fits : traced.Fits
  letters : ∃ left fresh, traced.letters = left ++ fresh ∧ left <:+ old ∧
    ∀ letter ∈ fresh, channel ≤ letter.channel ∧ position ≤ letter.position
  pump : ∀ followed, traced.life.connection.pump.map (·.channel) = some followed → channel ≤ followed
  channels : channel ≤ traced.life.connection.channels
  done : position ≤ traced.done

variable {channel position : Nat} {old : List (Letter α)} {traced : Traced σ α}

theorem Since.letters_step (since : traced.Since channel position old) {next : List (Letter α)}
    (moves : Moves traced next) :
    ∃ left fresh, next = left ++ fresh ∧ left <:+ old ∧
      ∀ letter ∈ fresh, channel ≤ letter.channel ∧ position ≤ letter.position := by
  obtain ⟨left, fresh, split, suffix, new⟩ := since.letters
  cases moves with
  | keeps => exact ⟨left, fresh, split, suffix, new⟩
  | clears => exact ⟨[], [], rfl, List.nil_suffix, by simp⟩
  | takes letter rest front =>
    rw [split] at front
    cases left with
    | nil =>
      have taken : fresh = letter :: next := front
      refine ⟨[], next, rfl, List.nil_suffix, fun other member => ?_⟩
      exact new other (taken ▸ List.mem_cons_of_mem letter member)
    | cons first left =>
      obtain ⟨rfl, rest⟩ := List.cons.inj front
      exact ⟨left, fresh, rest.symm, (List.suffix_cons first left).trans suffix, new⟩
  | adds pump body heard =>
    refine ⟨left, fresh ++ [⟨traced.done, pump.channel, body⟩], by simp [split], suffix, ?_⟩
    intro letter member
    rcases List.mem_append.mp member with before | added
    · exact new letter before
    · rw [List.mem_singleton.mp added]
      exact ⟨since.pump pump.channel (by rw [heard]; rfl), since.done⟩

/-- Every letter came over a session that was started before. -/
structure Dated (traced : Traced σ α) : Prop where
  fits : traced.Fits
  letters : ∀ letter ∈ traced.letters,
    letter.channel < traced.life.connection.channels ∧ letter.position < traced.done
  pump : ∀ followed, traced.life.connection.pump.map (·.channel) = some followed →
    followed < traced.life.connection.channels

def ofTransport (settings : ConnectSettings) (transport : σ) : Traced σ α :=
  { life := .ofTransport settings transport }

theorem dated_new (settings : ConnectSettings) (transport : σ) :
    (ofTransport settings transport : Traced σ α).Dated :=
  ⟨rfl, nofun, nofun⟩

variable [Transport σ] [Wire α] [Wire β]

def step (traced : Traced σ α) (deed : Deed σ β) : Traced σ α :=
  ⟨traced.life.step deed, traced.done + 1, traced.follow (traced.life.step deed)⟩

def run (deeds : List (Deed σ β)) (traced : Traced σ α) : Traced σ α := deeds.foldl step traced

theorem run_life (deeds : List (Deed σ β)) (traced : Traced σ α) :
    (traced.run deeds).life = traced.life.run deeds := by
  induction deeds generalizing traced with
  | nil => rfl
  | cons deed deeds ih => exact ih (traced.step deed)

theorem Fits.moves {traced : Traced σ α} (fits : traced.Fits) (deed : Deed σ β) :
    Moves traced (traced.step deed).letters ∧ (traced.step deed).Fits := by
  change Moves traced (traced.follow (traced.life.step deed)) ∧
    (traced.follow (traced.life.step deed)).map (·.body) = (traced.life.step deed).unread
  have flow := traced.life.flow deed
  generalize traced.life.step deed = next at flow
  generalize traced.life.arrival? deed = came at flow
  have kept : next.unread = traced.life.unread → Moves traced (traced.follow next) ∧
      (traced.follow next).map (·.body) = next.unread := by
    intro queue
    rw [traced.follow_kept queue, queue]
    exact ⟨.keeps, fits⟩
  cases flow with
  | waits queue | answers _ _ _ _ _ queue => exact kept queue
  | fails _ _ either =>
    rcases either with queue | ⟨empty, _⟩
    · exact kept queue
    · rw [fits.follow_cleared empty, empty]
      exact ⟨.clears, rfl⟩
  | returns ticket body _ queue =>
    obtain ⟨letter, rest, front, _, others⟩ := List.map_eq_cons_iff.mp (fits.trans queue)
    rw [traced.follow_taken queue, front]
    exact ⟨.takes letter rest front, others⟩
  | arrives pump body heard queue =>
    rw [traced.follow_added heard queue, queue]
    refine ⟨.adds pump body heard, ?_⟩
    rw [List.map_append, fits]
    rfl

theorem Since.step (since : traced.Since channel position old) (deed : Deed σ β) :
    (traced.step deed).Since channel position old := by
  obtain ⟨moves, fits⟩ := since.fits.moves deed
  have later : position ≤ traced.done + 1 := since.done.trans (Nat.le_succ _)
  rcases traced.life.followed deed with ⟨channels, same⟩ | ⟨channels, new⟩
  · refine ⟨fits, since.letters_step moves, fun followed heard => ?_, ?_, later⟩
    · exact since.pump followed (same.symm.trans heard)
    · exact since.channels.trans_eq channels.symm
  · refine ⟨fits, since.letters_step moves, fun followed heard => ?_, ?_, later⟩
    · rw [new followed heard]
      exact since.channels
    · exact (since.channels.trans (Nat.le_succ _)).trans_eq channels.symm

theorem Since.run (since : traced.Since channel position old) (deeds : List (Deed σ β)) :
    (traced.run deeds).Since channel position old := by
  induction deeds generalizing traced with
  | nil => exact since
  | cons deed deeds ih => exact ih (since.step deed)

theorem Fits.received (fits : traced.Fits) {deed : Deed σ β} {ticket : Ticket} {body : α}
    (receives : traced.life.Receives deed ticket body) :
    ∃ letter, traced.letters = letter :: (traced.step deed).letters ∧ letter.body = body := by
  have queue := receives.oldest
  have taken : (traced.step deed).letters = traced.letters.drop 1 := traced.follow_taken queue
  obtain ⟨letter, rest, front, same, _⟩ := List.map_eq_cons_iff.mp (fits.trans queue)
  rw [taken, front]
  exact ⟨letter, rfl, same⟩

theorem Dated.step (dated : traced.Dated) (deed : Deed σ β) : (traced.step deed).Dated := by
  obtain ⟨moves, fits⟩ := dated.fits.moves deed
  have early : ∀ letter ∈ (traced.step deed).letters,
      letter.channel < traced.life.connection.channels ∧ letter.position < traced.done + 1 := by
    intro letter member
    have before : letter ∈ traced.letters → letter.channel < traced.life.connection.channels ∧
        letter.position < traced.done + 1 := fun old =>
      ⟨(dated.letters letter old).1, (dated.letters letter old).2.trans (Nat.lt_succ_self _)⟩
    generalize (traced.step deed).letters = next at moves member
    cases moves with
    | keeps => exact before member
    | clears => cases member
    | takes first rest front => exact before (front ▸ List.mem_cons_of_mem first member)
    | adds pump body heard =>
      rcases List.mem_append.mp member with old | added
      · exact before old
      · rw [List.mem_singleton.mp added]
        exact ⟨dated.pump pump.channel (by rw [heard]; rfl), Nat.lt_succ_self _⟩
  rcases traced.life.followed deed with ⟨channels, same⟩ | ⟨channels, new⟩
  · refine ⟨fits, fun letter member => ?_, fun followed heard => ?_⟩
    · exact ⟨(early letter member).1.trans_eq channels.symm, (early letter member).2⟩
    · exact (dated.pump followed (same.symm.trans heard)).trans_eq channels.symm
  · have more := (Nat.lt_succ_self traced.life.connection.channels).trans_eq channels.symm
    refine ⟨fits, fun letter member => ?_, fun followed heard => ?_⟩
    · exact ⟨(early letter member).1.trans more, (early letter member).2⟩
    · exact new followed heard ▸ more

theorem Dated.run (dated : traced.Dated) (deeds : List (Deed σ β)) : (traced.run deeds).Dated := by
  induction deeds generalizing traced with
  | nil => exact dated
  | cons deed deeds ih => exact ih (dated.step deed)

/-- A dial that is carried out leaves the letters, and follows no earlier session. -/
theorem Dated.since_dial (dated : traced.Dated) (free : traced.life.connection.calls = [])
    (url : Url) (verbose : Bool) :
    (traced.step (.dials url verbose : Deed σ β)).Since traced.life.connection.channels traced.done
      traced.letters := by
  obtain ⟨exchange, _, _, _, channels, pump⟩ := dial_effect url verbose traced.life.connection
  have step : traced.life.step (.dials url verbose : Deed σ β) =
      { traced.life with connection := (traced.life.connection.dial url verbose).2 } := by
    simp only [Life.step, free, List.isEmpty_nil, if_true]
  have kept : (traced.step (.dials url verbose : Deed σ β)).letters = traced.letters := by
    apply traced.follow_kept
    rw [step]
    exact congrArg (·.inbox.queue) exchange
  refine ⟨(dated.fits.moves _).2, ⟨traced.letters, [], by rw [kept, List.append_nil],
    List.suffix_rfl, by simp⟩, fun followed heard => ?_, ?_, Nat.le_succ _⟩
  · change (traced.life.step (.dials url verbose : Deed σ β)).connection.pump.map _ = _ at heard
    rw [step] at heard
    rcases pump with none | some
    · cases none.symm.trans heard
    · exact (Option.some.inj (some.symm.trans heard)).le
  · change _ ≤ (traced.life.step (.dials url verbose : Deed σ β)).connection.channels
    rw [step]
    exact (Nat.le_succ _).trans_eq channels.symm

theorem prefix_step {deed : Deed σ β}
    (silent : (traced.life.step deed).finished = traced.life.finished) :
    traced.letters <+: (traced.step deed).letters := by
  change traced.letters <+: traced.follow (traced.life.step deed)
  have flow := traced.life.flow deed
  generalize traced.life.arrival? deed = came at flow
  cases flow with
  | waits queue => rw [traced.follow_kept queue]
  | fails _ _ _ finished | answers _ _ _ _ _ _ finished | returns _ _ _ _ finished =>
    rw [finished] at silent
    simp at silent
  | arrives pump body heard queue =>
    rw [traced.follow_added heard queue]
    exact List.prefix_append ..

theorem prefix_run (deeds : List (Deed σ β))
    (silent : ∀ deed ∈ deeds, ∀ life : Life σ α, (life.step deed).finished = life.finished) :
    traced.letters <+: (traced.run deeds).letters := by
  induction deeds generalizing traced with
  | nil => exact List.prefix_rfl
  | cons deed deeds ih =>
    have first := prefix_step (silent deed List.mem_cons_self traced.life)
    exact first.trans (ih fun later member => silent later (List.mem_cons_of_mem deed member))

end Traced

variable [Transport σ] [Wire α] [Wire β]

theorem Life.finished_opening {deed : Deed σ β} {url : Url} {verbose : Bool} {during : List (Deed σ β)}
    (opening : ∀ deed ∈ during, deed.isOpening = true)
    (member : deed ∈ .dials url verbose :: during ++ [.concludes url]) (life : Life σ α) :
    (life.step deed).finished = life.finished := by
  rw [List.cons_append, List.mem_cons, List.mem_append, List.mem_singleton] at member
  rcases member with rfl | inner | rfl
  · simp only [step]
    split <;> rfl
  · have calm := opening deed inner
    cases deed with
    | pumps =>
      simp only [step]
      split <;> rfl
    | stirs | passes => rfl
    | dials | concludes | disconnects | sends | receives | requests | attends | cancels | lapses =>
      cases calm
  · rfl

theorem Traced.Fits.receives {traced : Traced σ α} (fits : traced.Fits) {letter : Letter α}
    {rest : List (Letter α)} (front : traced.letters = letter :: rest)
    (free : traced.life.connection.calls = []) (timeout : Duration) :
    traced.life.Receives (.receives timeout : Deed σ β) traced.life.connection.tickets
      letter.body := by
  rw [Traced.Fits, front] at fits
  have queue : traced.life.connection.exchange.inbox.queue = letter.body :: rest.map (·.body) :=
    fits.symm
  have found : traced.life.connection.exchange.inbox.attend traced.life.connection.tickets =
      (some letter.body, ⟨rest.map (·.body), traced.life.connection.exchange.inbox.bell⟩) := by
    simp [Awaited.attend, Awaited.look, queue, Queue.pop]
  refine ⟨?_, fun call present => ?_⟩
  · simp only [Life.step, Life.finish, beginReceive, found]
    rfl
  · simp [call?, free] at present

/-- Opening a connection leaves what is unread in the inbox. From then on the responses that came over
an earlier session are what is left of that, and they are received first, the oldest first; all others
came over a session from the new one on. So a response of an earlier session can be received after
the connection was opened exactly if one was unread when that began. -/
theorem received_from_earlier_session_iff (settings : ConnectSettings) (transport : σ)
    (before during : List (Deed σ β)) (url : Url) (verbose : Bool)
    (free : ((Life.ofTransport settings transport : Life σ α).run before).connection.calls = [])
    (opening : ∀ deed ∈ during, deed.isOpening = true) :
    let old := (Traced.ofTransport settings transport : Traced σ α).run before
    let opened := old.run (.dials url verbose :: during ++ [.concludes url])
    let channel := old.life.connection.channels
    old.letters <+: opened.letters ∧
    (∀ later : List (Deed σ β), ∃ left fresh, (opened.run later).letters = left ++ fresh ∧
      left <:+ old.letters ∧ (∀ letter ∈ left, letter.channel < channel) ∧
      ∀ letter ∈ fresh, channel ≤ letter.channel) ∧
    (∀ (later : List (Deed σ β)) (deed : Deed σ β) ticket body,
      (opened.run later).life.Receives deed ticket body →
      ∃ letter, (opened.run later).letters = letter :: ((opened.run later).step deed).letters ∧
        letter.body = body) ∧
    ((∃ (later : List (Deed σ β)) (deed : Deed σ β) (ticket : Ticket) (letter : Letter α),
      (opened.run later).life.Receives deed ticket letter.body ∧
      (opened.run later).letters.head? = some letter ∧ letter.channel < channel) ↔
      old.life.unread ≠ []) := by
  intro old opened channel
  have dated : old.Dated := (Traced.dated_new settings transport).run before
  have life : old.life = (Life.ofTransport settings transport : Life σ α).run before :=
    Traced.run_life before _
  rw [← life] at free
  have since : opened.Since channel old.done old.letters := dated.since_dial free url verbose |>.run _
  have kept : old.letters <+: opened.letters :=
    Traced.prefix_run _ fun deed member => Life.finished_opening opening member
  refine ⟨kept, fun later => ?_, fun later deed ticket body receives => ?_, ⟨?_, fun unread => ?_⟩⟩
  · obtain ⟨left, fresh, split, suffix, new⟩ := (since.run later).letters
    refine ⟨left, fresh, split, suffix, fun letter member => ?_, fun letter member => ?_⟩
    · exact (dated.letters letter (suffix.mem member)).1
    · exact (new letter member).1
  · exact (since.run later).fits.received receives
  · rintro ⟨later, deed, ticket, letter, _, front, early⟩ nothing
    obtain ⟨left, fresh, split, suffix, new⟩ := (since.run later).letters
    rw [dated.fits.letters_eq_nil.mpr nothing, List.suffix_nil] at suffix
    have member : letter ∈ fresh := by
      rw [split, suffix] at front
      exact List.mem_of_head? front
    exact absurd early (Nat.not_lt.mpr (new letter member).1)
  · have alone : opened.life.connection.calls = [] := by
      rw [Traced.run_life]
      exact (old.life.opened_run [] free url verbose opening).1
    cases front : old.letters with
    | nil => exact absurd (dated.fits.letters_eq_nil.mp front) unread
    | cons letter rest =>
      obtain ⟨more, grown⟩ := kept
      rw [front, List.cons_append] at grown
      refine ⟨[], .receives .zero, _, letter, since.fits.receives grown.symm alone _, ?_, ?_⟩
      · exact congrArg List.head? grown.symm
      · exact (dated.letters letter (front ▸ List.mem_cons_self)).1

section Rehearsed

open Scenario (Rehearsed)

def unreadResponse : List (Deed Rehearsed Unit) :=
  opens ++ [.stirs { ready := .ready, channel := some 0 }
    [⟨0, .message [0, 0, 0, 0, 0, 0, 0, 0, 7]⟩] [], .pumps]

/-- Where nobody reads a response before the connection is opened again, it can be received then. -/
theorem unread_received_later :
    let old := (Traced.ofTransport {} {} : Traced Rehearsed UInt8).run unreadResponse
    let again : List (Deed Rehearsed Unit) :=
      .dials endpoint false :: [.pumps] ++ [.concludes endpoint]
    let opened := old.run again
    old.life.unread ≠ [] ∧
    ∃ (later : List (Deed Rehearsed Unit)) (deed : Deed Rehearsed Unit) (ticket : Ticket)
      (letter : Letter UInt8), (opened.run later).life.Receives deed ticket letter.body ∧
      (opened.run later).letters.head? = some letter ∧
      letter.channel < old.life.connection.channels := by
  intro old again opened
  have unread : old.life.unread ≠ [] := by decide +kernel
  have alone : ∀ deed ∈ [(.pumps : Deed Rehearsed Unit)], deed.isOpening = true := by decide
  obtain ⟨_, _, _, possible⟩ := received_from_earlier_session_iff (σ := Rehearsed) (α := UInt8) {} {}
    unreadResponse [.pumps] endpoint false (by decide +kernel) alone
  exact ⟨unread, possible.mpr unread⟩

/-- The connection is opened again with success, and a receive gives out the response that came over the
session before. -/
theorem response_of_earlier_session :
    let start : Traced Rehearsed UInt8 := .ofTransport {} {}
    let dialed := start.run (unreadResponse ++ [.dials endpoint false, .pumps])
    let opened := dialed.step (.concludes endpoint : Deed Rehearsed Unit)
    (dialed.life.connection.conclude endpoint).1.isOk = true ∧
    opened.life.connection.pump.map (·.channel) = some 1 ∧
    opened.letters = [⟨4, 0, 7⟩] ∧
    opened.life.Receives (.receives (.ofMillis 50) : Deed Rehearsed Unit) 0 7 := by
  intro start dialed opened
  have nobody : opened.life.connection.call? 0 = none := by decide +kernel
  refine ⟨by decide +kernel, by decide +kernel, by decide +kernel, by decide +kernel,
    fun call found => ?_⟩
  rw [nobody] at found
  cases found

end Rehearsed

end Connection

end FrameLink.Link
