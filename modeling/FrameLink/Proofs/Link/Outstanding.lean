import Mathlib
import FrameLink.Proofs.Link.Rolls
import FrameLink.Scenario.Rehearsed
/-!
How many requests are outstanding, over any course of events.
-/

namespace FrameLink.Link

open Wait

theorem Pending.find?_eq_some_iff {pending : Pending} (numbers : (pending.live.map (·.1)).Nodup)
    {id : Correlation} {ticket : Ticket} :
    pending.find? id = some ticket ↔ (id, ticket) ∈ pending.live := by
  rw [Pending.find?, Option.map_eq_some_iff]
  constructor
  · rintro ⟨⟨number, owner⟩, found, rfl⟩
    have same : number = id := by simpa using List.find?_some found
    exact same ▸ List.mem_of_find?_eq_some found
  · intro member
    obtain ⟨entry, found⟩ : ∃ entry, pending.live.find? (fun entry => entry.1 == id) = some entry :=
      Option.isSome_iff_exists.mp (List.find?_isSome.mpr ⟨_, member, by simp⟩)
    have same : entry.1 = id := by simpa using List.find?_some found
    have there := List.mem_of_find?_eq_some found
    rw [List.inj_on_of_nodup_map numbers there member same] at found
    exact ⟨_, found, rfl⟩

namespace Exchange

variable {α : Type} {exchange : Exchange α} {ticket : Ticket}

def settled (exchange : Exchange α) (id : Correlation) (ticket : Ticket) : Option (Receipt α) :=
  (exchange.receipt? ticket).map (shutting (exchange.pending.find? id).toList ticket)

theorem settled_of_none (none : exchange.receipt? ticket = none) (id : Correlation) :
    exchange.settled id ticket = Option.none := by
  rw [settled, none]
  rfl

theorem receipt?_register_new (unused : exchange.receipt? ticket = none) (id : Correlation)
    (other : Ticket) : (exchange.register id ticket).receipt? other =
      Function.update (exchange.settled id) ticket (some .pending) other := by
  have closed := receipt?_close other exchange (exchange.pending.find? id).toList
  simp only [receipt?] at closed
  simp only [register, receipt?, List.find?_append, Option.map_or, closed]
  rw [Function.update_apply]
  split
  next same =>
    have none := settled_of_none unused id
    simp only [settled, receipt?] at none
    rw [same, none]
    simp
  next apart =>
    simp only [settled, receipt?]
    simp [Ne.symm apart]

/-- A request that is withdrawn leaves no receipt, and still takes an earlier one off. -/
theorem receipt?_withdraw_new (unused : exchange.receipt? ticket = none) (id : Correlation)
    (other : Ticket) :
    (((exchange.register id ticket).forget id).release ticket).receipt? other =
      exchange.settled id other := by
  rw [receipt?_release]
  split
  next same => rw [same, settled_of_none unused]
  next apart =>
    have owned : (exchange.register id ticket).pending.find? id = some ticket := by
      simp only [register, Pending.find?_register, if_true]
    simp only [forget, owned, Option.toList_some]
    change ((exchange.register id ticket).close [ticket]).receipt? other = _
    rw [receipt?_close, receipt?_register_new unused, Function.update_of_ne apart]
    cases exchange.settled id other with
    | none => rfl
    | some receipt => rw [Option.map_some, shutting_of_not_mem (by simpa using apart)]

end Exchange

namespace Connection

variable {σ α β : Type} {connection : Connection σ α} {left : List (Correlation × Ticket)}

open Roll

/-! ## Operations -/

theorem roll_release (ticket : Ticket) (connection : Connection σ α) :
    Connection.roll { connection with exchange := connection.exchange.release ticket } =
      { connection.roll with receipt := Function.update connection.roll.receipt ticket none } :=
  Roll.ext rfl (congrArg Books.receipt (books_release [] ticket connection)) rfl rfl

theorem attend_receive_roll {call : Call} (purpose : call.purpose = .receive)
    (connection : Connection σ α) : (connection.attend call).2.roll = connection.roll := by
  simp only [attend, purpose]
  split <;> rfl

theorem attend_request_roll {call : Call} {id : Correlation} {after : Connection σ α}
    {outcome : Option (Outcome α)} (purpose : call.purpose = .request id)
    (attended : connection.attend call = (outcome, after)) :
    (connection.roll.receipt call.ticket = some .pending ∧ outcome = none ∧ after = connection) ∨
    (connection.roll.receipt call.ticket ≠ some .pending ∧ outcome.isSome = true ∧
      after.roll = { connection.roll with
        receipt := Function.update connection.roll.receipt call.ticket none }) := by
  have released := roll_release call.ticket connection
  simp only [attend, purpose] at attended
  change (connection.exchange.receipt? call.ticket = _ ∧ _) ∨
    (connection.exchange.receipt? call.ticket ≠ _ ∧ _)
  cases receipt : connection.exchange.receipt? call.ticket with
  | none =>
    rw [receipt] at attended
    cases attended
    exact .inr ⟨by simp, rfl, released⟩
  | some receipt' =>
    rw [receipt] at attended
    cases receipt' with
    | pending =>
      cases attended
      exact .inl ⟨rfl, rfl, rfl⟩
    | answered body =>
      cases attended
      exact .inr ⟨by simp, rfl, released⟩
    | closed =>
      cases attended
      exact .inr ⟨by simp, rfl, released⟩

theorem changes_attend {call : Call} {outcome : Outcome α} {after : Connection σ α}
    (member : call ∈ connection.calls)
    (attended : connection.attend call = (some outcome, after)) :
    Changes connection.roll left (after.remove call.ticket).roll left := by
  cases purpose : call.purpose with
  | receive =>
    have same := attend_receive_roll purpose connection
    rw [attended] at same
    have gone : (after.remove call.ticket).roll = { connection.roll with
        calls := connection.roll.without call.ticket } :=
      congrArg (fun roll => { roll with calls := roll.without call.ticket }) same
    exact gone ▸ (Change.quits call member purpose).single
  | request id =>
    obtain ⟨_, none, _⟩ | ⟨ended, _, same⟩ := attend_request_roll purpose attended
    · cases none
    · have gone : (after.remove call.ticket).roll = { connection.roll with
          receipt := Function.update connection.roll.receipt call.ticket none
          calls := connection.roll.without call.ticket } :=
        congrArg (fun roll => { roll with calls := roll.without call.ticket }) same
      exact gone ▸ (Change.settles call id member purpose ended).single

theorem attend_none_roll {call : Call} {after : Connection σ α}
    (attended : connection.attend call = (none, after)) : after.roll = connection.roll := by
  cases purpose : call.purpose with
  | receive =>
    have same := attend_receive_roll purpose connection
    rw [attended] at same
    exact same
  | request id =>
    obtain ⟨_, _, rfl⟩ | ⟨_, some, _⟩ := attend_request_roll purpose attended
    · rfl
    · cases some

theorem frees_settled (numbers : (connection.roll.live.map (·.1)).Nodup) (id : Correlation) :
    Frees connection.roll (· == id) (connection.exchange.settled id) where
  owner number ticket registered off := by
    obtain rfl : number = id := by simpa using off
    rw [Exchange.settled, (Pending.find?_eq_some_iff numbers).mpr registered]
    cases connection.exchange.receipt? ticket with
    | none => simp
    | some receipt => cases receipt <;> simp [Exchange.shutting]
  absent ticket none := Exchange.settled_of_none none id
  others ticket kept := by
    have apart : ticket ∉ (connection.exchange.pending.find? id).toList := by
      intro member
      have owned := (Pending.find?_eq_some_iff numbers).mp (by simpa using member)
      exact kept id (by simp) owned
    change connection.exchange.settled id ticket = connection.exchange.receipt? ticket
    rw [Exchange.settled]
    cases connection.exchange.receipt? ticket with
    | none => rfl
    | some receipt => rw [Option.map_some, Exchange.shutting_of_not_mem apart]

theorem changes_register (sound : Sound connection.roll left) {id : Correlation} {call : Call}
    {after : Connection σ α} (ticket : call.ticket = connection.tickets)
    (purpose : call.purpose = .request id)
    (exchange : after.exchange = connection.exchange.register id connection.tickets)
    (calls : after.calls = connection.calls ++ [call])
    (tickets : after.tickets = connection.tickets + 1) :
    Changes connection.roll left after.roll (left.filter fun entry => entry.1 != id) := by
  have unused := sound.unused connection.tickets (Nat.le_refl _)
  have freed : Change connection.roll left _ (left.filter fun entry => entry.1 != id) :=
    .frees _ _ (frees_settled sound.numbers id)
  have same : after.roll = { connection.roll with
      live := (connection.roll.live.filter fun entry => entry.1 != id) ++
        [(id, connection.roll.tickets)]
      receipt := Function.update (connection.exchange.settled id) connection.roll.tickets
        (some .pending)
      calls := connection.roll.calls ++ [call]
      tickets := connection.roll.tickets + 1 } := by
    refine Roll.ext ?_ (funext fun other => ?_) calls tickets
    · exact congrArg (fun exchange => exchange.pending.live) exchange
    · have registered := Exchange.receipt?_register_new unused id other
      rw [← exchange] at registered
      exact registered
  rw [same]
  exact .tail freed.single (.enters call id ticket purpose (by simp))

theorem changes_withdraw (sound : Sound connection.roll left) {id : Correlation}
    {after : Connection σ α} (exchange : after.exchange =
      ((connection.exchange.register id connection.tickets).forget id).release connection.tickets)
    (calls : after.calls = connection.calls) (tickets : after.tickets = connection.tickets + 1) :
    Changes connection.roll left after.roll (left.filter fun entry => entry.1 != id) := by
  have unused := sound.unused connection.tickets (Nat.le_refl _)
  have freed : Change connection.roll left _ (left.filter fun entry => entry.1 != id) :=
    .frees _ _ (frees_settled sound.numbers id)
  have same : after.roll = { connection.roll with
      live := connection.roll.live.filter fun entry => entry.1 != id
      receipt := connection.exchange.settled id
      tickets := connection.roll.tickets + 1 } := by
    refine Roll.ext ?_ (funext fun other => ?_) calls tickets
    · have live := congrArg (fun exchange => exchange.pending.live) exchange
      refine live.trans ?_
      change (connection.exchange.pending.register id connection.tickets).live.filter _ = _
      simp [Pending.register, Pending.erase, roll]
    · have withdrawn := Exchange.receipt?_withdraw_new unused id other
      rw [← exchange] at withdrawn
      exact withdrawn
  rw [same]
  exact .tail freed.single (.rests _ (Nat.le_succ _))

theorem filter_of_free {entries : List (Correlation × Ticket)} {id : Correlation}
    (free : ∀ ticket, (id, ticket) ∉ entries) :
    (entries.filter fun entry => entry.1 != id) = entries := by
  rw [List.filter_eq_self]
  rintro ⟨number, ticket⟩ member
  rw [bne_iff_ne]
  rintro rfl
  exact free ticket member

theorem frees_owner {roll : Roll α} {id : Correlation} {ticket : Ticket}
    {receipt : Option (Receipt α)} (registered : (id, ticket) ∈ roll.live)
    (own : ∀ other, (id, other) ∈ roll.live → other = ticket) (ended : receipt ≠ some .pending)
    (absent : roll.receipt ticket = none → receipt = none) :
    Frees roll (· == id) (Function.update roll.receipt ticket receipt) := by
  refine ⟨fun number other there off => ?_, fun other none => ?_, fun other apart => ?_⟩
  · obtain rfl : number = id := by simpa using off
    rw [own other there, Function.update_self]
    exact ended
  · rw [Function.update_apply]
    split
    next here => exact absent (here ▸ none)
    next => exact none
  · refine Function.update_of_ne (fun here => apart id (by simp) ?_) ..
    exact here ▸ registered

theorem changes_retire (sound : Sound connection.roll left) {call : Call} {id : Correlation}
    (member : call ∈ connection.calls) (purpose : call.purpose = .request id)
    (pending : connection.roll.receipt call.ticket = some .pending) {after : Connection σ α}
    (same : after.roll = { ((connection.quit call).retire call).roll with
      calls := connection.roll.without call.ticket }) :
    Changes connection.roll left after.roll left := by
  have registered : (id, call.ticket) ∈ connection.roll.live :=
    (sound.entries id call.ticket).mpr (.inl (mem_waiting.mpr ⟨call, member, rfl, purpose, pending⟩))
  have owned := (Pending.find?_eq_some_iff sound.numbers).mpr registered
  have retired := books_retire [] purpose connection owned
  have kept : (left.filter fun entry => entry.1 != id) = left := by
    apply filter_of_free
    intro ticket dropped
    have also := (sound.entries id ticket).mpr (.inr dropped)
    rw [sound.same_ticket registered also, (sound.gone id ticket dropped).1] at pending
    cases pending
  have frees : Frees connection.roll (· == id)
      (Function.update connection.roll.receipt call.ticket none) :=
    frees_owner registered (fun other there => sound.same_ticket there registered) (by simp)
      fun _ => rfl
  have freed : Change connection.roll left _ (left.filter fun entry => entry.1 != id) :=
    .frees _ _ frees
  have ended : after.roll = { connection.roll with
      live := connection.roll.live.filter fun entry => entry.1 != id
      receipt := Function.update (Function.update connection.roll.receipt call.ticket none)
        call.ticket none
      calls := connection.roll.without call.ticket } := by
    rw [same, Function.update_idem]
    have pending' : ((connection.quit call).retire call).exchange.pending =
        connection.exchange.pending.expire id := by
      simp only [quit, retire, purpose]
      rfl
    rw [Pending.expire_of_found owned] at pending'
    refine Roll.ext ?_ (congrArg Books.receipt retired) rfl (congrArg Books.tickets retired)
    exact congrArg Pending.live pending'
  rw [kept] at freed
  rw [ended]
  refine .tail freed.single (.settles call id member purpose ?_)
  dsimp only
  rw [Function.update_self]
  simp

def sift [Wire α] (data : Bytes) (connection : Connection σ α)
    (left : List (Correlation × Ticket)) : List (Correlation × Ticket) :=
  match (Frame.decode data connection.limit : Except FrameError (Frame α)) with
  | .ok ⟨id, _⟩ => if id.isSome then left.filter fun entry => entry.1 != id else left
  | .error _ => left

theorem roll_congr {one two : Connection σ α}
    (pending : one.exchange.pending.live = two.exchange.pending.live)
    (receipts : one.exchange.receipts = two.exchange.receipts) (calls : one.calls = two.calls)
    (tickets : one.tickets = two.tickets) : one.roll = two.roll := by
  simp only [Connection.roll, Exchange.receipt?, pending, receipts, calls, tickets]

theorem frees_resolve (numbers : (connection.roll.live.map (·.1)).Nodup) (id : Correlation)
    (body : α) :
    ∃ receipt, Frees connection.roll (· == id) receipt ∧
      Connection.roll { connection with exchange := (connection.exchange.resolve id body).2 } =
        { connection.roll with
          live := connection.roll.live.filter fun entry => entry.1 != id, receipt } := by
  unfold Exchange.resolve
  cases owned : connection.exchange.pending.find? id with
  | some ticket =>
    have own : ∀ other, (id, other) ∈ connection.roll.live → other = ticket := by
      intro other registered
      have also := (Pending.find?_eq_some_iff numbers).mpr registered
      exact Option.some.inj (also.symm.trans owned)
    -- The number is free again before the receipt is looked at.
    have kept : Exchange.receipt? ticket { connection.exchange with
        pending := connection.exchange.pending.erase id } =
      connection.exchange.receipt? ticket := rfl
    simp only [kept]
    cases held : connection.exchange.receipt? ticket with
    | some old =>
      refine ⟨Function.update connection.roll.receipt ticket (some (.answered body)), ?_, ?_⟩
      · have registered := (Pending.find?_eq_some_iff numbers).mp owned
        exact frees_owner registered own (by simp) fun none => by
          cases held.symm.trans none
      · refine Roll.ext rfl (funext fun other => ?_) rfl rfl
        have written := Exchange.receipt?_write ticket other { connection.exchange with
          pending := connection.exchange.pending.erase id } (.answered body)
        refine written.trans ?_
        dsimp only
        rw [Function.update_apply]
        split
        next here => rw [here, kept, held, Option.map_some]
        next => rfl
    | none =>
      refine ⟨connection.roll.receipt, ⟨fun number other registered off => ?_, fun _ none => none,
        fun _ _ => rfl⟩, rfl⟩
      obtain rfl : number = id := by simpa using off
      rw [own other registered]
      intro pending
      cases held.symm.trans pending
  | none =>
    have free : ∀ other, (id, other) ∉ connection.roll.live := by
      intro other registered
      cases ((Pending.find?_eq_some_iff numbers).mpr registered).symm.trans owned
    have all : (connection.roll.live.filter fun entry => entry.1 != id) = connection.roll.live :=
      filter_of_free free
    refine ⟨connection.roll.receipt, ⟨fun number other registered off => ?_, fun _ none => none,
      fun _ _ => rfl⟩, ?_⟩
    · obtain rfl : number = id := by simpa using off
      exact absurd registered (free other)
    · rw [all]
      by_cases late : id ∈ connection.exchange.pending.expired
      · simp only [Pending.recognise, if_pos late]
        rfl
      · simp only [Pending.recognise, if_neg late]

theorem changes_deliver [Wire α] (sound : Sound connection.roll left) (data : Bytes) :
    Changes connection.roll left (connection.deliver data).roll (connection.sift data left) := by
  unfold deliver sift
  cases (Frame.decode data connection.limit : Except FrameError (Frame α)) with
  | error fault => exact .refl
  | ok frame =>
    obtain ⟨id, body⟩ := frame
    dsimp only
    cases numbered : id.isSome with
    | false => exact .refl
    | true =>
      obtain ⟨receipt, frees, resolved⟩ := frees_resolve sound.numbers id body
      have freed : Change connection.roll left _ (left.filter fun entry => entry.1 != id) :=
        .frees _ _ frees
      simp only [if_true]
      cases found : connection.exchange.resolve id body with
      | mk delivery exchange =>
        rw [found] at resolved
        have same : ∀ after : Connection σ α,
            after.roll = Connection.roll { connection with exchange } →
            Changes connection.roll left after.roll (left.filter fun entry => entry.1 != id) := by
          intro after equal
          rw [equal, resolved]
          exact freed.single
        cases delivery with
        | resolved | expired | unclaimed => exact same _ (roll_congr rfl rfl rfl rfl)

theorem changes_closed (reason : Option String) (connection : Connection σ α) :
    Changes connection.roll left (connection.closed reason).roll [] := by
  have all : ∀ id ticket, (id, ticket) ∈ connection.roll.live →
      ticket ∈ connection.exchange.pending.live.map (·.2) := fun id ticket registered =>
    List.mem_map_of_mem registered
  have receipts : ∀ ticket, (connection.closed reason).roll.receipt ticket =
      (connection.roll.receipt ticket).map
        (Exchange.shutting (connection.exchange.pending.live.map (·.2)) ticket) :=
    fun ticket => Exchange.receipt?_close ..
  have frees : Frees connection.roll (fun _ => true) (connection.closed reason).roll.receipt := by
    refine ⟨fun id ticket registered _ => ?_, fun ticket none => ?_, fun ticket apart => ?_⟩
    · rw [receipts]
      cases connection.roll.receipt ticket with
      | none => simp
      | some receipt => cases receipt <;> simp [Exchange.shutting, all id ticket registered]
    · rw [receipts, none]
      rfl
    · have out : ticket ∉ connection.exchange.pending.live.map (·.2) := by
        intro member
        obtain ⟨⟨id, _⟩, registered, rfl⟩ := List.mem_map.mp member
        exact apart id rfl registered
      rw [receipts]
      cases connection.roll.receipt ticket with
      | none => rfl
      | some receipt => rw [Option.map_some, Exchange.shutting_of_not_mem out]
  have freed : Change connection.roll left _ (left.filter fun _ => !true) := .frees _ _ frees
  have empty : (left.filter fun _ => !true) = [] := by simp
  have same : (connection.closed reason).roll = { connection.roll with
      live := connection.roll.live.filter fun _ => !true
      receipt := (connection.closed reason).roll.receipt } :=
    Roll.ext (by simp; rfl) rfl rfl rfl
  rw [empty] at freed
  rw [same]
  exact freed.single

/-! ## Deeds -/

namespace Life

variable [Transport σ] [Wire α] [Wire β]

/-- The requests that were dropped while their outcome was open, after one more deed. Only a frame with
the number, the end of a socket, or another request with the number makes up for it. -/
def forsake (life : Life σ α) (left : List (Correlation × Ticket)) :
    Deed σ β → List (Correlation × Ticket)
  | .requests body _ =>
    if life.connection.registers body then
      left.filter fun entry => entry.1 != life.connection.counter.draw.1
    else left
  | .cancels ticket =>
    match life.connection.call? ticket with
    | none => left
    | some call => left ++ (life.connection.roll.open? call).toList
  | .pumps =>
    match life.connection.pump with
    | some ⟨_, .message data :: _⟩ => life.connection.sift data left
    | some ⟨_, .closed _ :: _⟩ => []
    | _ => left
  | _ => left

/-- The requests that were dropped and are still on the roll, the earliest first. -/
def forsaken : List (Deed σ β) → Life σ α → List (Correlation × Ticket) →
    List (Correlation × Ticket)
  | [], _, left => left
  | deed :: deeds, life, left => forsaken deeds (life.step deed) (life.forsake left deed)

theorem changes_receives (life : Life σ α) (timeout : Duration) :
    Changes life.connection.roll left
      (life.step (.receives timeout : Deed σ β)).connection.roll left := by
  change Changes _ _ (life.connection.beginReceive timeout).2.roll _
  unfold beginReceive
  dsimp only
  split
  · exact (Change.rests _ (Nat.le_succ _)).single
  · exact (Change.waits ⟨life.connection.tickets, .receive, timeout,
      life.connection.now + timeout.nanos⟩ rfl rfl).single

theorem changes_requests (life : Life σ α) (sound : Sound life.connection.roll left) (body : β)
    (timeout : Duration) :
    Changes life.connection.roll left
      (life.step (.requests body timeout : Deed σ β)).connection.roll
      (life.forsake left (.requests body timeout)) := by
  simp only [step, forsake]
  cases begun : life.connection.beginRequest body timeout with
  | mk outcome after =>
    change Changes _ _ after.roll _
    obtain ⟨_, refused, stays⟩ | ⟨registered, _, tickets, rest⟩ := beginRequest_cases begun
    · simp only [refused]
      exact .same stays.roll
    · simp only [registered, if_true]
      obtain ⟨_, calls, exchange⟩ | ⟨_, exchange, call, calls, ticket, purpose⟩ := rest
      · exact changes_withdraw sound exchange calls tickets
      · exact changes_register sound ticket purpose exchange calls tickets

theorem changes_attends (life : Life σ α) (ticket : Ticket) :
    Changes life.connection.roll left
      (life.step (.attends ticket : Deed σ β)).connection.roll left := by
  simp only [step]
  cases found : life.connection.call? ticket with
  | none => exact .refl
  | some call =>
    obtain ⟨member, rfl⟩ := call?_some found
    cases attended : life.connection.attend call with
    | mk outcome after =>
      simp only [attended]
      cases outcome with
      | none => exact .same (attend_none_roll attended)
      | some outcome => exact changes_attend member attended

theorem changes_cancels (life : Life σ α) (ticket : Ticket) :
    Changes life.connection.roll left
      (life.step (.cancels ticket : Deed σ β)).connection.roll
      (life.forsake left (.cancels ticket : Deed σ β)) := by
  simp only [step, forsake, cancel]
  cases found : life.connection.call? ticket with
  | none => exact .refl
  | some call =>
    obtain ⟨member, rfl⟩ := call?_some found
    dsimp only
    cases purpose : call.purpose with
    | receive =>
      have closed : life.connection.roll.open? call = none := by
        simp [open?, purpose]
      have same : ((life.connection.quit call).remove call.ticket).roll =
          { life.connection.roll with calls := life.connection.roll.without call.ticket } := by
        simp only [quit, purpose]
        rfl
      rw [closed, same, Option.toList_none, List.append_nil]
      exact (Change.quits call member purpose).single
    | request id =>
      have same : ((life.connection.quit call).remove call.ticket).roll = { life.connection.roll with
          receipt := Function.update life.connection.roll.receipt call.ticket none
          calls := life.connection.roll.without call.ticket } := by
        have released := roll_release call.ticket life.connection
        simp only [quit, purpose]
        exact congrArg (fun roll => { roll with calls := roll.without call.ticket }) released
      rw [same]
      by_cases pending : life.connection.roll.receipt call.ticket = some .pending
      · rw [open?_eq_some.mpr ⟨rfl, purpose, pending⟩]
        exact (Change.forsakes call id member purpose pending).single
      · have closed : life.connection.roll.open? call = none := by
          have answered : life.connection.roll.pending call.ticket = false := by
            rw [Bool.eq_false_iff, Ne, pending_iff]
            exact pending
          simp [open?, purpose, answered]
        rw [closed, Option.toList_none, List.append_nil]
        exact (Change.settles call id member purpose pending).single

theorem changes_lapses (life : Life σ α) (sound : Sound life.connection.roll left)
    (ticket : Ticket) :
    Changes life.connection.roll left
      (life.step (.lapses ticket : Deed σ β)).connection.roll left := by
  simp only [step]
  cases found : life.connection.call? ticket with
  | none => exact .refl
  | some call =>
    obtain ⟨member, rfl⟩ := call?_some found
    dsimp only
    split
    · exact .refl
    cases attended : life.connection.attend call with
    | mk outcome after =>
      cases outcome with
      | some outcome =>
        simp only [lapse, attended]
        exact changes_attend member attended
      | none =>
        obtain ⟨_, calls, tickets, exchange⟩ := handleTimeout_effect call.timeout
          ((after.quit call).retire call)
        have handled : (((after.quit call).retire call).handleTimeout call.timeout).roll =
            ((after.quit call).retire call).roll :=
          roll_congr (by rw [exchange]) (by rw [exchange]) calls tickets
        simp only [lapse, attended]
        cases purpose : call.purpose with
        | receive =>
          have gone : ((((after.quit call).retire call).handleTimeout call.timeout).remove
              call.ticket).roll = { life.connection.roll with
                calls := life.connection.roll.without call.ticket } := by
            have quiet : ((after.quit call).retire call).roll = after.roll := by
              simp only [quit, retire, purpose]
              rfl
            have kept := handled.trans (quiet.trans (attend_none_roll attended))
            exact congrArg (fun roll => { roll with calls := roll.without call.ticket }) kept
          exact gone ▸ (Change.quits call member purpose).single
        | request id =>
          obtain ⟨pending, _, rfl⟩ | ⟨_, some, _⟩ := attend_request_roll purpose attended
          · apply changes_retire sound member purpose pending
            have gone := congrArg (fun roll => { roll with calls := roll.without call.ticket })
              handled
            refine gone.trans ?_
            simp only [quit, retire, purpose]
            rfl
          · cases some

theorem changes_pumps (life : Life σ α) (sound : Sound life.connection.roll left) :
    Changes life.connection.roll left (life.step (.pumps : Deed σ β)).connection.roll
      (life.forsake left (.pumps : Deed σ β)) := by
  simp only [step, forsake]
  cases heard : life.connection.pump with
  | none => exact .refl
  | some pump =>
    obtain ⟨channel, events⟩ := pump
    cases events with
    | nil => exact .refl
    | cons event events =>
      cases event with
      | opened => exact .refl
      | closed reason =>
        exact changes_closed reason { life.connection with pump := some ⟨channel, events⟩ }
      | message data =>
        have pumped : Sound (Connection.roll
            { life.connection with pump := some ⟨channel, events⟩ }) left := sound
        exact changes_deliver pumped data

/-- What every deed does to the roll. -/
theorem changes (life : Life σ α) (sound : Sound life.connection.roll left) (deed : Deed σ β) :
    Changes life.connection.roll left (life.step deed).connection.roll (life.forsake left deed) := by
  cases deed with
  | dials url verbose =>
    simp only [step, forsake]
    split
    · obtain ⟨exchange, calls, tickets, _⟩ := dial_effect url verbose life.connection
      exact .same (roll_congr (by rw [exchange]) (by rw [exchange]) calls tickets)
    · exact .refl
  | concludes url => exact .same (conclude_stays url life.connection).roll
  | disconnects => exact .same (disconnect_stays life.connection).roll
  | sends body => exact .same (send_stays body life.connection).roll
  | receives timeout => exact changes_receives life timeout
  | requests body timeout => exact changes_requests life sound body timeout
  | attends ticket => exact changes_attends life ticket
  | cancels ticket => exact changes_cancels life ticket
  | lapses ticket => exact changes_lapses life sound ticket
  | pumps => exact changes_pumps life sound
  | stirs transport reports log => exact .same (carried_stays transport reports life.connection).roll
  | passes span => exact .refl

theorem sound_run (deeds : List (Deed σ β)) (life : Life σ α)
    (sound : Sound life.connection.roll left) :
    Sound (life.run deeds).connection.roll (life.forsaken deeds left) := by
  induction deeds generalizing life left with
  | nil => exact sound
  | cons deed deeds ih => exact ih (life.step deed) (sound.changes (life.changes sound deed))

end Life

theorem sound_new (settings : ConnectSettings) (transport : σ) :
    Sound (Life.ofTransport settings transport : Life σ α).connection.roll [] := by
  refine ⟨?_, ?_, ?_, ?_, ?_, ?_, ?_⟩ <;>
    simp [Life.ofTransport, Connection.roll, waiting, Exchange.receipt?]

/-! ## Connections at rest -/

def Call.request? (call : Call) : Option (Correlation × Ticket) :=
  match call.purpose with
  | .receive => none
  | .request id => some (id, call.ticket)

/-- The requests that were sent and have neither returned nor been dropped. -/
def requests (connection : Connection σ α) : List (Correlation × Ticket) :=
  connection.calls.filterMap Call.request?

/-- The pump has taken all that it heard, and no call that looks has anything to return. -/
structure AtRest (connection : Connection σ α) : Prop where
  heard : ∀ pump ∈ connection.pump, pump.events = []
  calls : ∀ call ∈ connection.calls, (connection.attend call).1 = none

theorem attend_none_pending {call : Call} {id : Correlation} {connection : Connection σ α}
    (purpose : call.purpose = .request id) (vain : (connection.attend call).1 = none) :
    connection.exchange.receipt? call.ticket = some .pending := by
  cases attended : connection.attend call with
  | mk outcome after =>
    obtain ⟨pending, _⟩ | ⟨_, ended, _⟩ := attend_request_roll purpose attended
    · exact pending
    · rw [attended] at vain
      cases vain
      cases ended

theorem AtRest.waiting (rests : connection.AtRest) :
    connection.roll.waiting = connection.requests := by
  apply List.filterMap_congr
  intro call member
  cases purpose : call.purpose with
  | receive => simp [open?, Call.request?, purpose]
  | request id =>
    have request : Call.request? call = some (id, call.ticket) := by
      simp [Call.request?, purpose]
    rw [request, open?_eq_some]
    exact ⟨rfl, purpose, attend_none_pending purpose (rests.calls call member)⟩

/-- What goes on while a connection is being opened: the pump takes events, the transport goes on, and
time passes. -/
def Deed.isOpening : Deed σ β → Bool
  | .pumps | .stirs .. | .passes _ => true
  | _ => false

theorem calls_take [Wire α] (event : Event) (connection : Connection σ α) :
    (connection.take event).calls = connection.calls := by
  cases event with
  | opened | closed reason => rfl
  | message data =>
    change (connection.deliver data).calls = connection.calls
    unfold deliver
    split
    · rfl
    · split
      · split <;> rfl
      · rfl

theorem sift_sublist [Wire α] (data : Bytes) (connection : Connection σ α) :
    (connection.sift data left).Sublist left := by
  unfold sift
  split
  · split
    · exact List.filter_sublist
    · exact .refl left
  · exact .refl left

namespace Life

variable [Transport σ] [Wire α] [Wire β] {deed : Deed σ β}

theorem calls_opening (life : Life σ α) (opening : deed.isOpening = true) :
    (life.step deed).connection.calls = life.connection.calls := by
  cases deed with
  | pumps =>
    simp only [step]
    split
    · exact calls_take ..
    · rfl
  | stirs transport reports log => exact (carried_stays transport reports life.connection).calls
  | passes span => rfl
  | dials | concludes | disconnects | sends | receives | requests | attends | cancels | lapses =>
    cases opening

theorem forsake_opening (life : Life σ α) (opening : deed.isOpening = true) :
    (life.forsake left deed).Sublist left := by
  cases deed with
  | pumps =>
    simp only [forsake]
    split
    · exact sift_sublist ..
    · exact List.nil_sublist left
    · exact .refl left
  | stirs | passes => exact .refl left
  | dials | concludes | disconnects | sends | receives | requests | attends | cancels | lapses =>
    cases opening

/-- Whoever opens a connection is alone with its pump, so nobody calls and nobody leaves. -/
theorem opening_run (during : List (Deed σ β)) (life : Life σ α)
    (opening : ∀ deed ∈ during, deed.isOpening = true) :
    (life.run during).connection.calls = life.connection.calls ∧
      (life.forsaken during left).Sublist left := by
  induction during generalizing life left with
  | nil => exact ⟨rfl, .refl left⟩
  | cons deed during ih =>
    have first := opening deed List.mem_cons_self
    have others := fun later member => opening later (List.mem_cons_of_mem deed member)
    have kept : ((life.step deed).run during).connection.calls = (life.step deed).connection.calls ∧
        ((life.step deed).forsaken during (life.forsake left deed)).Sublist
          (life.forsake left deed) := ih (life.step deed) others
    exact ⟨kept.1.trans (life.calls_opening first), kept.2.trans (life.forsake_opening first)⟩

theorem forsaken_append (first second : List (Deed σ β)) (life : Life σ α) :
    life.forsaken (first ++ second) left =
      (life.run first).forsaken second (life.forsaken first left) := by
  induction first generalizing life left with
  | nil => rfl
  | cons deed first ih => exact ih (life.step deed)

theorem forsaken_of_kept (deeds : List (Deed σ β)) (life : Life σ α)
    (kept : ∀ ticket, .cancels ticket ∉ deeds) : life.forsaken deeds [] = [] := by
  induction deeds generalizing life with
  | nil => rfl
  | cons deed deeds ih =>
    have none : life.forsake [] deed = [] := by
      cases deed with
      | cancels ticket => exact absurd List.mem_cons_self (kept ticket)
      | requests body timeout => simp [forsake]
      | pumps =>
        simp only [forsake]
        split
        · exact List.sublist_nil.mp (sift_sublist ..)
        · rfl
        · rfl
      | dials | concludes | disconnects | sends | receives | attends | lapses | stirs | passes => rfl
    rw [forsaken, none]
    exact ih _ fun ticket member => kept ticket (List.mem_cons_of_mem _ member)

theorem opened_run (life : Life σ α) (left : List (Correlation × Ticket))
    (free : life.connection.calls = []) (url : Url) (verbose : Bool) {during : List (Deed σ β)}
    (opening : ∀ deed ∈ during, deed.isOpening = true) :
    let opens : List (Deed σ β) := .dials url verbose :: during ++ [.concludes url]
    (life.run opens).connection.calls = [] ∧ (life.forsaken opens left).Sublist left := by
  intro opens
  have dialed : (life.step (.dials url verbose : Deed σ β)).connection.calls = [] := by
    simp only [step, free, List.isEmpty_nil, if_true]
    exact (dial_effect url verbose life.connection).2.1.trans free
  have kept : _ ∧ ((life.step (.dials url verbose : Deed σ β)).forsaken during left).Sublist left :=
    opening_run during (life.step (.dials url verbose : Deed σ β)) opening
  have whole : life.run opens =
      ((life.step (.dials url verbose : Deed σ β)).run during).step (.concludes url : Deed σ β) := by
    simp [opens, Life.run]
  have left' : life.forsaken opens left =
      (life.step (.dials url verbose : Deed σ β)).forsaken during left := by
    change (life.step (.dials url verbose : Deed σ β)).forsaken (during ++ [.concludes url]) left = _
    rw [forsaken_append]
    rfl
  rw [whole, left']
  exact ⟨(conclude_stays url _).calls.trans (kept.1.trans dialed), kept.2⟩

end Life

variable [Transport σ] [Wire α] [Wire β]

/-- The requests that are outstanding are those that wait, and those that were dropped while they did.
So once all that can be done is done, they are the requests that were sent and have neither returned
nor been dropped exactly if no dropped one is left over; and opening a connection takes none of these
off, but for what its pump hears. Where no request was dropped, none is left over. -/
theorem outstanding_requests (settings : ConnectSettings) (transport : σ)
    (deeds : List (Deed σ β)) :
    let start : Life σ α := .ofTransport settings transport
    let connection := (start.run deeds).connection
    let left := start.forsaken deeds []
    connection.exchange.pending.live.Perm (connection.roll.waiting ++ left) ∧
    (connection.AtRest →
      connection.exchange.outstanding = connection.requests.length + left.length) ∧
    (connection.calls = [] → ∀ url verbose, ∀ during : List (Deed σ β),
      (∀ deed ∈ during, deed.isOpening = true) →
      let all := deeds ++ (.dials url verbose :: during ++ [.concludes url])
      (start.run all).connection.exchange.outstanding = (start.forsaken all []).length ∧
        (start.forsaken all []).Sublist left) ∧
    ((∀ ticket, .cancels ticket ∉ deeds) → left = []) := by
  intro start connection left
  have counts : ∀ all : List (Deed σ β), (start.run all).connection.exchange.outstanding =
      (start.run all).connection.roll.waiting.length + (start.forsaken all []).length := by
    intro all
    have sound := Life.sound_run all start (sound_new settings transport)
    exact sound.perm.length_eq.trans List.length_append
  have sound := Life.sound_run deeds start (sound_new settings transport)
  refine ⟨sound.perm, fun rests => ?_, fun free url verbose during opening => ?_,
    start.forsaken_of_kept deeds⟩
  · rw [← rests.waiting]
    exact counts deeds
  · intro all
    have opened := (start.run deeds).opened_run left free url verbose opening
    have whole : start.run all =
        (start.run deeds).run (.dials url verbose :: during ++ [.concludes url]) :=
      List.foldl_append
    rw [start.forsaken_append]
    refine ⟨?_, opened.2⟩
    have nobody : (start.run all).connection.roll.waiting = [] := by
      rw [waiting, show (start.run all).connection.roll.calls = [] from whole ▸ opened.1]
      rfl
    rw [counts all, nobody, start.forsaken_append]
    exact Nat.zero_add _

section Rehearsed

open Scenario (Rehearsed)

def endpoint : Url := ⟨"", none, "127.0.0.1", some 8167, "/sc2api", none, none⟩

def opens : List (Deed Rehearsed Unit) := [.dials endpoint false, .pumps, .concludes endpoint]

def dropping : List (Deed Rehearsed Unit) :=
  opens ++ [.requests () (.ofSecs 1), .cancels 0]

def answeredLate : List (Deed Rehearsed Unit) :=
  dropping ++ [.stirs {} [⟨0, .message [1, 0, 0, 0, 0, 0, 0, 0, 7]⟩] [], .pumps]

/-- A request that is dropped stays outstanding, also when the connection is opened again; a frame
with its number takes it off. -/
theorem dropped_until_answered :
    let start : Life Rehearsed UInt8 := .ofTransport {} {}
    ((start.run dropping).connection.exchange.outstanding = 1 ∧
      (start.run (dropping ++ opens)).connection.exchange.outstanding = 1) ∧
    ((start.run answeredLate).connection.exchange.outstanding = 0 ∧
      (start.run (answeredLate ++ opens)).connection.exchange.outstanding = 0) := by
  intro start
  obtain ⟨_, rests, again, _⟩ := outstanding_requests (σ := Rehearsed) (α := UInt8) {} {} dropping
  obtain ⟨_, rests', again', _⟩ :=
    outstanding_requests (σ := Rehearsed) (α := UInt8) {} {} answeredLate
  have alone : ∀ deed ∈ [(.pumps : Deed Rehearsed Unit)], deed.isOpening = true := by decide
  have same : opens = .dials endpoint false :: [.pumps] ++ [.concludes endpoint] := rfl
  refine ⟨⟨?_, ?_⟩, ?_, ?_⟩
  · rw [rests ⟨by decide +kernel, by decide +kernel⟩]
    decide +kernel
  · rw [same, (again (by decide +kernel) endpoint false [.pumps] alone).1]
    decide +kernel
  · rw [rests' ⟨by decide +kernel, by decide +kernel⟩]
    decide +kernel
  · rw [same, (again' (by decide +kernel) endpoint false [.pumps] alone).1]
    decide +kernel

/-- Nobody calls, nothing is left to be done, and a request is outstanding. The connection is opened
again with success, and it still is. -/
theorem outstanding_without_calls :
    let start : Life Rehearsed UInt8 := .ofTransport {} {}
    let dialed := dropping ++ [.dials endpoint false, .pumps]
    ((start.run dropping).connection.AtRest ∧ (start.run dropping).connection.requests = [] ∧
      (start.run dropping).connection.exchange.outstanding = 1) ∧
    ((start.run dialed).connection.conclude endpoint).1.isOk = true ∧
    ((start.run dialed).connection.conclude endpoint).2.exchange.outstanding = 1 := by
  refine ⟨⟨⟨?_, ?_⟩, ?_⟩, ?_⟩ <;> decide +kernel

end Rehearsed

end Connection

end FrameLink.Link
