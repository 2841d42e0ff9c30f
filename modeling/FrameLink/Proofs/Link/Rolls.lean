import Mathlib
import FrameLink.Proofs.Link.Entries
import FrameLink.Proofs.Link.Stays
/-!
Who is on the roll of outstanding requests. A call that is dropped while its answer is open takes its
receipt with it and leaves its number behind; all other ways to end a request take the number off.
-/

namespace FrameLink.Link.Connection

open Wait

variable {σ α β : Type}

/-- The numbers that are registered, what their requests know, and the calls. -/
@[ext]
structure Roll (α : Type) where
  live : List (Correlation × Ticket)
  receipt : Ticket → Option (Receipt α)
  calls : List Call
  tickets : Ticket

def roll (connection : Connection σ α) : Roll α where
  live := connection.exchange.pending.live
  receipt ticket := connection.exchange.receipt? ticket
  calls := connection.calls
  tickets := connection.tickets

theorem Stays.roll {before after : Connection σ α} (stays : Stays before after) :
    after.roll = before.roll := by
  simp only [Connection.roll, stays.exchange, stays.calls, stays.tickets]

namespace Roll

variable {roll next : Roll α} {left rest : List (Correlation × Ticket)}

def pending (roll : Roll α) (ticket : Ticket) : Bool :=
  match roll.receipt ticket with
  | some .pending => true
  | _ => false

theorem pending_iff {ticket : Ticket} :
    roll.pending ticket = true ↔ roll.receipt ticket = some .pending := by
  unfold pending
  split <;> simp_all

def open? (roll : Roll α) (call : Call) : Option (Correlation × Ticket) :=
  match call.purpose with
  | .receive => none
  | .request id => if roll.pending call.ticket then some (id, call.ticket) else none

def waiting (roll : Roll α) : List (Correlation × Ticket) := roll.calls.filterMap roll.open?

def without (roll : Roll α) (ticket : Ticket) : List Call :=
  roll.calls.filter fun call => call.ticket != ticket

theorem open?_eq_some {call : Call} {id : Correlation} {ticket : Ticket} :
    roll.open? call = some (id, ticket) ↔ call.ticket = ticket ∧ call.purpose = .request id ∧
      roll.receipt ticket = some .pending := by
  unfold open?
  cases call.purpose with
  | receive => simp
  | request other =>
    dsimp only
    rw [Option.ite_none_right_eq_some, pending_iff]
    constructor
    · rintro ⟨pending, same⟩
      cases same
      exact ⟨rfl, rfl, pending⟩
    · rintro ⟨rfl, same, pending⟩
      cases same
      exact ⟨pending, rfl⟩

theorem mem_waiting {id : Correlation} {ticket : Ticket} :
    (id, ticket) ∈ roll.waiting ↔ ∃ call ∈ roll.calls, call.ticket = ticket ∧
      call.purpose = .request id ∧ roll.receipt ticket = some .pending := by
  simp only [waiting, List.mem_filterMap, open?_eq_some]

/-- Some numbers are taken off. A request that had one of them has its outcome; nobody else is
concerned. -/
structure Frees (roll : Roll α) (freed : Correlation → Bool)
    (receipt : Ticket → Option (Receipt α)) : Prop where
  owner : ∀ id ticket, (id, ticket) ∈ roll.live → freed id = true → receipt ticket ≠ some .pending
  absent : ∀ ticket, roll.receipt ticket = none → receipt ticket = none
  others : ∀ ticket, (∀ id, freed id = true → (id, ticket) ∉ roll.live) →
    receipt ticket = roll.receipt ticket

/-- All that can befall the roll at once, with the numbers that nobody waits for any more. -/
inductive Change (roll : Roll α) (left : List (Correlation × Ticket)) :
    Roll α → List (Correlation × Ticket) → Prop
  | rests (tickets : Ticket) (later : roll.tickets ≤ tickets) :
    Change roll left { roll with tickets } left
  | waits (call : Call) (ticket : call.ticket = roll.tickets) (purpose : call.purpose = .receive) :
    Change roll left { roll with calls := roll.calls ++ [call], tickets := roll.tickets + 1 } left
  | enters (call : Call) (id : Correlation) (ticket : call.ticket = roll.tickets)
    (purpose : call.purpose = .request id) (free : ∀ ticket, (id, ticket) ∉ roll.live) :
    Change roll left { roll with
      live := roll.live ++ [(id, roll.tickets)]
      receipt := Function.update roll.receipt roll.tickets (some .pending)
      calls := roll.calls ++ [call]
      tickets := roll.tickets + 1 } left
  | quits (call : Call) (member : call ∈ roll.calls) (purpose : call.purpose = .receive) :
    Change roll left { roll with calls := roll.without call.ticket } left
  | settles (call : Call) (id : Correlation) (member : call ∈ roll.calls)
    (purpose : call.purpose = .request id) (ended : roll.receipt call.ticket ≠ some .pending) :
    Change roll left { roll with
      receipt := Function.update roll.receipt call.ticket none
      calls := roll.without call.ticket } left
  | forsakes (call : Call) (id : Correlation) (member : call ∈ roll.calls)
    (purpose : call.purpose = .request id) (pending : roll.receipt call.ticket = some .pending) :
    Change roll left { roll with
      receipt := Function.update roll.receipt call.ticket none
      calls := roll.without call.ticket } (left ++ [(id, call.ticket)])
  | frees (freed : Correlation → Bool) (receipt : Ticket → Option (Receipt α))
    (frees : Frees roll freed receipt) :
    Change roll left { roll with live := roll.live.filter fun entry => !freed entry.1, receipt }
      (left.filter fun entry => !freed entry.1)

inductive Changes (roll : Roll α) (left : List (Correlation × Ticket)) :
    Roll α → List (Correlation × Ticket) → Prop
  | refl : Changes roll left roll left
  | tail {next last : Roll α} {rest ends : List (Correlation × Ticket)}
    (changes : Changes roll left next rest) (change : Change next rest last ends) :
    Changes roll left last ends

theorem Change.single (change : Change roll left next rest) : Changes roll left next rest :=
  .tail .refl change

theorem Changes.same (same : next = roll) : Changes roll left next left := same ▸ .refl

/-- Every number that is registered belongs to a call that waits, or to one that was dropped. -/
structure Sound (roll : Roll α) (left : List (Correlation × Ticket)) : Prop where
  numbers : (roll.live.map (·.1)).Nodup
  entries : ∀ id ticket, (id, ticket) ∈ roll.live ↔ (id, ticket) ∈ roll.waiting ∨ (id, ticket) ∈ left
  gone : ∀ id ticket, (id, ticket) ∈ left → roll.receipt ticket = none ∧ ticket < roll.tickets
  once : left.Nodup
  calls : (roll.calls.map (·.ticket)).Nodup
  early : ∀ call ∈ roll.calls, call.ticket < roll.tickets
  unused : ∀ ticket, roll.tickets ≤ ticket → roll.receipt ticket = none

/-! ## What is sound -/

theorem Sound.same_call (sound : Sound roll left) {call other : Call} (member : call ∈ roll.calls)
    (also : other ∈ roll.calls) (same : other.ticket = call.ticket) : other = call :=
  List.inj_on_of_nodup_map sound.calls also member same

theorem Sound.same_ticket (sound : Sound roll left) {id : Correlation} {one two : Ticket}
    (first : (id, one) ∈ roll.live) (second : (id, two) ∈ roll.live) : one = two :=
  (Prod.mk.inj (List.inj_on_of_nodup_map sound.numbers first second rfl)).2

theorem Sound.same_number (sound : Sound roll left) {id other : Correlation} {ticket : Ticket}
    (pending : roll.receipt ticket = some .pending) (first : (id, ticket) ∈ roll.live)
    (second : (other, ticket) ∈ roll.live) : id = other := by
  have waits : ∀ number, (number, ticket) ∈ roll.live → (number, ticket) ∈ roll.waiting := by
    intro number registered
    rcases (sound.entries number ticket).mp registered with waiting | dropped
    · exact waiting
    · simp [(sound.gone number ticket dropped).1] at pending
  obtain ⟨call, member, ticket', purpose, _⟩ := mem_waiting.mp (waits id first)
  obtain ⟨call', member', ticket'', purpose', _⟩ := mem_waiting.mp (waits other second)
  obtain rfl := sound.same_call member member' (ticket''.trans ticket'.symm)
  exact Purpose.request.inj (purpose.symm.trans purpose')

theorem Sound.live_nodup (sound : Sound roll left) : roll.live.Nodup :=
  List.Nodup.of_map _ sound.numbers

theorem Sound.waiting_nodup (sound : Sound roll left) : roll.waiting.Nodup := by
  have apart : roll.calls.Pairwise fun one two => one.ticket ≠ two.ticket :=
    List.pairwise_map.mp sound.calls
  unfold waiting List.Nodup
  rw [List.pairwise_filterMap]
  apply apart.imp
  rintro one two differ ⟨id, ticket⟩ first _ second rfl
  exact differ ((open?_eq_some.mp first).1.trans (open?_eq_some.mp second).1.symm)

theorem Sound.perm (sound : Sound roll left) : roll.live.Perm (roll.waiting ++ left) := by
  have apart : List.Disjoint roll.waiting left := by
    rintro ⟨id, ticket⟩ waiting dropped
    obtain ⟨_, _, _, _, pending⟩ := mem_waiting.mp waiting
    simp [(sound.gone id ticket dropped).1] at pending
  apply (List.perm_ext_iff_of_nodup sound.live_nodup
    (sound.waiting_nodup.append sound.once apart)).mpr
  rintro ⟨id, ticket⟩
  rw [List.mem_append]
  exact sound.entries id ticket

/-! ## One change -/

theorem mem_without {ticket : Ticket} {call : Call} :
    call ∈ roll.without ticket ↔ call ∈ roll.calls ∧ call.ticket ≠ ticket := by
  simp [without]

theorem Sound.calls_append (sound : Sound roll left) {call : Call}
    (ticket : call.ticket = roll.tickets) :
    ((roll.calls ++ [call]).map (·.ticket)).Nodup ∧
      ∀ other ∈ roll.calls ++ [call], other.ticket < roll.tickets + 1 := by
  constructor
  · rw [List.map_append, List.map_singleton, List.nodup_append]
    refine ⟨sound.calls, List.nodup_singleton _, ?_⟩
    intro early there late new
    obtain ⟨other, member, rfl⟩ := List.mem_map.mp there
    rw [List.mem_singleton.mp new, ticket]
    exact (sound.early other member).ne
  · intro other member
    rcases List.mem_append.mp member with old | new
    · exact (sound.early other old).trans (Nat.lt_succ_self _)
    · rw [List.mem_singleton.mp new, ticket]
      exact Nat.lt_succ_self _

theorem Sound.calls_without (sound : Sound roll left) (ticket : Ticket) :
    ((roll.without ticket).map (·.ticket)).Nodup ∧
      ∀ call ∈ roll.without ticket, call.ticket < roll.tickets := by
  constructor
  · exact sound.calls.sublist (List.filter_sublist.map _)
  · intro call member
    exact sound.early call (mem_without.mp member).1

theorem Sound.rests (sound : Sound roll left) {tickets : Ticket} (later : roll.tickets ≤ tickets) :
    Sound { roll with tickets } left where
  numbers := sound.numbers
  entries := sound.entries
  gone id ticket member := by
    obtain ⟨none, early⟩ := sound.gone id ticket member
    exact ⟨none, early.trans_le later⟩
  once := sound.once
  calls := sound.calls
  early call member := (sound.early call member).trans_le later
  unused ticket beyond := sound.unused ticket (later.trans beyond)

theorem Sound.waits (sound : Sound roll left) {call : Call} (ticket : call.ticket = roll.tickets)
    (purpose : call.purpose = .receive) :
    Sound { roll with calls := roll.calls ++ [call], tickets := roll.tickets + 1 } left where
  numbers := sound.numbers
  entries id number := by
    rw [sound.entries id number, mem_waiting, mem_waiting]
    refine or_congr_left (exists_congr fun other => ?_)
    rw [List.mem_append, List.mem_singleton]
    constructor
    · rintro ⟨member, fits⟩
      exact ⟨.inl member, fits⟩
    · rintro ⟨old | rfl, same, asks, pending⟩
      · exact ⟨old, same, asks, pending⟩
      · simp [purpose] at asks
  gone id number member := by
    obtain ⟨none, early⟩ := sound.gone id number member
    exact ⟨none, early.trans (Nat.lt_succ_self _)⟩
  once := sound.once
  calls := (sound.calls_append ticket).1
  early := (sound.calls_append ticket).2
  unused number beyond := sound.unused number ((Nat.le_succ _).trans beyond)

theorem Sound.enters (sound : Sound roll left) {call : Call} {id : Correlation}
    (ticket : call.ticket = roll.tickets) (purpose : call.purpose = .request id)
    (free : ∀ ticket, (id, ticket) ∉ roll.live) :
    Sound { roll with
      live := roll.live ++ [(id, roll.tickets)]
      receipt := Function.update roll.receipt roll.tickets (some .pending)
      calls := roll.calls ++ [call]
      tickets := roll.tickets + 1 } left where
  numbers := by
    rw [List.map_append, List.map_singleton, List.nodup_append]
    refine ⟨sound.numbers, List.nodup_singleton _, ?_⟩
    rintro number there other new rfl
    obtain ⟨⟨_, owner⟩, member, rfl⟩ := List.mem_map.mp there
    obtain rfl := List.mem_singleton.mp new
    exact free owner member
  entries number other := by
    have fresh : ∀ ticket, (number, ticket) ∈ left ∨ (number, ticket) ∈ roll.waiting →
        ticket ≠ roll.tickets := by
      rintro ticket (dropped | waiting)
      · exact (sound.gone number ticket dropped).2.ne
      · obtain ⟨old, member, rfl, _⟩ := mem_waiting.mp waiting
        exact (sound.early old member).ne
    rw [List.mem_append, List.mem_singleton, sound.entries number other, Prod.mk.injEq]
    constructor
    · rintro ((waiting | dropped) | ⟨rfl, rfl⟩)
      · have apart := fresh other (.inr waiting)
        obtain ⟨old, member, same, asks, pending⟩ := mem_waiting.mp waiting
        refine .inl (mem_waiting.mpr ⟨old, List.mem_append_left _ member, same, asks, ?_⟩)
        exact (Function.update_of_ne apart ..).trans pending
      · exact .inr dropped
      · refine .inl (mem_waiting.mpr ⟨call, by simp, ticket, purpose, ?_⟩)
        exact Function.update_self ..
    · rintro (waiting | dropped)
      · obtain ⟨old, member, same, asks, pending⟩ := mem_waiting.mp waiting
        rcases List.mem_append.mp member with before | new
        · have apart : other ≠ roll.tickets := same ▸ (sound.early old before).ne
          refine .inl (.inl (mem_waiting.mpr ⟨old, before, same, asks, ?_⟩))
          exact (Function.update_of_ne apart ..).symm.trans pending
        · obtain rfl := List.mem_singleton.mp new
          rw [purpose] at asks
          cases asks
          exact .inr ⟨rfl, same.symm.trans ticket⟩
      · exact .inl (.inr dropped)
  gone number other member := by
    obtain ⟨none, early⟩ := sound.gone number other member
    exact ⟨(Function.update_of_ne early.ne ..).trans none, early.trans (Nat.lt_succ_self _)⟩
  once := sound.once
  calls := (sound.calls_append ticket).1
  early := (sound.calls_append ticket).2
  unused number beyond := by
    have apart : number ≠ roll.tickets := (Nat.lt_of_succ_le beyond).ne'
    exact (Function.update_of_ne apart ..).trans (sound.unused number (Nat.le_of_succ_le beyond))

theorem Sound.quits (sound : Sound roll left) {call : Call} (member : call ∈ roll.calls)
    (purpose : call.purpose = .receive) :
    Sound { roll with calls := roll.without call.ticket } left where
  numbers := sound.numbers
  entries id ticket := by
    rw [sound.entries id ticket, mem_waiting, mem_waiting]
    refine or_congr_left (exists_congr fun other => ?_)
    rw [mem_without]
    constructor
    · rintro ⟨old, same, asks, pending⟩
      refine ⟨⟨old, fun equal => ?_⟩, same, asks, pending⟩
      rw [sound.same_call member old equal, purpose] at asks
      cases asks
    · rintro ⟨⟨old, _⟩, fits⟩
      exact ⟨old, fits⟩
  gone := sound.gone
  once := sound.once
  calls := (sound.calls_without call.ticket).1
  early := (sound.calls_without call.ticket).2
  unused := sound.unused

theorem mem_waiting_without {call : Call} {id : Correlation} {ticket : Ticket} :
    (id, ticket) ∈ waiting { roll with
        receipt := Function.update roll.receipt call.ticket none
        calls := roll.without call.ticket } ↔
      (id, ticket) ∈ roll.waiting ∧ ticket ≠ call.ticket := by
  rw [mem_waiting, mem_waiting]
  constructor
  · rintro ⟨other, there, rfl, asks, pending⟩
    obtain ⟨old, apart⟩ := mem_without.mp there
    exact ⟨⟨other, old, rfl, asks, (Function.update_of_ne apart ..).symm.trans pending⟩, apart⟩
  · rintro ⟨⟨other, old, rfl, asks, pending⟩, apart⟩
    exact ⟨other, mem_without.mpr ⟨old, apart⟩, rfl, asks,
      (Function.update_of_ne apart ..).trans pending⟩

theorem update_none_of_none {receipt : Ticket → Option (Receipt α)} {ticket : Ticket}
    (none : receipt ticket = none) (other : Ticket) :
    Function.update receipt other Option.none ticket = Option.none := by
  rw [Function.update_apply]
  split
  · rfl
  · exact none

theorem Sound.settles (sound : Sound roll left) {call : Call}
    (ended : roll.receipt call.ticket ≠ some .pending) :
    Sound { roll with
      receipt := Function.update roll.receipt call.ticket none
      calls := roll.without call.ticket } left where
  numbers := sound.numbers
  entries id ticket := by
    have apart : (id, ticket) ∈ roll.waiting → ticket ≠ call.ticket := by
      rintro waiting rfl
      obtain ⟨_, _, _, _, pending⟩ := mem_waiting.mp waiting
      exact ended pending
    rw [sound.entries id ticket, mem_waiting_without]
    exact or_congr_left ⟨fun waiting => ⟨waiting, apart waiting⟩, And.left⟩
  gone id ticket dropped := by
    obtain ⟨none, early⟩ := sound.gone id ticket dropped
    exact ⟨update_none_of_none none _, early⟩
  once := sound.once
  calls := (sound.calls_without call.ticket).1
  early := (sound.calls_without call.ticket).2
  unused ticket beyond := update_none_of_none (sound.unused ticket beyond) _

theorem Sound.forsakes (sound : Sound roll left) {call : Call} {id : Correlation}
    (member : call ∈ roll.calls) (purpose : call.purpose = .request id)
    (pending : roll.receipt call.ticket = some .pending) :
    Sound { roll with
      receipt := Function.update roll.receipt call.ticket none
      calls := roll.without call.ticket } (left ++ [(id, call.ticket)]) where
  numbers := sound.numbers
  entries number ticket := by
    rw [sound.entries number ticket, mem_waiting_without, List.mem_append, List.mem_singleton,
      Prod.mk.injEq]
    constructor
    · rintro (waiting | dropped)
      · by_cases here : ticket = call.ticket
        · subst here
          obtain ⟨other, there, same, asks, _⟩ := mem_waiting.mp waiting
          rw [sound.same_call member there same, purpose] at asks
          cases asks
          exact .inr (.inr ⟨rfl, rfl⟩)
        · exact .inl ⟨waiting, here⟩
      · exact .inr (.inl dropped)
    · rintro (⟨waiting, _⟩ | dropped | ⟨rfl, rfl⟩)
      · exact .inl waiting
      · exact .inr dropped
      · exact .inl (mem_waiting.mpr ⟨call, member, rfl, purpose, pending⟩)
  gone number ticket dropped := by
    rcases List.mem_append.mp dropped with old | new
    · obtain ⟨none, early⟩ := sound.gone number ticket old
      exact ⟨update_none_of_none none _, early⟩
    · cases List.mem_singleton.mp new
      exact ⟨Function.update_self .., sound.early call member⟩
  once := by
    apply sound.once.append (List.nodup_singleton _)
    rw [List.disjoint_singleton]
    intro dropped
    simp [(sound.gone id call.ticket dropped).1] at pending
  calls := (sound.calls_without call.ticket).1
  early := (sound.calls_without call.ticket).2
  unused ticket beyond := update_none_of_none (sound.unused ticket beyond) _

theorem Sound.frees (sound : Sound roll left) {freed : Correlation → Bool}
    {receipt : Ticket → Option (Receipt α)} (frees : Frees roll freed receipt) :
    Sound { roll with live := roll.live.filter fun entry => !freed entry.1, receipt }
      (left.filter fun entry => !freed entry.1) where
  numbers := sound.numbers.sublist (List.filter_sublist.map _)
  entries id ticket := by
    have kept : (id, ticket) ∈ waiting { roll with
        live := roll.live.filter fun entry => !freed entry.1, receipt } ↔
        (id, ticket) ∈ roll.waiting ∧ freed id = false := by
      rw [mem_waiting]
      constructor
      · rintro ⟨call, member, same, asks, pending⟩
        have kept : ∀ other, freed other = true → (other, ticket) ∉ roll.live :=
          fun other off there => frees.owner other ticket there off pending
        have waits : (id, ticket) ∈ roll.waiting :=
          mem_waiting.mpr ⟨call, member, same, asks, (frees.others ticket kept).symm.trans pending⟩
        refine ⟨waits, Bool.eq_false_iff.mpr fun off => ?_⟩
        exact kept id off ((sound.entries id ticket).mpr (.inl waits))
      · rintro ⟨waits, stays⟩
        obtain ⟨call, member, same, asks, pending⟩ := mem_waiting.mp waits
        have registered := (sound.entries id ticket).mpr (.inl waits)
        refine ⟨call, member, same, asks, (frees.others ticket fun other off there => ?_).trans pending⟩
        rw [sound.same_number pending registered there, off] at stays
        cases stays
    rw [kept, List.mem_filter, List.mem_filter, sound.entries id ticket, or_and_right]
    simp
  gone id ticket member := by
    obtain ⟨none, early⟩ := sound.gone id ticket (List.mem_filter.mp member).1
    exact ⟨frees.absent ticket none, early⟩
  once := sound.once.filter _
  calls := sound.calls
  early := sound.early
  unused ticket beyond := frees.absent ticket (sound.unused ticket beyond)

theorem Sound.change (sound : Sound roll left) (change : Change roll left next rest) :
    Sound next rest := by
  cases change with
  | rests tickets later => exact sound.rests later
  | waits call ticket purpose => exact sound.waits ticket purpose
  | enters call id ticket purpose free => exact sound.enters ticket purpose free
  | quits call member purpose => exact sound.quits member purpose
  | settles call id member purpose ended => exact sound.settles ended
  | forsakes call id member purpose pending => exact sound.forsakes member purpose pending
  | frees freed receipt frees => exact sound.frees frees

theorem Sound.changes (sound : Sound roll left) (changes : Changes roll left next rest) :
    Sound next rest := by
  induction changes with
  | refl => exact sound
  | tail _ change ih => exact ih.change change

end Roll

end FrameLink.Link.Connection
