import FrameLink.Proofs.Wait.Line
import FrameLink.Wait.Reception
/-!
What the history of a queue with waiting calls says: who waits, in which order, and how each call
ends. The state agrees with it as long as calls join the line and leave it one at a time.
-/

namespace FrameLink.Wait.Reception

/-! ## What a history says -/

section History

variable {α : Type}

def Event.ending? : Event α → Option Ticket
  | .returned ticket _ | .cancelled ticket | .expired ticket _ => some ticket
  | .pushed _ | .withdrawn _ | .begun _ | .waited _ => none

/-- A call waits behind all others from the time on when it has found nothing, until it ends. -/
def wait (line : List Ticket) : Event α → List Ticket
  | .waited ticket => line.erase ticket ++ [ticket]
  | .returned ticket _ | .cancelled ticket | .expired ticket _ => line.erase ticket
  | .pushed _ | .withdrawn _ | .begun _ => line

def waiting (past : List (Event α)) : List Ticket := past.foldl wait []

def begun (past : List (Event α)) : List Deadline :=
  past.filterMap fun
    | .begun call => some call
    | _ => none

def endings (past : List (Event α)) : List Ticket := past.filterMap Event.ending?

def pushed (past : List (Event α)) : List α :=
  past.filterMap fun
    | .pushed item => some item
    | _ => none

/-- The items that calls were given and those that were withdrawn. -/
def departed (past : List (Event α)) : List α :=
  past.flatMap fun
    | .returned _ item => [item]
    | .withdrawn items => items
    | _ => []

def returns (past : List (Event α)) : List (Ticket × α) :=
  past.filterMap fun
    | .returned ticket item => some (ticket, item)
    | _ => none

/-- A call that waits is served only when it has waited longest. -/
def InTurn : List Ticket → List (Event α) → Prop
  | _, [] => True
  | line, event :: rest =>
    (∀ ticket item, event = .returned ticket item →
      ticket ∉ line ∨ line.head? = some ticket) ∧ InTurn (wait line event) rest

/-- The call has returned an item, was cancelled, or has run out of time when its deadline came. -/
def Ended (past : List (Event α)) (call : Deadline) : Prop :=
  (∃ item, .returned call.ticket item ∈ past) ∨ .cancelled call.ticket ∈ past ∨
    .expired call.ticket call.instant ∈ past

theorem waiting_append (past events : List (Event α)) :
    waiting (past ++ events) = events.foldl wait (waiting past) := List.foldl_append

theorem mem_begun {past : List (Event α)} {call : Deadline} :
    call ∈ begun past ↔ .begun call ∈ past := by
  rw [begun, List.mem_filterMap]
  constructor
  · rintro ⟨_ | _ | other | _ | _ | _ | _, member, same⟩ <;> cases same
    exact member
  · intro member
    exact ⟨_, member, rfl⟩

theorem endings_append (past events : List (Event α)) :
    endings (past ++ events) = endings past ++ endings events := List.filterMap_append

theorem inTurn_append {line : List Ticket} {past events : List (Event α)} :
    InTurn line (past ++ events) ↔ InTurn line past ∧ InTurn (past.foldl wait line) events := by
  induction past generalizing line with
  | nil => exact ⟨fun turn => ⟨trivial, turn⟩, And.right⟩
  | cons event past ih =>
    rw [List.cons_append, InTurn, InTurn, ih, and_assoc]
    rfl

theorem InTurn.served {past before after : List (Event α)} {ticket : Ticket} {item : α}
    (turns : InTurn [] past) (split : past = before ++ .returned ticket item :: after) :
    ticket ∉ waiting before ∨ (waiting before).head? = some ticket := by
  rw [split] at turns
  exact (inTurn_append.mp turns).2.1 ticket item rfl

theorem Ended.mono {past more : List (Event α)} {call : Deadline} (ended : Ended past call)
    (all : past ⊆ more) : Ended more call := by
  rcases ended with ⟨item, returned⟩ | cancelled | expired
  · exact .inl ⟨item, all returned⟩
  · exact .inr (.inl (all cancelled))
  · exact .inr (.inr (all expired))

theorem mem_endings {past : List (Event α)} {call : Deadline} (ended : Ended past call) :
    call.ticket ∈ endings past := by
  rcases ended with ⟨item, returned⟩ | cancelled | expired
  · exact List.mem_filterMap.mpr ⟨_, returned, rfl⟩
  · exact List.mem_filterMap.mpr ⟨_, cancelled, rfl⟩
  · exact List.mem_filterMap.mpr ⟨_, expired, rfl⟩

end History

/-! ## The calls and their ends -/

section Books

variable {σ α : Type} {reception next : Reception σ} {past events : List (Event α)}

structure Booked (past : List (Event α)) (reception : Reception σ) : Prop where
  standing : (reception.calls.map (·.ticket)).Perm reception.place.bell.line
  nodup : reception.place.bell.line.Nodup
  below : ∀ ticket ∈ reception.place.bell.line, ticket < reception.tickets
  once : (endings past).Nodup
  gone : ∀ ticket ∈ endings past,
    ticket < reception.tickets ∧ ticket ∉ reception.place.bell.line

namespace Booked

theorem fresh (booked : Booked past reception) :
    reception.tickets ∉ reception.place.bell.line ∧ reception.tickets ∉ endings past :=
  ⟨fun here => (booked.below _ here).ne rfl, fun ended => (booked.gone _ ended).1.ne rfl⟩

theorem mem_line {call : Deadline} (booked : Booked past reception)
    (here : call ∈ reception.calls) : call.ticket ∈ reception.place.bell.line :=
  booked.standing.mem_iff.mp (List.mem_map_of_mem here)

theorem unique (booked : Booked past reception) {call other : Deadline}
    (here : call ∈ reception.calls) (too : other ∈ reception.calls)
    (same : call.ticket = other.ticket) : call = other :=
  List.inj_on_of_nodup_map (booked.standing.nodup_iff.mpr booked.nodup) here too same

theorem same (booked : Booked past reception)
    (line : next.place.bell.line.Perm reception.place.bell.line)
    (calls : next.calls = reception.calls) (tickets : next.tickets = reception.tickets)
    (none : endings events = []) : Booked (past ++ events) next where
  standing := calls ▸ booked.standing.trans line.symm
  nodup := line.nodup_iff.mpr booked.nodup
  below ticket here := by
    rw [tickets]
    exact booked.below ticket (line.mem_iff.mp here)
  once := by
    rw [endings_append, none, List.append_nil]
    exact booked.once
  gone ticket ended := by
    rw [endings_append, none, List.append_nil] at ended
    rw [tickets, line.mem_iff]
    exact booked.gone ticket ended

theorem ends {ticket : Ticket} (booked : Booked past reception)
    (here : ticket ∈ reception.place.bell.line)
    (line : next.place.bell.line = reception.place.bell.line.erase ticket)
    (calls : next.calls = reception.calls.filter fun call => call.ticket != ticket)
    (tickets : next.tickets = reception.tickets) (one : endings events = [ticket]) :
    Booked (past ++ events) next where
  standing := by
    have distinct := booked.standing.nodup_iff.mpr booked.nodup
    have left : (reception.calls.filter fun call => call.ticket != ticket).map (·.ticket) =
        (reception.calls.map (·.ticket)).erase ticket := by
      rw [distinct.erase_eq_filter, List.filter_map]
      rfl
    rw [line, calls, left]
    exact booked.standing.erase ticket
  nodup := line ▸ booked.nodup.erase ticket
  below other left := by
    rw [tickets]
    exact booked.below other (List.mem_of_mem_erase (line ▸ left))
  once := by
    rw [endings_append, one]
    refine booked.once.append (List.nodup_singleton ticket) ?_
    rw [List.disjoint_singleton]
    exact fun ended => (booked.gone ticket ended).2 here
  gone other ended := by
    rw [endings_append, one, List.mem_append, List.mem_singleton] at ended
    rw [tickets, line]
    rcases ended with ended | rfl
    · obtain ⟨below, absent⟩ := booked.gone other ended
      exact ⟨below, fun left => absent (List.mem_of_mem_erase left)⟩
    · exact ⟨booked.below other here, booked.nodup.not_mem_erase⟩

theorem passesThrough (booked : Booked past reception)
    (line : next.place.bell.line = reception.place.bell.line)
    (calls : next.calls = reception.calls) (tickets : next.tickets = reception.tickets + 1)
    (one : endings events = [reception.tickets]) : Booked (past ++ events) next where
  standing := by rw [line, calls]; exact booked.standing
  nodup := line ▸ booked.nodup
  below ticket here := by
    rw [tickets]
    exact Nat.lt_succ_of_lt (booked.below ticket (line ▸ here))
  once := by
    rw [endings_append, one]
    refine booked.once.append (List.nodup_singleton _) ?_
    rw [List.disjoint_singleton]
    exact booked.fresh.2
  gone ticket ended := by
    rw [endings_append, one, List.mem_append, List.mem_singleton] at ended
    rw [tickets, line]
    rcases ended with ended | rfl
    · obtain ⟨below, absent⟩ := booked.gone ticket ended
      exact ⟨Nat.lt_succ_of_lt below, absent⟩
    · exact ⟨Nat.lt_succ_self _, booked.fresh.1⟩

theorem joins {call : Deadline} (booked : Booked past reception)
    (own : call.ticket = reception.tickets)
    (line : next.place.bell.line = reception.place.bell.line ++ [call.ticket])
    (calls : next.calls = reception.calls ++ [call])
    (tickets : next.tickets = reception.tickets + 1) (none : endings events = []) :
    Booked (past ++ events) next where
  standing := by
    rw [line, calls, List.map_append]
    exact booked.standing.append_right [call.ticket]
  nodup := by
    rw [line, own]
    refine booked.nodup.append (List.nodup_singleton _) ?_
    rw [List.disjoint_singleton]
    exact booked.fresh.1
  below ticket here := by
    rw [line, List.mem_append, List.mem_singleton, own] at here
    rw [tickets]
    rcases here with here | rfl
    · exact Nat.lt_succ_of_lt (booked.below ticket here)
    · exact Nat.lt_succ_self _
  once := by
    rw [endings_append, none, List.append_nil]
    exact booked.once
  gone ticket ended := by
    rw [endings_append, none, List.append_nil] at ended
    obtain ⟨below, absent⟩ := booked.gone ticket ended
    rw [tickets, line, List.mem_append, List.mem_singleton, own]
    exact ⟨Nat.lt_succ_of_lt below, fun here => here.elim absent below.ne⟩

end Booked

def Issued (past : List (Event α)) (reception : Reception σ) : Prop :=
  (begun past).map (·.ticket) = List.range reception.tickets

/-! ## The order of service -/

/-- The line is that of the history, in which no call was served before its turn. -/
structure Lined (past : List (Event α)) (reception : Reception σ) : Prop where
  line : waiting past = reception.place.bell.line
  turns : InTurn [] past

theorem Lined.append (lined : Lined past reception)
    (line : events.foldl wait reception.place.bell.line = next.place.bell.line)
    (turns : InTurn reception.place.bell.line events) : Lined (past ++ events) next where
  line := by rw [waiting_append, lined.line, line]
  turns := inTurn_append.mpr ⟨lined.turns, by rwa [← lined.line] at turns⟩

/-! ## Deadlines -/

/-- Each call that has begun is still there, with its deadline ahead, or has ended. -/
structure Timely (past : List (Event α)) (reception : Reception σ) : Prop where
  begun : ∀ call ∈ reception.calls, .begun call ∈ past
  ahead : ∀ call ∈ reception.calls, reception.now ≤ call.instant
  fates : ∀ call, .begun call ∈ past → call ∈ reception.calls ∨ Ended past call
  due : ∀ ticket moment, .expired ticket moment ∈ past → .begun ⟨ticket, moment⟩ ∈ past

namespace Timely

theorem fewer (timely : Timely past reception)
    (calls : ∀ call ∈ next.calls, call ∈ reception.calls)
    (ahead : ∀ call ∈ next.calls, next.now ≤ call.instant)
    (none : ∀ call, .begun call ∉ events)
    (ended : ∀ call ∈ reception.calls, call ∈ next.calls ∨ Ended events call)
    (due : ∀ ticket moment, .expired ticket moment ∈ events →
      ⟨ticket, moment⟩ ∈ reception.calls) : Timely (past ++ events) next where
  begun call here := List.mem_append_left _ (timely.begun call (calls call here))
  ahead := ahead
  fates call begun := by
    have before := (List.mem_append.mp begun).resolve_right (none call)
    rcases timely.fates call before with here | earlier
    · exact (ended call here).imp_right (·.mono (List.subset_append_right past events))
    · exact .inr (earlier.mono (List.subset_append_left past events))
  due ticket moment expired := by
    apply List.mem_append_left
    rcases List.mem_append.mp expired with before | now
    · exact timely.due ticket moment before
    · exact timely.begun _ (due ticket moment now)

theorem without {ticket : Ticket} {event : Event α} (timely : Timely past reception)
    (calls : next.calls = reception.calls.filter fun call => call.ticket != ticket)
    (now : next.now = reception.now) (none : ∀ call, event ≠ .begun call)
    (ended : ∀ call ∈ reception.calls, call.ticket = ticket → Ended [event] call)
    (due : ∀ ticket moment, event = .expired ticket moment →
      ⟨ticket, moment⟩ ∈ reception.calls) : Timely (past ++ [event]) next := by
  apply timely.fewer
  · intro call here
    exact (List.mem_filter.mp (calls ▸ here)).1
  · intro call here
    exact now ▸ timely.ahead call (List.mem_filter.mp (calls ▸ here)).1
  · intro call begun
    exact none call (List.mem_singleton.mp begun).symm
  · intro call here
    by_cases own : call.ticket = ticket
    · exact .inr (ended call here own)
    · exact .inl (calls ▸ List.mem_filter.mpr ⟨here, bne_iff_ne.mpr own⟩)
  · intro other moment expired
    exact due other moment (List.mem_singleton.mp expired).symm

theorem begins {call : Deadline} {event : Event α} (timely : Timely past reception)
    (calls : ∀ other ∈ next.calls,
      other ∈ reception.calls ∨ other = call ∧ next.now ≤ call.instant)
    (kept : ∀ other ∈ reception.calls, other ∈ next.calls) (now : next.now = reception.now)
    (none : ∀ other, event ≠ .begun other)
    (unexpired : ∀ ticket moment, event ≠ .expired ticket moment)
    (fate : call ∈ next.calls ∨ Ended [event] call) :
    Timely (past ++ [.begun call, event]) next where
  begun other here := by
    rcases calls other here with before | ⟨rfl, -⟩
    · exact List.mem_append_left _ (timely.begun other before)
    · exact List.mem_append_right _ List.mem_cons_self
  ahead other here := by
    rcases calls other here with before | ⟨rfl, later⟩
    · exact now ▸ timely.ahead other before
    · exact later
  fates other begun := by
    rcases List.mem_append.mp begun with before | new
    · rcases timely.fates other before with here | ended
      · exact .inl (kept other here)
      · exact .inr (ended.mono (List.subset_append_left past _))
    · rcases List.mem_cons.mp new with same | last
      · cases same
        exact fate.imp_right (·.mono fun _ last =>
          List.mem_append_right past (List.mem_cons_of_mem _ last))
      · exact absurd (List.mem_singleton.mp last).symm (none other)
  due ticket moment expired := by
    apply List.mem_append_left
    rcases List.mem_append.mp expired with before | new
    · exact timely.due ticket moment before
    · rcases List.mem_cons.mp new with same | last
      · cases same
      · exact absurd (List.mem_singleton.mp last).symm (unexpired ticket moment)

end Timely

theorem mem_passing {limit : Instant} {calls : List Deadline} {call : Deadline} :
    call ∈ passing limit calls ↔ call ∈ calls ∧ call.instant ≤ limit := by
  rw [passing, List.mem_mergeSort, List.mem_filter, decide_eq_true_iff]

theorem Booked.nodup_passing (booked : Booked past reception) (limit : Instant) :
    ((passing limit reception.calls).map (·.ticket)).Nodup := by
  have distinct := booked.standing.nodup_iff.mpr booked.nodup
  have sorted : (passing limit reception.calls).Perm _ := List.mergeSort_perm _ _
  rw [(sorted.map Deadline.ticket).nodup_iff]
  exact distinct.sublist (List.filter_sublist.map Deadline.ticket)

theorem le_nextMoment {limit moment : Instant} :
    moment ≤ reception.nextMoment limit ↔
      moment ≤ limit ∧ ∀ call ∈ reception.calls, moment ≤ call.instant := by
  rw [nextMoment]
  induction reception.calls generalizing limit with
  | nil => simp
  | cons call rest ih => rw [List.foldl_cons, ih, le_min_iff, List.forall_mem_cons, and_assoc]

theorem expire_left {calls : List Deadline} (expired : expire calls reception = (events, next)) :
    next.now = reception.now ∧ next.place.queue = reception.place.queue ∧
      ∀ call ∈ next.calls, call ∈ reception.calls ∧ call ∉ calls := by
  induction calls generalizing reception events with
  | nil =>
    cases expired
    exact ⟨rfl, rfl, fun call here => ⟨here, List.not_mem_nil⟩⟩
  | cons call rest ih =>
    rcases others : expire rest (reception.quit call.ticket) with ⟨later, after⟩
    rw [expire, others] at expired
    cases expired
    obtain ⟨now, queue, left⟩ := ih others
    refine ⟨now, queue, fun other here => ?_⟩
    obtain ⟨kept, absent⟩ := left other here
    obtain ⟨kept, different⟩ := List.mem_filter.mp kept
    refine ⟨kept, fun gone => ?_⟩
    rcases List.mem_cons.mp gone with rfl | gone
    · exact bne_iff_ne.mp different rfl
    · exact absent gone

theorem lapse_left (lapsed : reception.lapse = (events, next)) :
    next.now = reception.now ∧ next.place.queue = reception.place.queue ∧
      ∀ call ∈ next.calls, next.now < call.instant := by
  obtain ⟨now, queue, left⟩ := expire_left lapsed
  refine ⟨now, queue, fun call here => ?_⟩
  obtain ⟨kept, absent⟩ := left call here
  rw [now]
  by_contra due
  exact absent (mem_passing.mpr ⟨kept, not_lt.mp due⟩)

end Books

end FrameLink.Wait.Reception
