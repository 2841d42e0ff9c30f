import Mathlib
import FrameLink.Proofs.Link.Entries
/-!
The books of a connection agree with its past: with the numbers that were drawn, the tickets that were
given, and what became of each request.
-/

namespace FrameLink.Link.Connection

open Wait Past Books

variable {σ α β : Type} {past : List (Note α)} {books : Books α}

/-! ## Numbers -/

/-- The numbers that were drawn are those of the counter, from one on. -/
structure Numbered (past : List (Note α)) (counter : Correlation.Counter) : Prop where
  next : counter.next = UInt64.ofNat ((issued past).length + 1)
  among : ∀ id ∈ issued past, ∃ n, 0 < n ∧ n ≤ (issued past).length ∧ id = ⟨UInt64.ofNat n⟩
  once : (issued past).Nodup

theorem Numbered.fresh {counter : Correlation.Counter} (numbered : Numbered past counter)
    (few : (issued past).length < 2 ^ 64) : counter.draw.1 ∉ issued past := by
  intro member
  obtain ⟨n, positive, low, same⟩ := numbered.among _ member
  have equal : UInt64.ofNat ((issued past).length + 1) = UInt64.ofNat n := by
    rw [← numbered.next]
    exact congrArg Correlation.value same
  have values := congrArg UInt64.toNat equal
  simp only [UInt64.toNat_ofNat'] at values
  omega

theorem Numbered.isSome {counter : Correlation.Counter} (numbered : Numbered past counter)
    (few : (issued past).length < 2 ^ 64) {id : Correlation} (member : id ∈ issued past) :
    id.isSome = true := by
  obtain ⟨n, positive, low, rfl⟩ := numbered.among _ member
  rw [Correlation.isSome, bne_iff_ne]
  intro zero
  have values := congrArg UInt64.toNat zero
  simp only [UInt64.toNat_ofNat', UInt64.toNat_zero] at values
  omega

theorem Numbered.draw {counter : Correlation.Counter} (numbered : Numbered past counter)
    (few : (issued past).length < 2 ^ 64) {note : Note α}
    (draws : issued (note :: past) = counter.draw.1 :: issued past) :
    Numbered (note :: past) counter.draw.2 := by
  have more : (issued (note :: past)).length = (issued past).length + 1 := by rw [draws]; rfl
  refine ⟨?_, fun id member => ?_, ?_⟩
  · rw [more]
    change counter.next + 1 = _
    rw [numbered.next, UInt64.ofNat_add, UInt64.ofNat_add, UInt64.ofNat_add]
    rfl
  · rw [more]
    rw [draws] at member
    rcases List.mem_cons.mp member with rfl | older
    · exact ⟨_, Nat.succ_pos _, Nat.le_refl _, congrArg Correlation.mk numbered.next⟩
    · obtain ⟨n, positive, low, rfl⟩ := numbered.among id older
      exact ⟨n, positive, Nat.le_succ_of_le low, rfl⟩
  · rw [draws]
    exact List.nodup_cons.mpr ⟨numbered.fresh few, numbered.once⟩

theorem Numbered.keep {counter : Correlation.Counter} (numbered : Numbered past counter)
    {note : Note α} (none : issued (note :: past) = issued past) :
    Numbered (note :: past) counter := by
  refine ⟨?_, ?_, ?_⟩
  · rw [none]
    exact numbered.next
  · rw [none]
    exact numbered.among
  · rw [none]
    exact numbered.once

theorem Numbered.entry {notes : List (Note α)} {next : Books α}
    (numbered : Numbered past books.counter) (few : (issued past).length < 2 ^ 64)
    (entry : Entry books notes next) : Numbered (notes ++ past) next.counter := by
  cases entry with
  | rests | waits | picks | receives | quits | returns | fails => exact numbered
  | draws note tickets one =>
    refine numbered.draw few ?_
    obtain rfl | rfl := one <;> rfl
  | requests => exact numbered.draw few rfl
  | cancels | timesOut | hands | drops | forgets | queues | shuts => exact numbered.keep rfl

/-! ## Tickets -/

/-- No ticket is used twice, and each call waits for what it was begun for. -/
structure Registered (past : List (Note α)) (books : Books α) : Prop where
  requests : ∀ id ticket, .requested id ticket ∈ past → ticket < books.tickets
  owners : ∀ id other ticket, .requested id ticket ∈ past → .requested other ticket ∈ past →
    id = other
  calls : ∀ call ∈ books.calls, call.ticket < books.tickets
  receives : ∀ call ∈ books.calls, call.purpose = .receive → call.ticket ∉ requesters past
  asks : ∀ call ∈ books.calls, ∀ id, call.purpose = .request id → .requested id call.ticket ∈ past
  once : (books.calls.map (·.ticket)).Nodup
  given : ∀ entry ∈ books.given, entry.1 < books.tickets ∧
    ∀ call ∈ books.calls, call.ticket ≠ entry.1
  givenOnce : (books.given.map (·.1)).Nodup

theorem Registered.same {call other : Call} (registered : Registered past books)
    (one : call ∈ books.calls) (two : other ∈ books.calls) (ticket : call.ticket = other.ticket) :
    call = other :=
  List.inj_on_of_nodup_map registered.once one two ticket

theorem mem_without {call : Call} {ticket : Ticket} :
    call ∈ books.without ticket ↔ call ∈ books.calls ∧ call.ticket ≠ ticket := by
  simp [without]

theorem Registered.less {after : List (Note α)} {next : Books α}
    (registered : Registered past books)
    (same : ∀ id ticket, .requested id ticket ∈ after ↔ .requested id ticket ∈ past)
    (calls : next.calls.Sublist books.calls) (later : books.tickets ≤ next.tickets)
    (given : next.given = books.given) : Registered after next := by
  refine ⟨fun id ticket member => ?_, fun id other ticket one two => ?_, fun call member => ?_,
    fun call member purpose => ?_, fun call member id purpose => ?_, ?_, ?_, ?_⟩
  · exact Nat.lt_of_lt_of_le (registered.requests id ticket ((same id ticket).mp member)) later
  · exact registered.owners id other ticket ((same id ticket).mp one) ((same other ticket).mp two)
  · exact Nat.lt_of_lt_of_le (registered.calls call (calls.subset member)) later
  · rw [mem_requesters]
    rintro ⟨id, requested⟩
    exact registered.receives call (calls.subset member) purpose
      (mem_requesters.mpr ⟨id, (same id call.ticket).mp requested⟩)
  · exact (same id call.ticket).mpr (registered.asks call (calls.subset member) id purpose)
  · exact registered.once.sublist (calls.map _)
  · rw [given]
    intro entry member
    obtain ⟨low, apart⟩ := registered.given entry member
    exact ⟨Nat.lt_of_lt_of_le low later, fun call there => apart call (calls.subset there)⟩
  · rw [given]
    exact registered.givenOnce

theorem Registered.begin {after : List (Note α)} {next : Books α} {call : Call}
    (registered : Registered past books) (ticket : call.ticket = books.tickets)
    (older : ∀ id other, .requested id other ∈ after → .requested id other ∈ past ∨
      (other = books.tickets ∧ call.purpose = .request id))
    (still : ∀ id other, .requested id other ∈ past → .requested id other ∈ after)
    (asks : ∀ id, call.purpose = .request id → .requested id call.ticket ∈ after)
    (calls : next.calls = books.calls ++ [call]) (tickets : next.tickets = books.tickets + 1)
    (given : next.given = books.given) : Registered after next := by
  have new : ∀ id, .requested id books.tickets ∉ past := fun id member =>
    Nat.lt_irrefl _ (registered.requests id _ member)
  have member : ∀ other, other ∈ next.calls → other ∈ books.calls ∨ other = call := by
    intro other there
    rw [calls] at there
    simpa using there
  refine ⟨fun id other there => ?_, fun id id' other one two => ?_, fun other there => ?_,
    fun other there purpose => ?_, fun other there id purpose => ?_, ?_, ?_, ?_⟩
  · rw [tickets]
    rcases older id other there with earlier | ⟨rfl, _⟩
    · exact Nat.lt_succ_of_lt (registered.requests id other earlier)
    · exact Nat.lt_succ_self _
  · rcases older id other one with first | ⟨rfl, first⟩
    · rcases older id' other two with second | ⟨rfl, _⟩
      · exact registered.owners id id' other first second
      · exact absurd first (new id)
    · rcases older id' _ two with second | ⟨_, second⟩
      · exact absurd second (new id')
      · exact Purpose.request.inj (first.symm.trans second)
  · rw [tickets]
    rcases member other there with earlier | rfl
    · exact Nat.lt_succ_of_lt (registered.calls other earlier)
    · rw [ticket]
      exact Nat.lt_succ_self _
  · rw [mem_requesters]
    rintro ⟨id, requested⟩
    rcases member other there with earlier | rfl
    · rcases older id _ requested with before | ⟨same, _⟩
      · exact registered.receives other earlier purpose (mem_requesters.mpr ⟨id, before⟩)
      · exact absurd (registered.calls other earlier) (by simp [same])
    · rcases older id _ requested with before | ⟨_, asked⟩
      · exact new id (ticket ▸ before)
      · rw [purpose] at asked
        cases asked
  · rcases member other there with earlier | rfl
    · exact still id _ (registered.asks other earlier id purpose)
    · exact asks id purpose
  · rw [calls, List.map_append, List.nodup_append]
    refine ⟨registered.once, by simp, ?_⟩
    intro low there high here same
    obtain ⟨earlier, inside, rfl⟩ := List.mem_map.mp there
    rw [List.map_singleton, List.mem_singleton] at here
    rw [here, ticket] at same
    exact Nat.lt_irrefl _ (same ▸ registered.calls earlier inside)
  · rw [given, tickets]
    intro entry there
    obtain ⟨low, apart⟩ := registered.given entry there
    refine ⟨Nat.lt_succ_of_lt low, fun other inside => ?_⟩
    rcases member other inside with earlier | rfl
    · exact apart other earlier
    · rw [ticket]
      exact Nat.ne_of_gt low
  · rw [given]
    exact registered.givenOnce

theorem Registered.give {next : Books α} {ticket : Ticket} {body : α}
    (registered : Registered past books) (calls : next.calls.Sublist books.calls)
    (later : books.tickets ≤ next.tickets) (low : ticket < next.tickets)
    (apart : ∀ call ∈ next.calls, call.ticket ≠ ticket)
    (new : ∀ entry ∈ books.given, entry.1 ≠ ticket)
    (given : next.given = books.given ++ [(ticket, body)]) : Registered past next := by
  have kept : Registered past { next with given := books.given } :=
    registered.less (fun _ _ => Iff.rfl) calls later rfl
  refine ⟨kept.requests, kept.owners, kept.calls, kept.receives, kept.asks, kept.once, ?_, ?_⟩
  · rw [given]
    intro entry there
    rcases List.mem_append.mp there with earlier | last
    · exact kept.given entry earlier
    · rw [List.mem_singleton.mp last]
      exact ⟨low, apart⟩
  · rw [given, List.map_append, List.nodup_append]
    refine ⟨registered.givenOnce, by simp, ?_⟩
    intro one there two here same
    obtain ⟨entry, inside, rfl⟩ := List.mem_map.mp there
    rw [List.map_singleton, List.mem_singleton] at here
    exact new entry inside (same.trans here)

theorem Registered.giveCall {next : Books α} {call : Call} {body : α}
    (registered : Registered past books) (member : call ∈ books.calls)
    (calls : next.calls = books.without call.ticket) (tickets : next.tickets = books.tickets)
    (given : next.given = books.given ++ [(call.ticket, body)]) : Registered past next := by
  refine registered.give ?_ (Nat.le_of_eq tickets.symm) ?_ (fun other there => ?_)
    (fun entry there => ?_) given
  · rw [calls]
    exact List.filter_sublist
  · rw [tickets]
    exact registered.calls call member
  · rw [calls] at there
    exact (mem_without.mp there).2
  · exact ((registered.given entry there).2 call member).symm

theorem Registered.entry {notes : List (Note α)} {next : Books α}
    (registered : Registered past books) (entry : Entry books notes next) :
    Registered (notes ++ past) next := by
  cases entry with
  | rests => exact registered
  | draws note tickets one later =>
    refine registered.less (fun id ticket => ?_) (.refl _) later rfl
    obtain rfl | rfl := one <;> simp
  | requests call ticket purpose =>
    refine registered.begin ticket (fun id other there => ?_) (fun id other there => ?_)
      (fun id asked => ?_) rfl rfl rfl
    · rcases List.mem_cons.mp there with same | older
      · cases same
        exact .inr ⟨rfl, purpose⟩
      · exact .inl older
    · exact List.mem_cons_of_mem _ there
    · rw [purpose] at asked
      cases asked
      rw [ticket]
      exact List.mem_cons_self ..
  | waits call ticket purpose =>
    refine registered.begin ticket (fun _ _ there => .inl there) (fun _ _ there => there)
      (fun id asked => ?_) rfl rfl rfl
    rw [purpose] at asked
    cases asked
  | picks body rest queue =>
    refine registered.give (.refl _) (Nat.le_succ _) (Nat.lt_succ_self _) (fun call there => ?_)
      (fun entry there => ?_) rfl
    · exact Nat.ne_of_lt (registered.calls call there)
    · exact Nat.ne_of_lt (registered.given entry there).1
  | receives call body rest member | returns call id body member =>
    exact registered.giveCall member rfl rfl rfl
  | quits | fails =>
    exact registered.less (fun _ _ => Iff.rfl) List.filter_sublist (Nat.le_refl _) rfl
  | cancels | timesOut =>
    exact registered.less (by simp) List.filter_sublist (Nat.le_refl _) rfl
  | hands | drops | forgets | queues | shuts =>
    exact registered.less (by simp) (.refl _) (Nat.le_refl _) rfl

/-! ## Receipts -/

def Fits (past : List (Note α)) (id : Correlation) (ticket : Ticket) : Receipt α → Prop
  | .pending => standing id past = .waiting ticket
  | .answered body => (ticket, body) ∈ handed past ∧ FirstAnswer past id ticket body
  | .closed => True

/-- The exchange knows of every number and every request what the past tells of it. -/
structure Settled (past : List (Note α)) (books : Books α) : Prop where
  owner : ∀ id, books.owner id = (standing id past).ticket?
  expired : books.expired = remembered past
  late : ∀ id ∈ remembered past, standing id past = .absent ∧ ∃ ticket, .requested id ticket ∈ past
  receipts : ∀ ticket receipt, books.receipt ticket = some receipt → ∃ call ∈ books.calls,
    call.ticket = ticket ∧ ∃ id, call.purpose = .request id ∧ Fits past id ticket receipt
  held : ∀ call ∈ books.calls, ∀ id, call.purpose = .request id →
    (books.receipt call.ticket).isSome = true
  waiting : ∀ id ticket, standing id past = .waiting ticket → books.receipt ticket = some .pending
  forsaken : ∀ id ticket, standing id past = .forsaken ticket → books.receipt ticket = none

theorem Fits.later {id : Correlation} {ticket : Ticket} {receipt : Receipt α}
    (fits : Fits past id ticket receipt) (note : Note α)
    (still : receipt = .pending → standing id (note :: past) = .waiting ticket) :
    Fits (note :: past) id ticket receipt := by
  cases receipt with
  | pending => exact still rfl
  | answered body => exact ⟨handed_of_mem fits.1 note, fits.2.later note⟩
  | closed => trivial

theorem Settled.fits {call : Call} {id : Correlation} {receipt : Receipt α}
    (settled : Settled past books) (registered : Registered past books) (member : call ∈ books.calls)
    (purpose : call.purpose = .request id) (found : books.receipt call.ticket = some receipt) :
    Fits past id call.ticket receipt := by
  obtain ⟨other, there, ticket, id', asked, fits⟩ := settled.receipts _ _ found
  obtain rfl := registered.same there member ticket
  rw [purpose] at asked
  cases asked
  exact fits

theorem Registered.number {id other : Correlation} {ticket : Ticket}
    (registered : Registered past books) (one : (standing id past).ticket? = some ticket)
    (two : (standing other past).ticket? = some ticket) : id = other :=
  registered.owners id other ticket (requested_of_standing one) (requested_of_standing two)

theorem Settled.aside {next : Books α} (settled : Settled past books)
    (owner : next.owner = books.owner) (expired : next.expired = books.expired)
    (receipt : next.receipt = books.receipt)
    (calls : ∀ call id, call.purpose = .request id → (call ∈ next.calls ↔ call ∈ books.calls)) :
    Settled past next := by
  refine ⟨?_, ?_, settled.late, ?_, ?_, ?_, ?_⟩
  · rw [owner]
    exact settled.owner
  · rw [expired]
    exact settled.expired
  · rw [receipt]
    intro ticket receipt found
    obtain ⟨call, member, same, id, purpose, fits⟩ := settled.receipts ticket receipt found
    exact ⟨call, (calls call id purpose).mpr member, same, id, purpose, fits⟩
  · rw [receipt]
    intro call member id purpose
    exact settled.held call ((calls call id purpose).mp member) id purpose
  · rw [receipt]
    exact settled.waiting
  · rw [receipt]
    exact settled.forsaken

theorem request_without {call other : Call} {id : Correlation} (registered : Registered past books)
    (member : call ∈ books.calls) (purpose : call.purpose = .receive)
    (asks : other.purpose = .request id) :
    other ∈ books.without call.ticket ↔ other ∈ books.calls := by
  rw [mem_without]
  refine ⟨And.left, fun there => ⟨there, fun same => ?_⟩⟩
  obtain rfl := registered.same there member same
  rw [purpose] at asks
  cases asks

theorem Settled.noted {note : Note α} (settled : Settled past books)
    (same : ∀ id, standing id (note :: past) = standing id past)
    (kept : remembered (note :: past) = remembered past) : Settled (note :: past) books := by
  refine ⟨fun id => ?_, ?_, fun id late => ?_, fun ticket receipt found => ?_, settled.held,
    fun id ticket waits => ?_, fun id ticket gone => ?_⟩
  · rw [same]
    exact settled.owner id
  · rw [kept]
    exact settled.expired
  · rw [kept] at late
    obtain ⟨absent, ticket, requested⟩ := settled.late id late
    exact ⟨(same id).trans absent, ticket, List.mem_cons_of_mem _ requested⟩
  · obtain ⟨call, member, ticket, id, purpose, fits⟩ := settled.receipts _ _ found
    refine ⟨call, member, ticket, id, purpose, fits.later note fun pending => ?_⟩
    rw [same]
    subst pending
    exact fits
  · exact settled.waiting id ticket ((same id).symm.trans waits)
  · exact settled.forsaken id ticket ((same id).symm.trans gone)

theorem Settled.request {call : Call} (settled : Settled past books)
    (registered : Registered past books) (new : books.number ∉ issued past)
    (ticket : call.ticket = books.tickets) (purpose : call.purpose = .request books.number) :
    Settled (.requested books.number books.tickets :: past) { books with
      owner := Function.update books.owner books.number (some books.tickets)
      receipt := Function.update books.receipt books.tickets (some .pending)
      calls := books.calls ++ [call]
      counter := books.counter.draw.2
      tickets := books.tickets + 1 } := by
  have older : ∀ id ticket, .requested id ticket ∈ past → books.number ≠ id ∧
      ticket ≠ books.tickets := by
    intro id ticket requested
    refine ⟨fun same => new (same ▸ issued_of_requested requested), ?_⟩
    exact Nat.ne_of_lt (registered.requests id ticket requested)
  refine ⟨fun id => ?_, settled.expired, fun id late => ?_, fun ticket' receipt found => ?_,
    fun other there id asks => ?_, fun id ticket' waits => ?_, fun id ticket' gone => ?_⟩
  · dsimp only
    rw [Function.update_apply, standing]
    by_cases same : books.number = id
    · simp [same, Standing.ticket?]
    · rw [if_neg (Ne.symm same), if_neg same]
      exact settled.owner id
  · obtain ⟨absent, ticket', requested⟩ := settled.late id late
    refine ⟨?_, ticket', List.mem_cons_of_mem _ requested⟩
    rw [standing, if_neg (older id ticket' requested).1, absent]
  · dsimp only at found ⊢
    rw [Function.update_apply] at found
    split at found
    next same =>
      cases found
      refine ⟨call, List.mem_append_right _ (List.mem_singleton_self _), ticket.trans same.symm,
        books.number, purpose, ?_⟩
      rw [Fits, standing, if_pos rfl, same]
    next apart =>
      obtain ⟨other, there, same, id, asks, fits⟩ := settled.receipts ticket' receipt found
      refine ⟨other, List.mem_append_left _ there, same, id, asks, fits.later _ fun pending => ?_⟩
      have requested := registered.asks other there id asks
      rw [standing, if_neg (older id _ requested).1]
      subst pending
      exact fits
  · dsimp only
    rw [Function.update_apply]
    split
    · rfl
    next apart =>
      rcases List.mem_append.mp there with earlier | last
      · exact settled.held other earlier id asks
      · rw [List.mem_singleton.mp last] at apart
        exact absurd ticket apart
  · dsimp only
    rw [Function.update_apply]
    rw [standing] at waits
    split at waits
    · cases waits
      rw [if_pos rfl]
    · rw [if_neg (older id ticket' (requested_of_waiting waits)).2]
      exact settled.waiting id ticket' waits
  · dsimp only
    rw [Function.update_apply]
    rw [standing] at gone
    split at gone
    · cases gone
    · rw [if_neg (older id ticket' (requested_of_forsaken gone)).2]
      exact settled.forsaken id ticket' gone

theorem Settled.leave {after : List (Note α)} {next : Books α} {call : Call}
    (settled : Settled past books)
    (receipt : next.receipt = Function.update books.receipt call.ticket none)
    (calls : next.calls = books.without call.ticket)
    (owner : ∀ id, next.owner id = (standing id after).ticket?)
    (expired : next.expired = remembered after)
    (late : ∀ id ∈ remembered after, standing id after = .absent ∧
      ∃ ticket, .requested id ticket ∈ after)
    (fits : ∀ id ticket receipt, ticket ≠ call.ticket → Fits past id ticket receipt →
      Fits after id ticket receipt)
    (waiting : ∀ id ticket, standing id after = .waiting ticket →
      standing id past = .waiting ticket ∧ ticket ≠ call.ticket)
    (forsaken : ∀ id ticket, standing id after = .forsaken ticket → ticket = call.ticket ∨
      standing id past = .forsaken ticket) : Settled after next := by
  refine ⟨owner, expired, late, fun ticket receipt' found => ?_, fun other there id asks => ?_,
    fun id ticket waits => ?_, fun id ticket gone => ?_⟩
  · rw [receipt, Function.update_apply] at found
    split at found
    · cases found
    next apart =>
      obtain ⟨other, there, same, id, asks, fit⟩ := settled.receipts ticket receipt' found
      refine ⟨other, ?_, same, id, asks, fits id ticket receipt' apart fit⟩
      rw [calls, mem_without]
      exact ⟨there, fun equal => apart (same.symm.trans equal)⟩
  · rw [calls, mem_without] at there
    rw [receipt, Function.update_apply, if_neg there.2]
    exact settled.held other there.1 id asks
  · obtain ⟨before, apart⟩ := waiting id ticket waits
    rw [receipt, Function.update_apply, if_neg apart]
    exact settled.waiting id ticket before
  · rw [receipt, Function.update_apply]
    split
    · rfl
    next apart => exact settled.forsaken id ticket ((forsaken id ticket gone).resolve_left apart)

theorem Settled.return {next : Books α} {call : Call} (settled : Settled past books)
    (ended : books.receipt call.ticket ≠ some .pending)
    (receipt : next.receipt = Function.update books.receipt call.ticket none)
    (calls : next.calls = books.without call.ticket) (owner : next.owner = books.owner)
    (expired : next.expired = books.expired) : Settled past next := by
  refine settled.leave receipt calls ?_ (expired.trans settled.expired) settled.late
    (fun _ _ _ _ fits => fits) (fun id ticket waits => ⟨waits, fun same => ended ?_⟩)
    (fun id ticket gone => .inr gone)
  · rw [owner]
    exact settled.owner
  · rw [← same]
    exact settled.waiting id ticket waits

theorem Settled.cancel {next : Books α} {call : Call} {id : Correlation}
    (settled : Settled past books) (registered : Registered past books)
    (once : (issued past).Nodup) (member : call ∈ books.calls) (purpose : call.purpose = .request id)
    (receipt : next.receipt = Function.update books.receipt call.ticket none)
    (calls : next.calls = books.without call.ticket) (owner : next.owner = books.owner)
    (expired : next.expired = books.expired) : Settled (.cancelled id :: past) next := by
  have requested := registered.asks call member id purpose
  have own : ∀ ticket, (standing id past).ticket? = some ticket → ticket = call.ticket :=
    fun ticket stands => request_unique once (requested_of_standing stands) requested
  refine settled.leave receipt calls (fun other => ?_) (expired.trans settled.expired)
    (fun other late => ?_) (fun other ticket receipt apart fits => ?_)
    (fun other ticket waits => ?_) (fun other ticket gone => ?_)
  · rw [owner, settled.owner, standing]
    split <;> simp
  · obtain ⟨absent, ticket, asked⟩ := settled.late other late
    refine ⟨?_, ticket, List.mem_cons_of_mem _ asked⟩
    rw [standing, absent]
    split <;> rfl
  · refine fits.later _ fun pending => ?_
    subst pending
    rw [standing, if_neg]
    · exact fits
    · rintro rfl
      exact apart (own ticket (congrArg Standing.ticket? fits))
  · rw [standing] at waits
    split at waits
    · exact absurd waits (Standing.forsake_ne_waiting _ _)
    next other_id =>
      refine ⟨waits, fun same => other_id ?_⟩
      exact registered.owners id other call.ticket requested (same ▸ requested_of_waiting waits)
  · rw [standing] at gone
    split at gone
    next same =>
      subst same
      have stands : (standing id past).ticket? = some ticket := by
        rw [← Standing.ticket?_forsake, gone]
        rfl
      exact .inl (own ticket stands)
    · exact .inr gone

theorem Settled.timeOut {next : Books α} {call : Call} {id : Correlation}
    (settled : Settled past books) (registered : Registered past books)
    (member : call ∈ books.calls) (purpose : call.purpose = .request id)
    (pending : books.receipt call.ticket = some .pending)
    (receipt : next.receipt = Function.update books.receipt call.ticket none)
    (calls : next.calls = books.without call.ticket)
    (owner : next.owner = Function.update books.owner id none)
    (expired : next.expired = (if books.expired.length = Pending.expiredCapacity then
      books.expired.drop 1 else books.expired) ++ [id]) :
    Settled (.timedOut id :: past) next := by
  have requested := registered.asks call member id purpose
  have waited : standing id past = .waiting call.ticket :=
    settled.fits registered member purpose pending
  refine settled.leave receipt calls (fun other => ?_) ?_ (fun other late => ?_)
    (fun other ticket receipt apart fits => ?_) (fun other ticket waits => ?_)
    (fun other ticket gone => ?_)
  · rw [owner, Function.update_apply, standing]
    by_cases same : id = other
    · simp [same, Standing.ticket?]
    · rw [if_neg (Ne.symm same), if_neg same]
      exact settled.owner other
  · rw [expired, settled.expired, remembered]
  · rw [remembered, List.mem_append] at late
    rw [standing]
    rcases late with older | newest
    · have before : other ∈ remembered past := by
        split at older
        · exact List.mem_of_mem_drop older
        · exact older
      obtain ⟨absent, ticket, asked⟩ := settled.late other before
      refine ⟨?_, ticket, List.mem_cons_of_mem _ asked⟩
      split
      · rfl
      · exact absent
    · rw [List.mem_singleton.mp newest]
      exact ⟨if_pos rfl, call.ticket, List.mem_cons_of_mem _ requested⟩
  · refine fits.later _ fun pending => ?_
    subst pending
    rw [standing, if_neg]
    · exact fits
    · rintro rfl
      exact apart (Standing.waiting.inj ((show _ = _ from fits).symm.trans waited))
  · rw [standing] at waits
    split at waits
    · cases waits
    next other_id =>
      refine ⟨waits, fun same => other_id ?_⟩
      exact registered.owners id other call.ticket requested (same ▸ requested_of_waiting waits)
  · rw [standing] at gone
    split at gone
    · cases gone
    · exact .inr gone

/-- A frame comes. If its number is expected by a call, that call has its answer. -/
theorem Settled.frame {next : Books α} {id : Correlation} {body : α} (settled : Settled past books)
    (registered : Registered past books)
    (owner : ∀ other, next.owner other = if other = id then none else books.owner other)
    (expired : next.expired = books.expired.erase id) (calls : next.calls = books.calls)
    (answered : ∀ ticket, standing id past = .waiting ticket →
      next.receipt ticket = some (.answered body))
    (others : ∀ ticket, standing id past ≠ .waiting ticket →
      next.receipt ticket = books.receipt ticket) :
    Settled (.frame id body :: past) next := by
  have unmet : ∀ other ticket, other ≠ id → (standing other past).ticket? = some ticket →
      next.receipt ticket = books.receipt ticket := by
    intro other ticket apart stands
    refine others ticket fun waits => apart ?_
    exact registered.number stands (congrArg Standing.ticket? waits)
  refine ⟨fun other => ?_, ?_, fun other late => ?_, fun ticket receipt found => ?_,
    fun call member other asks => ?_, fun other ticket waits => ?_, fun other ticket gone => ?_⟩
  · rw [owner, standing]
    by_cases same : id = other
    · simp [same, Standing.ticket?]
    · rw [if_neg (Ne.symm same), if_neg same]
      exact settled.owner other
  · rw [expired, settled.expired, remembered]
  · rw [remembered] at late
    obtain ⟨absent, ticket, requested⟩ := settled.late other (List.mem_of_mem_erase late)
    refine ⟨?_, ticket, List.mem_cons_of_mem _ requested⟩
    rw [standing, absent]
    split <;> rfl
  · rw [calls]
    by_cases waits : standing id past = .waiting ticket
    · rw [answered ticket waits] at found
      cases found
      obtain ⟨call, member, same, other, asks, fits⟩ :=
        settled.receipts ticket .pending (settled.waiting id ticket waits)
      obtain rfl : other = id :=
        registered.number (congrArg Standing.ticket? fits) (congrArg Standing.ticket? waits)
      refine ⟨call, member, same, other, asks, ?_, firstAnswer_of_waiting waits body⟩
      rw [handed, fate, waits]
      exact List.mem_cons_self ..
    · rw [others ticket waits] at found
      obtain ⟨call, member, same, other, asks, fits⟩ := settled.receipts ticket receipt found
      refine ⟨call, member, same, other, asks, fits.later _ fun pending => ?_⟩
      subst pending
      rw [standing, if_neg]
      · exact fits
      · rintro rfl
        exact waits fits
  · rw [calls] at member
    have held := settled.held call member other asks
    by_cases waits : standing id past = .waiting call.ticket
    · rw [answered call.ticket waits]
      rfl
    · rw [others call.ticket waits]
      exact held
  · rw [standing] at waits
    split at waits
    · cases waits
    next apart =>
      rw [unmet other ticket (Ne.symm apart) (congrArg Standing.ticket? waits)]
      exact settled.waiting other ticket waits
  · rw [standing] at gone
    split at gone
    · cases gone
    next apart =>
      rw [unmet other ticket (Ne.symm apart) (congrArg Standing.ticket? gone)]
      exact settled.forsaken other ticket gone

/-- A socket ends. Every request that waits fails. -/
theorem Settled.shut {next : Books α} {tickets : List Ticket} (settled : Settled past books)
    (all : ∀ id ticket, books.owner id = some ticket → ticket ∈ tickets)
    (owner : next.owner = fun _ => none) (expired : next.expired = [])
    (receipt : next.receipt = fun ticket =>
      (books.receipt ticket).map (Exchange.shutting tickets ticket))
    (calls : next.calls = books.calls) : Settled (.shut :: past) next := by
  refine ⟨fun id => ?_, expired, fun id late => ?_, fun ticket receipt' found => ?_,
    fun call member id asks => ?_, fun id ticket waits => ?_, fun id ticket gone => ?_⟩
  · rw [owner]
    rfl
  · cases late
  · rw [receipt] at found
    obtain ⟨old, before, rfl⟩ := Option.map_eq_some_iff.mp found
    obtain ⟨call, member, same, id, asks, fits⟩ := settled.receipts ticket old before
    rw [calls]
    refine ⟨call, member, same, id, asks, ?_⟩
    cases old with
    | pending =>
      have owned : books.owner id = some ticket :=
        (settled.owner id).trans (congrArg Standing.ticket? fits)
      simp only [Exchange.shutting, if_pos (all id ticket owned)]
      trivial
    | answered body => exact ⟨handed_of_mem fits.1 _, fits.2.later _⟩
    | closed => trivial
  · rw [calls] at member
    rw [receipt]
    simpa using settled.held call member id asks
  · cases waits
  · cases gone

section Standing

variable {id : Correlation} {ticket : Ticket}

theorem Settled.waiting_of_held (settled : Settled past books) (owned : books.owner id = some ticket)
    (held : (books.receipt ticket).isSome = true) : standing id past = .waiting ticket := by
  rw [settled.owner] at owned
  cases stands : standing id past with
  | absent =>
    rw [stands] at owned
    cases owned
  | waiting other =>
    rw [stands] at owned
    cases owned
    rfl
  | forsaken other =>
    rw [stands] at owned
    cases owned
    rw [settled.forsaken id ticket stands] at held
    cases held

theorem Settled.forsaken_of_gone (settled : Settled past books)
    (owned : books.owner id = some ticket) (gone : books.receipt ticket = none) :
    standing id past = .forsaken ticket := by
  rw [settled.owner] at owned
  cases stands : standing id past with
  | absent =>
    rw [stands] at owned
    cases owned
  | waiting other =>
    rw [stands] at owned
    cases owned
    rw [settled.waiting id ticket stands] at gone
    cases gone
  | forsaken other =>
    rw [stands] at owned
    cases owned
    rfl

theorem Settled.absent_of_free (settled : Settled past books) (free : books.owner id = none) :
    standing id past = .absent := by
  rw [settled.owner] at free
  cases stands : standing id past with
  | absent => rfl
  | waiting ticket | forsaken ticket =>
    rw [stands] at free
    cases free

theorem Settled.unasked (settled : Settled past books)
    (never : ∀ ticket, .requested id ticket ∉ past) :
    standing id past = .absent ∧ id ∉ remembered past := by
  refine ⟨absent_of_unrequested never, fun late => ?_⟩
  obtain ⟨_, ticket, requested⟩ := settled.late id late
  exact never ticket requested

theorem Settled.unclaimed (settled : Settled past books) (numbered : Numbered past books.counter)
    (few : (issued past).length < 2 ^ 64)
    (unclaimed : id.isSome = true → books.owner id = none ∧ id ∉ books.expired) :
    standing id past = .absent ∧ id ∉ remembered past := by
  cases some : id.isSome with
  | true =>
    obtain ⟨free, new⟩ := unclaimed some
    rw [settled.expired] at new
    exact ⟨settled.absent_of_free free, new⟩
  | false =>
    refine settled.unasked fun ticket requested => ?_
    rw [numbered.isSome few (issued_of_requested requested)] at some
    cases some

theorem Settled.erase_of_owned (settled : Settled past books) (owned : books.owner id = some ticket) :
    books.expired = books.expired.erase id := by
  refine (List.erase_of_not_mem fun member => ?_).symm
  rw [settled.expired] at member
  rw [settled.owner, (settled.late id member).1] at owned
  cases owned

end Standing

theorem Settled.entry {notes : List (Note α)} {next : Books α} (settled : Settled past books)
    (numbered : Numbered past books.counter) (registered : Registered past books)
    (few : (issued past).length < 2 ^ 64) (entry : Entry books notes next) :
    Settled (notes ++ past) next := by
  cases entry with
  | rests => exact settled
  | draws note tickets one =>
    have noted : Settled (note :: past) books := by
      obtain rfl | rfl := one <;> exact settled.noted (fun _ => rfl) rfl
    exact noted.aside rfl rfl rfl fun _ _ _ => Iff.rfl
  | requests call ticket purpose =>
    exact settled.request registered (numbered.fresh few) ticket purpose
  | waits call ticket purpose =>
    refine settled.aside rfl rfl rfl fun other id asks => ?_
    have apart : other ≠ call := by
      rintro rfl
      rw [purpose] at asks
      cases asks
    simp [apart]
  | picks => exact settled.aside rfl rfl rfl fun _ _ _ => Iff.rfl
  | receives call body rest member purpose | quits call queue member purpose =>
    exact settled.aside rfl rfl rfl fun other id asks =>
      request_without registered member purpose asks
  | returns call id body member purpose answered =>
    exact settled.return (by simp [answered]) rfl rfl rfl rfl
  | fails call id member purpose ended => exact settled.return ended rfl rfl rfl rfl
  | cancels call id member purpose =>
    exact settled.cancel registered numbered.once member purpose rfl rfl rfl rfl
  | timesOut call id queue member purpose pending =>
    exact settled.timeOut registered member purpose pending rfl rfl rfl rfl
  | hands id body ticket owned held =>
    have waits := settled.waiting_of_held owned held
    refine settled.frame registered (fun other => Function.update_apply ..)
      (settled.erase_of_owned owned) rfl (fun other here => ?_) (fun other apart => ?_)
    · rw [waits] at here
      cases here
      exact Function.update_self ..
    · refine Function.update_of_ne (fun same => apart ?_) ..
      rw [same, waits]
  | drops id body ticket owned gone =>
    have gone := settled.forsaken_of_gone owned gone
    refine settled.frame registered (fun other => Function.update_apply ..)
      (settled.erase_of_owned owned) rfl (fun other here => ?_) (fun _ _ => rfl)
    rw [gone] at here
    cases here
  | forgets id body free member =>
    refine settled.frame registered (fun other => ?_) rfl rfl (fun other here => ?_) (fun _ _ => rfl)
    · dsimp only
      split
      next same => rw [same, free]
      next => rfl
    · rw [settled.absent_of_free free] at here
      cases here
  | queues id body unclaimed =>
    obtain ⟨absent, new⟩ := settled.unclaimed numbered few unclaimed
    refine settled.frame registered (fun other => ?_) ?_ rfl (fun other here => ?_) (fun _ _ => rfl)
    · dsimp only
      split
      next same => rw [same, settled.owner, absent, Standing.ticket?]
      next => rfl
    · rw [← settled.expired] at new
      exact (List.erase_of_not_mem new).symm
    · rw [absent] at here
      cases here
  | shuts tickets all => exact settled.shut all rfl rfl rfl rfl

end FrameLink.Link.Connection
