import Mathlib
import FrameLink.Link.Connection.Handshake
import FrameLink.Proofs.Link.Past
/-!
All that can befall a connection over any transport, one thing at a time, and what each does to the
part of its state that decides where frames go.
-/

namespace FrameLink.Link

open Wait

/-! ## Lookups -/

theorem find?_without {κ ω : Type} [BEq κ] [LawfulBEq κ] (entries : List (κ × ω)) (key other : κ) :
    ((entries.filter fun entry => entry.1 != key).find? fun entry => entry.1 == other) =
      if other == key then none else entries.find? fun entry => entry.1 == other := by
  rw [List.find?_filter]
  split
  next same =>
    rw [List.find?_eq_none]
    intro entry _
    simp [eq_of_beq same]
  next apart =>
    congr 1
    funext entry
    cases found : entry.1 == other with
    | false => simp
    | true =>
      have here : entry.1 = other := eq_of_beq found
      simp only [here]
      simpa using apart

namespace Pending

variable (id other : Correlation) (ticket : Ticket) (pending : Pending)

theorem find?_erase :
    (pending.erase id).find? other = if other = id then none else pending.find? other := by
  simp only [find?, erase, find?_without, beq_iff_eq]
  split <;> rfl

theorem find?_register : (pending.register id ticket).find? other =
    if other = id then some ticket else pending.find? other := by
  have erased := find?_erase id other pending
  simp only [find?] at erased
  simp only [find?, register, List.find?_append, Option.map_or, erased]
  split
  next same => simp [same]
  next apart => simp [Ne.symm apart]

variable {id ticket pending}

theorem erase_register (free : pending.find? id = none) (ticket : Ticket) :
    (pending.register id ticket).erase id = pending := by
  have others : (pending.live.filter fun entry => entry.1 != id) = pending.live := by
    rw [find?, Option.map_eq_none_iff, List.find?_eq_none] at free
    exact List.filter_eq_self.mpr fun entry member => by simpa using free entry member
  simp [register, erase, others]

theorem expire_of_found (found : pending.find? id = some ticket) :
    pending.expire id = { pending.erase id with
      expired := (if pending.expired.length = expiredCapacity then pending.expired.drop 1
        else pending.expired) ++ [id] } := by
  rw [expire, found]

end Pending

namespace Exchange

variable {α : Type} (ticket other : Ticket) (exchange : Exchange α)

theorem receipt?_release :
    (exchange.release ticket).receipt? other =
      if other = ticket then none else exchange.receipt? other := by
  simp only [receipt?, release, find?_without, beq_iff_eq]
  split <;> rfl

theorem receipt?_write (receipt : Receipt α) :
    (exchange.write ticket receipt).receipt? other =
      if other = ticket then (exchange.receipt? other).map fun _ => receipt
      else exchange.receipt? other := by
  have keys : ((fun entry : Ticket × Receipt α => entry.1 == other) ∘ fun entry =>
      if entry.1 = ticket then (ticket, receipt) else entry) = fun entry => entry.1 == other := by
    funext entry
    by_cases here : entry.1 = ticket <;> simp [here]
  simp only [receipt?, write, List.find?_map, keys, Option.map_map]
  cases found : exchange.receipts.find? fun entry => entry.1 == other with
  | none => simp
  | some entry =>
    have same : entry.1 = other := by simpa using List.find?_some found
    by_cases here : other = ticket <;> simp [same, here]

def shutting (tickets : List Ticket) (ticket : Ticket) : Receipt α → Receipt α
  | .pending => if ticket ∈ tickets then .closed else .pending
  | receipt => receipt

theorem close_eq (tickets : List Ticket) :
    exchange.close tickets = { exchange with
      receipts := exchange.receipts.map fun entry =>
        (entry.1, shutting tickets entry.1 entry.2) } := by
  unfold close
  congr 1
  apply List.map_congr_left
  rintro ⟨ticket, receipt⟩ _
  cases receipt <;> rfl

theorem receipt?_close (tickets : List Ticket) :
    (exchange.close tickets).receipt? other =
      (exchange.receipt? other).map (shutting tickets other) := by
  simp only [close_eq, receipt?, List.find?_map, Option.map_map, Function.comp_def]
  cases found : exchange.receipts.find? fun entry => entry.1 == other with
  | none => rfl
  | some entry =>
    have same : entry.1 = other := by simpa using List.find?_some found
    simp [same]

@[simp] theorem close_nil : exchange.close [] = exchange := by
  have kept : (fun entry : Ticket × Receipt α => (entry.1, shutting [] entry.1 entry.2)) = id := by
    funext ⟨ticket, receipt⟩
    cases receipt <;> rfl
  rw [close_eq, kept, List.map_id]

theorem shutting_of_not_mem {tickets : List Ticket} {ticket : Ticket} (apart : ticket ∉ tickets)
    (receipt : Receipt α) : shutting tickets ticket receipt = receipt := by
  cases receipt <;> simp [shutting, apart]

variable {exchange ticket}

theorem receipt?_register {id : Correlation} (free : exchange.pending.find? id = none)
    (fresh : exchange.receipt? ticket = none) :
    (exchange.register id ticket).receipt? other =
      if other = ticket then some .pending else exchange.receipt? other := by
  simp only [register, free, Option.toList_none, close_nil]
  simp only [receipt?, List.find?_append, Option.map_or] at fresh ⊢
  split
  next same =>
    rw [same, fresh]
    simp
  next apart => simp [Ne.symm apart]

/-- A request that is withdrawn at once leaves nothing behind. -/
theorem withdrawn_eq {id : Correlation} (free : exchange.pending.find? id = none)
    (fresh : exchange.receipt? ticket = none) :
    ((exchange.register id ticket).forget id).release ticket = exchange := by
  have others : ∀ entry ∈ exchange.receipts, entry.1 ≠ ticket := by
    rw [receipt?, Option.map_eq_none_iff, List.find?_eq_none] at fresh
    exact fun entry member => by simpa using fresh entry member
  have owned : (exchange.pending.register id ticket).find? id = some ticket := by
    rw [Pending.find?_register, if_pos rfl]
  have kept : (exchange.receipts.map fun entry => (entry.1, shutting [ticket] entry.1 entry.2)) =
      exchange.receipts := by
    refine (List.map_congr_left fun entry member => ?_).trans (List.map_id _)
    rw [shutting_of_not_mem (by simpa using others entry member)]
    rfl
  have receipts : (exchange.receipts.filter fun entry => entry.1 != ticket) = exchange.receipts :=
    List.filter_eq_self.mpr fun entry member => by simpa using others entry member
  simp only [register, free, Option.toList_none, close_nil]
  simp only [forget, owned, Option.toList_some, close_eq, release, Pending.erase_register free ticket]
  simp [kept, receipts]

end Exchange

namespace Connection

variable {σ α β : Type}

/-! ## What can befall a connection -/

/-- A connection and what its calls came to, the first one first. -/
structure Life (σ α : Type) where
  connection : Connection σ α
  finished : List (Finished α) := []

/-- One thing that can befall it, with requests of type `β`. -/
inductive Deed (σ β : Type) where
  | dials (url : Url) (verbose : Bool)
  /-- the one who dials looks for the last time -/
  | concludes (url : Url)
  | disconnects
  | sends (body : β)
  | receives (timeout : Duration)
  | requests (body : β) (timeout : Duration)
  /-- a call that waits looks for what it waits for, is dropped, or is out of time -/
  | attends (ticket : Ticket)
  | cancels (ticket : Ticket)
  | lapses (ticket : Ticket)
  /-- the pump takes an event -/
  | pumps
  /-- the transport goes on by itself, reports and logs -/
  | stirs (transport : σ) (reports : List Report) (log : List Log.Event)
  | passes (span : Duration)

namespace Life

def ofTransport (settings : ConnectSettings) (transport : σ) : Life σ α :=
  { connection := { settings, transport } }

def finish (life : Life σ α) (ticket : Ticket) (came : Option (Outcome α) × Connection σ α) :
    Life σ α :=
  ⟨came.2, life.finished ++ (came.1.map fun outcome => (ticket, outcome)).toList⟩

/-- A deed that cannot be done changes nothing. -/
def step [Transport σ] [Wire α] [Wire β] (life : Life σ α) : Deed σ β → Life σ α
  | .dials url verbose =>
    if life.connection.calls.isEmpty then
      { life with connection := (life.connection.dial url verbose).2 }
    else life
  | .concludes url => { life with connection := (life.connection.conclude url).2 }
  | .disconnects => { life with connection := life.connection.disconnect }
  | .sends body => { life with connection := (life.connection.send body).2 }
  | .receives timeout =>
    life.finish life.connection.tickets (life.connection.beginReceive timeout)
  | .requests body timeout =>
    life.finish life.connection.tickets (life.connection.beginRequest body timeout)
  | .attends ticket =>
    match life.connection.call? ticket with
    | none => life
    | some call =>
      match life.connection.attend call with
      | (some outcome, connection) => life.finish ticket (some outcome, connection.remove ticket)
      | (none, connection) => { life with connection }
  | .cancels ticket => { life with connection := (life.connection.cancel ticket).2 }
  | .lapses ticket =>
    match life.connection.call? ticket with
    | none => life
    | some call =>
      if life.connection.now < call.deadline then life
      else
        match life.connection.lapse call with
        | (outcome, connection) => life.finish ticket (some outcome, connection)
  | .pumps =>
    match life.connection.pump with
    | some ⟨channel, event :: events⟩ => { life with
        connection := { life.connection with pump := some ⟨channel, events⟩ }.take event }
    | _ => life
  | .stirs transport reports log =>
    let stirred := { life.connection with transport }.hear reports
    { life with connection := { stirred with log := stirred.log ++ log } }
  | .passes span =>
    { life with connection := { life.connection with now := life.connection.now + span.nanos } }

def run [Transport σ] [Wire α] [Wire β] (deeds : List (Deed σ β)) (life : Life σ α) : Life σ α :=
  deeds.foldl step life

/-- What is noted of a deed. Only what can be seen from outside is looked at. -/
def notes [Transport σ] [Wire α] [Wire β] (life : Life σ α) : Deed σ β → List (Note α)
  | .sends body =>
    if life.connection.state.1 = .socket .ready then
      match (life.connection.send body).1 with
      | .ok _ => [.sent life.connection.counter.draw.1]
      | .error _ => [.spent life.connection.counter.draw.1]
    else []
  | .requests body timeout =>
    if life.connection.state.1 = .socket .ready then
      match (life.connection.beginRequest body timeout).1 with
      | none => [.requested life.connection.counter.draw.1 life.connection.tickets]
      | some _ => [.spent life.connection.counter.draw.1]
    else []
  | .cancels ticket =>
    match life.connection.call? ticket with
    | none => []
    | some call =>
      match call.purpose with
      | .receive => []
      | .request id => [.cancelled id]
  | .lapses ticket =>
    match life.connection.call? ticket with
    | none => []
    | some call =>
      if life.connection.now < call.deadline then []
      else
        match call.purpose, (life.connection.lapse call).1 with
        | .request id, .error (.receiveTimeout _) => [.timedOut id]
        | _, _ => []
  | .pumps =>
    match life.connection.pump with
    | some ⟨_, .message data :: _⟩ =>
      match (Frame.decode data life.connection.limit : Except FrameError (Frame α)) with
      | .ok ⟨id, body⟩ => [.frame id body]
      | .error _ => []
    | some ⟨_, .closed _ :: _⟩ => [.shut]
    | _ => []
  | _ => []

def history [Transport σ] [Wire α] [Wire β] : List (Deed σ β) → Life σ α → List (Note α)
  | [], _ => []
  | deed :: deeds, life => history deeds (life.step deed) ++ life.notes deed

end Life

/-! ## Books -/

/-- The part of a connection that decides where frames go, and what its calls gave out. -/
@[ext]
structure Books (α : Type) where
  owner : Correlation → Option Ticket
  expired : List Correlation
  receipt : Ticket → Option (Receipt α)
  queue : List α
  calls : List Call
  counter : Correlation.Counter
  tickets : Ticket
  given : List (Ticket × α)

def books (given : List (Ticket × α)) (connection : Connection σ α) : Books α where
  owner id := connection.exchange.pending.find? id
  expired := connection.exchange.pending.expired
  receipt ticket := connection.exchange.receipt? ticket
  queue := connection.exchange.inbox.queue
  calls := connection.calls
  counter := connection.counter
  tickets := connection.tickets
  given

def Life.given (life : Life σ α) : List (Ticket × α) :=
  life.finished.filterMap fun
    | (ticket, .ok body) => some (ticket, body)
    | _ => none

def Life.books (life : Life σ α) : Books α := life.connection.books life.given

namespace Books

def number (books : Books α) : Correlation := books.counter.draw.1

def without (books : Books α) (ticket : Ticket) : List Call :=
  books.calls.filter fun call => call.ticket != ticket

/-- What one deed can do to the books, with what is noted of it. -/
inductive Entry (books : Books α) : List (Note α) → Books α → Prop
  | rests : Entry books [] books
  | draws (note : Note α) (tickets : Ticket)
    (one : note = .sent books.number ∨ note = .spent books.number)
    (later : books.tickets ≤ tickets) :
    Entry books [note] { books with counter := books.counter.draw.2, tickets }
  | requests (call : Call) (ticket : call.ticket = books.tickets)
    (purpose : call.purpose = .request books.number) :
    Entry books [.requested books.number books.tickets] { books with
      owner := Function.update books.owner books.number (some books.tickets)
      receipt := Function.update books.receipt books.tickets (some .pending)
      calls := books.calls ++ [call]
      counter := books.counter.draw.2
      tickets := books.tickets + 1 }
  | waits (call : Call) (ticket : call.ticket = books.tickets) (purpose : call.purpose = .receive) :
    Entry books [] { books with calls := books.calls ++ [call], tickets := books.tickets + 1 }
  | picks (body : α) (rest : List α) (queue : books.queue = body :: rest) :
    Entry books [] { books with
      queue := rest
      tickets := books.tickets + 1
      given := books.given ++ [(books.tickets, body)] }
  | receives (call : Call) (body : α) (rest : List α) (member : call ∈ books.calls)
    (purpose : call.purpose = .receive) (queue : books.queue = body :: rest) :
    Entry books [] { books with
      queue := rest
      calls := books.without call.ticket
      given := books.given ++ [(call.ticket, body)] }
  | quits (call : Call) (queue : List α) (member : call ∈ books.calls)
    (purpose : call.purpose = .receive) (left : queue = books.queue ∨ queue = []) :
    Entry books [] { books with queue, calls := books.without call.ticket }
  | returns (call : Call) (id : Correlation) (body : α) (member : call ∈ books.calls)
    (purpose : call.purpose = .request id)
    (answered : books.receipt call.ticket = some (.answered body)) :
    Entry books [] { books with
      receipt := Function.update books.receipt call.ticket none
      calls := books.without call.ticket
      given := books.given ++ [(call.ticket, body)] }
  | fails (call : Call) (id : Correlation) (member : call ∈ books.calls)
    (purpose : call.purpose = .request id) (ended : books.receipt call.ticket ≠ some .pending) :
    Entry books [] { books with
      receipt := Function.update books.receipt call.ticket none
      calls := books.without call.ticket }
  | cancels (call : Call) (id : Correlation) (member : call ∈ books.calls)
    (purpose : call.purpose = .request id) :
    Entry books [.cancelled id] { books with
      receipt := Function.update books.receipt call.ticket none
      calls := books.without call.ticket }
  | timesOut (call : Call) (id : Correlation) (queue : List α) (member : call ∈ books.calls)
    (purpose : call.purpose = .request id)
    (pending : books.receipt call.ticket = some .pending)
    (left : queue = books.queue ∨ queue = []) :
    Entry books [.timedOut id] { books with
      owner := Function.update books.owner id none
      expired := (if books.expired.length = Pending.expiredCapacity then books.expired.drop 1
        else books.expired) ++ [id]
      receipt := Function.update books.receipt call.ticket none
      queue
      calls := books.without call.ticket }
  | hands (id : Correlation) (body : α) (ticket : Ticket) (owned : books.owner id = some ticket)
    (held : (books.receipt ticket).isSome = true) :
    Entry books [.frame id body] { books with
      owner := Function.update books.owner id none
      receipt := Function.update books.receipt ticket (some (.answered body)) }
  | drops (id : Correlation) (body : α) (ticket : Ticket) (owned : books.owner id = some ticket)
    (gone : books.receipt ticket = none) :
    Entry books [.frame id body] { books with owner := Function.update books.owner id none }
  | forgets (id : Correlation) (body : α) (free : books.owner id = none)
    (member : id ∈ books.expired) :
    Entry books [.frame id body] { books with expired := books.expired.erase id }
  | queues (id : Correlation) (body : α)
    (unclaimed : id.isSome = true → books.owner id = none ∧ id ∉ books.expired) :
    Entry books [.frame id body] { books with queue := books.queue ++ [body] }
  | shuts (tickets : List Ticket)
    (all : ∀ id ticket, books.owner id = some ticket → ticket ∈ tickets) :
    Entry books [.shut] { books with
      owner := fun _ => none
      expired := []
      receipt := fun ticket => (books.receipt ticket).map (Exchange.shutting tickets ticket) }

/-- What the deeds rely on: the next number and ticket are new, and a request that waits owns its
number. -/
structure Kept (books : Books α) : Prop where
  number : books.owner books.number = none
  ticket : books.receipt books.tickets = none
  owned : ∀ call ∈ books.calls, ∀ id, call.purpose = .request id →
    books.receipt call.ticket = some .pending → books.owner id = some call.ticket

end Books

end Connection

end FrameLink.Link
