import Mathlib
import FrameLink.Proofs.Link.Agreement
import FrameLink.Scenario.Rehearsed
/-!
Where the frames of a connection go. Every frame is handed to a call, dropped or queued, as the past
tells, and what a call gives out is the body of a frame that was meant for it.
-/

namespace FrameLink.Link.Connection

open Wait Past Books

variable {σ α β : Type} {past : List (Note α)} {books next : Books α}

/-- The bodies that went to calls for the inbox, first to last. -/
def received (past : List (Note α)) (given : List (Ticket × α)) : List α :=
  (given.filter fun entry => entry.1 ∉ requesters past).map (·.2)

/-- What requests gave out was handed to them, and what else was given out was queued before what is
queued now. -/
structure Delivered (past : List (Note α)) (books : Books α) : Prop where
  answers : ∀ entry ∈ books.given, ∀ id, .requested id entry.1 ∈ past →
    entry ∈ handed past ∧ FirstAnswer past id entry.1 entry.2
  received : (received past books.given ++ books.queue).Sublist (queued past)

theorem received_request {entry : Ticket × α} (asked : entry.1 ∈ requesters past)
    (given : List (Ticket × α)) : received past (given ++ [entry]) = received past given := by
  simp [received, asked]

theorem received_other {entry : Ticket × α} (other : entry.1 ∉ requesters past)
    (given : List (Ticket × α)) :
    received past (given ++ [entry]) = received past given ++ [entry.2] := by
  simp [received, other]

theorem Delivered.keep (delivered : Delivered past books) (given : next.given = books.given)
    (queue : next.queue = books.queue ∨ next.queue = []) : Delivered past next := by
  refine ⟨?_, ?_⟩
  · rw [given]
    exact delivered.answers
  · rw [given]
    refine List.Sublist.trans ?_ delivered.received
    refine List.Sublist.append_left ?_ _
    rcases queue with same | none
    · rw [same]
    · rw [none]
      exact List.nil_sublist _

theorem Delivered.noted {note : Note α} (delivered : Delivered past books)
    (other : ∀ id ticket, note ≠ .requested id ticket) (given : next.given = books.given)
    (queue : ∃ more, next.queue = books.queue ++ more ∧ queued (note :: past) = queued past ++ more) :
    Delivered (note :: past) next := by
  have older : ∀ id ticket, .requested id ticket ∈ note :: past → .requested id ticket ∈ past := by
    intro id ticket member
    exact (List.mem_cons.mp member).resolve_left fun same => other id ticket same.symm
  have same : requesters (note :: past) = requesters past := by
    cases note <;> first | rfl | exact absurd rfl (other _ _)
  obtain ⟨more, longer, later⟩ := queue
  refine ⟨?_, ?_⟩
  · rw [given]
    intro entry member id requested
    obtain ⟨there, first⟩ := delivered.answers entry member id (older id _ requested)
    exact ⟨handed_of_mem there note, first.later note⟩
  · rw [given, longer, later, ← List.append_assoc]
    simp only [Connection.received, same]
    exact delivered.received.append (.refl more)

theorem Delivered.receive {ticket : Ticket} {body : α} {rest : List α}
    (delivered : Delivered past books) (other : ticket ∉ requesters past)
    (queue : books.queue = body :: rest) (left : next.queue = rest)
    (given : next.given = books.given ++ [(ticket, body)]) : Delivered past next := by
  refine ⟨?_, ?_⟩
  · rw [given]
    intro entry member id requested
    rcases List.mem_append.mp member with earlier | last
    · exact delivered.answers entry earlier id requested
    · rw [List.mem_singleton.mp last] at requested
      exact absurd (mem_requesters.mpr ⟨id, requested⟩) other
  · have before := delivered.received
    rw [given, received_other other, left, List.append_assoc]
    rw [queue] at before
    exact before

theorem Delivered.request {id : Correlation} (delivered : Delivered past books)
    (registered : Registered past books) (given : next.given = books.given)
    (queue : next.queue = books.queue) :
    Delivered (.requested id books.tickets :: past) next := by
  have apart : ∀ entry ∈ books.given, entry.1 ≠ books.tickets := fun entry member =>
    Nat.ne_of_lt (registered.given entry member).1
  refine ⟨?_, ?_⟩
  · rw [given]
    intro entry member other requested
    rcases List.mem_cons.mp requested with same | older
    · exact absurd (Note.requested.inj same).2 (apart entry member)
    · obtain ⟨there, first⟩ := delivered.answers entry member other older
      exact ⟨handed_of_mem there _, first.later _⟩
  · have same : Connection.received (.requested id books.tickets :: past) books.given =
        Connection.received past books.given := by
      simp only [Connection.received]
      congr 1
      refine List.filter_congr fun entry member => ?_
      simp [requesters, apart entry member]
    rw [given, queue, same]
    exact delivered.received

theorem Delivered.return {call : Call} {id : Correlation} {body : α}
    (delivered : Delivered past books) (registered : Registered past books)
    (settled : Settled past books) (member : call ∈ books.calls) (purpose : call.purpose = .request id)
    (answered : books.receipt call.ticket = some (.answered body))
    (given : next.given = books.given ++ [(call.ticket, body)]) (queue : next.queue = books.queue) :
    Delivered past next := by
  have requested := registered.asks call member id purpose
  have fits : Fits past id call.ticket (.answered body) :=
    settled.fits registered member purpose answered
  refine ⟨?_, ?_⟩
  · rw [given]
    intro entry there other asked
    rcases List.mem_append.mp there with earlier | last
    · exact delivered.answers entry earlier other asked
    · rw [List.mem_singleton.mp last] at asked ⊢
      rw [registered.owners other id call.ticket asked requested]
      exact fits
  · rw [given, received_request (mem_requesters.mpr ⟨id, requested⟩), queue]
    exact delivered.received

/-- What a frame does, by its fate. -/
def Meets (fate : Fate) (body : α) (before after : Books α) : Prop :=
  match fate with
  | .handed ticket => after.receipt =
      Function.update before.receipt ticket (some (.answered body)) ∧ after.queue = before.queue
  | .dropped => after.receipt = before.receipt ∧ after.queue = before.queue
  | .queued => after.receipt = before.receipt ∧ after.queue = before.queue ++ [body]

/-- A frame does what its fate says, and nothing else that calls can see. -/
theorem meets_of_frame {id : Correlation} {body : α} (settled : Settled past books)
    (numbered : Numbered past books.counter) (few : (issued past).length < 2 ^ 64)
    (entry : Entry books [.frame id body] next) :
    Meets (fate id past) body books next ∧ next.calls = books.calls ∧
      next.counter = books.counter ∧ next.tickets = books.tickets ∧ next.given = books.given := by
  cases entry with
  | draws _ _ one => simp at one
  | hands _ _ ticket owned held =>
    rw [fate, settled.waiting_of_held owned held]
    exact ⟨⟨rfl, rfl⟩, rfl, rfl, rfl, rfl⟩
  | drops _ _ ticket owned gone =>
    rw [fate, settled.forsaken_of_gone owned gone]
    exact ⟨⟨rfl, rfl⟩, rfl, rfl, rfl, rfl⟩
  | forgets _ _ free member =>
    rw [settled.expired] at member
    rw [fate, settled.absent_of_free free]
    dsimp only
    rw [if_pos member]
    exact ⟨⟨rfl, rfl⟩, rfl, rfl, rfl, rfl⟩
  | queues _ _ unclaimed =>
    obtain ⟨absent, new⟩ := settled.unclaimed numbered few unclaimed
    rw [fate, absent]
    dsimp only
    rw [if_neg new]
    exact ⟨⟨rfl, rfl⟩, rfl, rfl, rfl, rfl⟩

theorem queued_of_frame {id : Correlation} {body : α} (settled : Settled past books)
    (numbered : Numbered past books.counter) (few : (issued past).length < 2 ^ 64)
    (entry : Entry books [.frame id body] next) :
    ∃ more, next.queue = books.queue ++ more ∧
      queued (.frame id body :: past) = queued past ++ more := by
  have meets := (meets_of_frame settled numbered few entry).1
  rw [queued]
  cases goes : fate id past with
  | handed ticket | dropped =>
    rw [goes] at meets
    exact ⟨[], by simp [meets.2], by simp⟩
  | queued =>
    rw [goes] at meets
    exact ⟨[body], meets.2, rfl⟩

theorem Delivered.entry {notes : List (Note α)} (delivered : Delivered past books)
    (numbered : Numbered past books.counter) (registered : Registered past books)
    (settled : Settled past books) (few : (issued past).length < 2 ^ 64)
    (entry : Entry books notes next) : Delivered (notes ++ past) next := by
  have came := entry
  cases entry with
  | rests => exact delivered
  | draws note tickets one =>
    obtain rfl | rfl := one <;>
      exact delivered.noted (by simp) rfl ⟨[], (List.append_nil _).symm, (List.append_nil _).symm⟩
  | requests call ticket purpose => exact delivered.request registered rfl rfl
  | waits => exact delivered.keep rfl (.inl rfl)
  | picks body rest queue =>
    refine delivered.receive (fun asked => ?_) queue rfl rfl
    obtain ⟨id, requested⟩ := mem_requesters.mp asked
    exact Nat.lt_irrefl _ (registered.requests id _ requested)
  | receives call body rest member purpose queue =>
    exact delivered.receive (registered.receives call member purpose) queue rfl rfl
  | quits call queue member purpose left => exact delivered.keep rfl left
  | returns call id body member purpose answered =>
    exact delivered.return registered settled member purpose answered rfl rfl
  | fails => exact delivered.keep rfl (.inl rfl)
  | cancels | shuts =>
    exact delivered.noted (by simp) rfl ⟨[], (List.append_nil _).symm, (List.append_nil _).symm⟩
  | timesOut call id queue member purpose pending left =>
    have kept : Delivered past { books with queue } := delivered.keep rfl left
    exact kept.noted (by simp) rfl ⟨[], (List.append_nil _).symm, (List.append_nil _).symm⟩
  | hands id body | drops id body | forgets id body | queues id body =>
    exact delivered.noted (by simp) rfl (queued_of_frame settled numbered few came)

/-! ## Runs -/

structure Agrees (past : List (Note α)) (books : Books α) : Prop where
  numbered : Numbered past books.counter
  registered : Registered past books
  settled : Settled past books
  delivered : Delivered past books

theorem Agrees.kept (agrees : Agrees past books) (few : (issued past).length < 2 ^ 64) :
    Kept books := by
  have settled := agrees.settled
  refine ⟨?_, ?_, fun call member id purpose pending => ?_⟩
  · have never : ∀ ticket, .requested books.number ticket ∉ past := fun ticket requested =>
      agrees.numbered.fresh few (issued_of_requested requested)
    rw [settled.owner, absent_of_unrequested never, Standing.ticket?]
  · cases found : books.receipt books.tickets with
    | none => rfl
    | some receipt =>
      obtain ⟨call, member, same, _⟩ := settled.receipts _ _ found
      exact absurd (agrees.registered.calls call member) (by simp [same])
  · have waits : standing id past = .waiting call.ticket :=
      settled.fits agrees.registered member purpose pending
    rw [settled.owner, waits, Standing.ticket?]

theorem Agrees.entry {notes : List (Note α)} (agrees : Agrees past books)
    (few : (issued past).length < 2 ^ 64) (entry : Entry books notes next) :
    Agrees (notes ++ past) next where
  numbered := agrees.numbered.entry few entry
  registered := agrees.registered.entry entry
  settled := agrees.settled.entry agrees.numbered agrees.registered few entry
  delivered := agrees.delivered.entry agrees.numbered agrees.registered agrees.settled few entry

theorem issued_append (later earlier : List (Note α)) :
    issued (later ++ earlier) = issued later ++ issued earlier := by
  induction later with
  | nil => rfl
  | cons note later ih =>
    rw [List.cons_append, issued_cons, ih, issued_cons note later, List.append_assoc]

theorem agrees_new (settings : ConnectSettings) (transport : σ) :
    Agrees [] (Life.ofTransport settings transport : Life σ α).books where
  numbered := ⟨rfl, by simp [issued], by simp [issued]⟩
  registered := by
    refine ⟨?_, ?_, ?_, ?_, ?_, ?_, ?_, ?_⟩ <;>
      simp [Life.ofTransport, Life.books, Life.given, Connection.books]
  settled := by
    refine ⟨fun _ => rfl, rfl, ?_, ?_, ?_, ?_, ?_⟩ <;>
      simp [Life.ofTransport, Life.books, Life.given, Connection.books, remembered, standing,
        Exchange.receipt?]
  delivered := ⟨by simp [Life.ofTransport, Life.books, Life.given, Connection.books], .refl _⟩

theorem Agrees.handed_iff {id : Correlation} {ticket : Ticket} (agrees : Agrees past books) :
    fate id past = .handed ticket ↔ ∃ call ∈ books.calls, call.ticket = ticket ∧
      call.purpose = .request id ∧ books.receipt ticket = some .pending := by
  have goes : fate id past = .handed ticket ↔ standing id past = .waiting ticket := by
    rw [fate]
    split
    next other waits => simp [waits]
    next other gone => simp [gone]
    next absent =>
      rw [absent]
      split <;> simp
  rw [goes]
  constructor
  · intro waits
    have pending := agrees.settled.waiting id ticket waits
    obtain ⟨call, member, same, other, purpose, fits⟩ := agrees.settled.receipts _ _ pending
    obtain rfl : other = id :=
      agrees.registered.number (congrArg Standing.ticket? fits) (congrArg Standing.ticket? waits)
    exact ⟨call, member, same, purpose, pending⟩
  · rintro ⟨call, member, rfl, purpose, pending⟩
    exact agrees.settled.fits agrees.registered member purpose pending

/-- A frame is dropped exactly if its number is remembered, or its call was dropped before anything
settled it. -/
theorem Agrees.dropped_iff {id : Correlation} (agrees : Agrees past books) :
    fate id past = .dropped ↔ id ∈ books.expired ∨
      ∃ ticket since before, past = since ++ .requested id ticket :: before ∧
        (∀ note ∈ since, note.settles id = false) ∧ .cancelled id ∈ since := by
  have goes : fate id past = .dropped ↔
      id ∈ remembered past ∨ ∃ ticket, standing id past = .forsaken ticket := by
    rw [fate]
    cases stands : standing id past with
    | absent => simp
    | forsaken ticket => simp
    | waiting ticket =>
      have new : id ∉ remembered past := fun late => by
        rw [(agrees.settled.late id late).1] at stands
        cases stands
      simp [new]
  rw [goes, agrees.settled.expired]
  exact or_congr_right (exists_congr fun ticket => forsaken_iff)

theorem Agrees.queued_of_unasked {id : Correlation} (agrees : Agrees past books)
    (few : (issued past).length < 2 ^ 64)
    (other : id.isSome = false ∨ .sent id ∈ past ∨ id ∉ issued past) : fate id past = .queued := by
  have never : ∀ ticket, .requested id ticket ∉ past := by
    intro ticket requested
    have drawn := issued_of_requested requested
    rcases other with none | sent | new
    · rw [agrees.numbered.isSome few drawn] at none
      cases none
    · exact not_requested_of_sent agrees.numbered.once sent requested
    · exact new drawn
  obtain ⟨absent, new⟩ := agrees.settled.unasked never
  rw [fate, absent]
  exact if_neg new

theorem Life.mem_given {life : Life σ α} {ticket : Ticket} {body : α} :
    (ticket, body) ∈ life.given ↔ (ticket, .ok body) ∈ life.finished := by
  simp only [Life.given, List.mem_filterMap]
  constructor
  · rintro ⟨⟨other, outcome⟩, member, same⟩
    cases outcome with
    | error fault => cases same
    | ok found =>
      cases same
      exact member
  · intro member
    exact ⟨_, member, rfl⟩

/-- Requests gave out different answers, all of which were handed to them. -/
theorem Agrees.answers_subperm (agrees : Agrees past books) :
    (books.given.filter fun entry => entry.1 ∈ requesters past).Subperm (handed past) := by
  have once : books.given.Nodup := List.Nodup.of_map _ agrees.registered.givenOnce
  refine List.subperm_of_subset (once.filter _) fun entry member => ?_
  obtain ⟨given, asked⟩ := List.mem_filter.mp member
  obtain ⟨id, requested⟩ := mem_requesters.mp (of_decide_eq_true asked)
  exact (agrees.delivered.answers entry given id requested).1

theorem deliver_of_error [Wire α] {data : Bytes} {fault : FrameError} {connection : Connection σ α}
    (failed : (Frame.decode data connection.limit : Except FrameError (Frame α)) = .error fault) :
    connection.deliver data = connection.say .warn
      s!"Dropping undecodable message ({data.length} bytes): {fault.message}" := by
  rw [deliver, failed]

variable [Transport σ] [Wire α] [Wire β]

theorem Agrees.run (deeds : List (Deed σ β)) (life : Life σ α) (agrees : Agrees past life.books)
    (few : (issued (life.history deeds ++ past)).length < 2 ^ 64) :
    Agrees (life.history deeds ++ past) (life.run deeds).books := by
  induction deeds generalizing life past with
  | nil => exact agrees
  | cons deed deeds ih =>
    rw [Life.history, List.append_assoc] at few ⊢
    have before : (issued past).length < 2 ^ 64 := by
      simp only [issued_append, List.length_append] at few
      omega
    exact ih (life.step deed) (agrees.entry before (life.entry (agrees.kept before) deed)) few

theorem Life.step_message {life : Life σ α} {channel : Nat} {data : Bytes} {events : List Event}
    (heard : life.connection.pump = some ⟨channel, .message data :: events⟩) :
    life.step (.pumps : Deed σ β) = { life with
      connection := { life.connection with pump := some ⟨channel, events⟩ }.deliver data } := by
  simp only [Life.step, heard]
  rfl

/-- Every message that the pump takes has one fate. One that cannot be decoded changes nothing. A frame
is handed to the request with its number that still waits; else it is dropped if that number is
remembered or forsaken; else it is queued, as is always one that no request drew. So a request gives
out the first frame with its number since it went out; what requests gave out was handed to them, and
what was received and what is queued was queued, no frame twice. -/
theorem frames_meet_their_fates (settings : ConnectSettings) (transport : σ)
    (deeds : List (Deed σ β))
    (few : (issued ((Life.ofTransport settings transport : Life σ α).history deeds)).length <
      2 ^ 64) :
    let life := (Life.ofTransport settings transport : Life σ α).run deeds
    let past := (Life.ofTransport settings transport : Life σ α).history deeds
    (∀ channel data events, life.connection.pump = some ⟨channel, .message data :: events⟩ →
      let next := life.step (.pumps : Deed σ β)
      match (Frame.decode data life.connection.limit : Except FrameError (Frame α)) with
      | .error _ => ∃ log, next = { life with connection := { life.connection with
          pump := some ⟨channel, events⟩, log } }
      | .ok ⟨id, body⟩ => Meets (fate id past) body life.books next.books ∧
          next.connection.calls = life.connection.calls ∧
          next.connection.counter = life.connection.counter ∧ next.finished = life.finished) ∧
    (∀ id ticket, fate id past = .handed ticket ↔ ∃ call ∈ life.connection.calls,
      call.ticket = ticket ∧ call.purpose = .request id ∧
        life.connection.exchange.receipt? ticket = some .pending) ∧
    (∀ id, fate id past = .dropped ↔ id ∈ life.connection.exchange.pending.expired ∨
      ∃ ticket since before, past = since ++ .requested id ticket :: before ∧
        (∀ note ∈ since, note.settles id = false) ∧ .cancelled id ∈ since) ∧
    (∀ id, id.isSome = false ∨ .sent id ∈ past ∨ id ∉ issued past → fate id past = .queued) ∧
    (∀ id ticket body, .requested id ticket ∈ past → (ticket, .ok body) ∈ life.finished →
      FirstAnswer past id ticket body) ∧
    (life.given.filter fun entry => entry.1 ∈ requesters past).Subperm (handed past) ∧
    (received past life.given ++ life.connection.exchange.inbox.queue).Sublist (queued past) := by
  intro life past
  have agrees : Agrees past life.books := by
    have ran := (agrees_new settings transport).run deeds
      (Life.ofTransport settings transport : Life σ α)
    rw [List.append_nil] at ran
    exact ran few
  refine ⟨fun channel data events heard => ?_, fun id ticket => agrees.handed_iff,
    fun id => agrees.dropped_iff, fun id other => agrees.queued_of_unasked few other,
    fun id ticket body requested came => ?_, agrees.answers_subperm, agrees.delivered.received⟩
  · have entry := life.entry (agrees.kept few) (.pumps : Deed σ β)
    have step := Life.step_message (β := β) heard
    dsimp only
    cases decoded : (Frame.decode data life.connection.limit : Except FrameError (Frame α)) with
    | error fault =>
      have quiet : Connection.deliver data { life.connection with pump := some ⟨channel, events⟩ } =
          _ := deliver_of_error decoded
      rw [quiet] at step
      exact ⟨_, step⟩
    | ok frame =>
      obtain ⟨id, body⟩ := frame
      have noted : life.notes (.pumps : Deed σ β) = [.frame id body] := by
        simp only [Life.notes, heard, decoded]
      rw [noted] at entry
      obtain ⟨meets, calls, counter, _, _⟩ :=
        meets_of_frame agrees.settled agrees.numbered few entry
      exact ⟨meets, calls, counter, by rw [step]⟩
  · exact (agrees.delivered.answers _ (Life.mem_given.mpr came) id requested).2

section Rehearsed

open Scenario (Rehearsed)

def asking : List (Deed Rehearsed Unit) := [
  .dials ⟨"", none, "127.0.0.1", some 8167, "/sc2api", none, none⟩ false, .pumps,
  .requests () ⟨1000000000, by decide⟩, .requests () ⟨1000000000, by decide⟩]

def answering (id : UInt8) (first second : UInt8) : List (Deed Rehearsed Unit) := [
  .stirs {} [⟨0, .message [id, 0, 0, 0, 0, 0, 0, 0, first]⟩,
    ⟨0, .message [id, 0, 0, 0, 0, 0, 0, 0, second]⟩] [], .pumps, .pumps]

/-- The second request is answered first, and gives out what came first. -/
theorem first_answer_given_out :
    (issued ((Life.ofTransport {} {} : Life Rehearsed UInt8).history
      (asking ++ answering 2 7 8 ++ [.attends 1]))).length < 2 ^ 64 ∧
    FirstAnswer ((Life.ofTransport {} {} : Life Rehearsed UInt8).history
      (asking ++ answering 2 7 8 ++ [.attends 1])) ⟨2⟩ 1 7 := by
  have few : (issued ((Life.ofTransport {} {} : Life Rehearsed UInt8).history
      (asking ++ answering 2 7 8 ++ [.attends 1]))).length < 2 ^ 64 := by decide +kernel
  have fates := frames_meet_their_fates (σ := Rehearsed) (α := UInt8) {} {} _ few
  obtain ⟨_, _, _, _, first, _⟩ := fates
  exact ⟨few, first ⟨2⟩ 1 7 (by decide +kernel) (by decide +kernel)⟩

/-- A number is forsaken for one frame only: the second frame of a request that was dropped is queued.
And the second frame of a request is queued though its call, which has its answer, is still there. -/
theorem second_frame_queued :
    ((Life.ofTransport {} {} : Life Rehearsed UInt8).history
        (asking ++ [.cancels 0] ++ answering 1 7 8) =
      [.frame ⟨1⟩ 8, .frame ⟨1⟩ 7, .cancelled ⟨1⟩, .requested ⟨2⟩ 1, .requested ⟨1⟩ 0] ∧
      ((Life.ofTransport {} {} : Life Rehearsed UInt8).run
        (asking ++ [.cancels 0] ++ answering 1 7 8)).connection.exchange.inbox.queue = [8]) ∧
    (((Life.ofTransport {} {} : Life Rehearsed UInt8).run
        (asking ++ answering 2 7 8)).connection.calls.map (·.purpose) =
      [.request ⟨1⟩, .request ⟨2⟩] ∧
      ((Life.ofTransport {} {} : Life Rehearsed UInt8).run
        (asking ++ answering 2 7 8)).connection.exchange.inbox.queue = [8]) := by
  decide +kernel

end Rehearsed

end FrameLink.Link.Connection
