import Mathlib
import FrameLink.Proofs.Link.Books
/-!
What each deed does to the books of a connection.
-/

namespace FrameLink.Link.Connection

open Wait Books

variable {σ α β : Type} (given : List (Ticket × α))

@[simp] theorem books_hear (reports : List Report) (connection : Connection σ α) :
    (connection.hear reports).books given = connection.books given := by
  unfold hear
  split <;> rfl

section Unattended

variable [Transport σ]

@[simp] theorem books_readiness (connection : Connection σ α) :
    connection.readiness.2.books given = connection.books given := by
  simp only [readiness]
  exact books_hear ..

@[simp] theorem books_state (connection : Connection σ α) :
    connection.state.2.books given = connection.books given := by
  unfold state
  split
  · exact books_readiness given connection
  · rfl

@[simp] theorem books_stop (connection : Connection σ α) :
    connection.stop.books given = connection.books given := by
  simp only [stop]
  exact books_hear ..

@[simp] theorem books_disconnect (connection : Connection σ α) :
    connection.disconnect.books given = connection.books given := by
  have same := books_state given connection
  unfold disconnect
  cases seen : connection.state with
  | mk state left =>
    rw [seen] at same
    have stopped := (books_stop given (left.say .debug s!"Disconnecting ({state.text})")).trans same
    cases state with
    | idle => exact same
    | socket readiness =>
      cases readiness with
      | closing | closed => exact same
      | connecting | ready => exact stopped

theorem books_dial (url : Url) (verbose : Bool) (connection : Connection σ α) :
    (connection.dial url verbose).2.books given = connection.books given := by
  have same := books_disconnect given connection
  unfold dial
  dsimp only
  split
  · exact same
  · exact (books_hear given _ _).trans same

theorem books_conclude (url : Url) (connection : Connection σ α) :
    (connection.conclude url).2.books given = connection.books given := by
  have same := books_readiness given connection
  unfold conclude
  split
  next seen =>
    rw [seen] at same
    exact same
  next seen =>
    rw [seen] at same
    exact (books_disconnect given _).trans same

theorem books_handleTimeout (timeout : Duration) (connection : Connection σ α) :
    ∃ queue, (queue = (connection.books given).queue ∨ queue = []) ∧
      (connection.handleTimeout timeout).books given = { connection.books given with queue } := by
  unfold handleTimeout
  dsimp only
  split
  · have same : _ = connection.books given := books_stop given (connection.say .warn
      s!"⏱️ No response within {timeout.text}; dropping the connection")
    generalize (connection.say _ _).stop = stopped at same ⊢
    refine ⟨[], .inr rfl, ?_⟩
    rw [← same]
    split <;> next cleared =>
      obtain rfl := congrArg Prod.snd cleared
      rfl
  · exact ⟨_, .inl rfl, rfl⟩

theorem books_send [Wire β] (body : β) (connection : Connection σ α) :
    (connection.send body).2.books given =
      if connection.state.1 = .socket .ready then
        { connection.books given with counter := connection.counter.draw.2 }
      else connection.books given := by
  have same := books_state given connection
  unfold send
  cases seen : connection.state with
  | mk state left =>
    rw [seen] at same
    have counter : left.counter = connection.counter := congrArg Books.counter same
    rw [← same, ← counter]
    cases state with
    | idle => rfl
    | socket readiness =>
      cases readiness with
      | connecting | closing | closed => rfl
      | ready =>
        simp only [if_true]
        split
        · rfl
        · split <;> rfl

theorem books_beginRequest [Wire β] {body : β} {timeout : Duration}
    {connection after : Connection σ α} {outcome : Option (Outcome α)}
    (kept : Kept (connection.books given))
    (begun : connection.beginRequest body timeout = (outcome, after)) :
    let before := connection.books given
    if connection.state.1 = .socket .ready then
      (∃ fault tickets, outcome = some (.error fault) ∧ before.tickets ≤ tickets ∧
        after.books given = { before with counter := before.counter.draw.2, tickets }) ∨
      (∃ call : Call, outcome = none ∧ call.ticket = before.tickets ∧
        call.purpose = .request before.number ∧ after.books given = { before with
          owner := Function.update before.owner before.number (some before.tickets)
          receipt := Function.update before.receipt before.tickets (some .pending)
          calls := before.calls ++ [call]
          counter := before.counter.draw.2
          tickets := before.tickets + 1 })
    else (∃ fault, outcome = some (.error fault)) ∧ after.books given = before := by
  have same := books_state given connection
  rw [← same] at kept
  dsimp only
  rw [← same]
  unfold beginRequest at begun
  cases seen : connection.state with
  | mk state left =>
    rw [seen] at begun kept
    have free : left.exchange.pending.find? left.counter.draw.1 = none := kept.number
    have fresh : left.exchange.receipt? left.tickets = none := kept.ticket
    cases state with
    | idle =>
      cases begun
      exact ⟨⟨_, rfl⟩, rfl⟩
    | socket readiness =>
      cases readiness with
      | connecting | closing | closed =>
        cases begun
        exact ⟨⟨_, rfl⟩, rfl⟩
      | ready =>
        simp only [if_true] at begun ⊢
        split at begun
        · cases begun
          exact .inl ⟨_, left.tickets, rfl, Nat.le_refl _, rfl⟩
        · split at begun
          · cases begun
            refine .inl ⟨_, left.tickets + 1, rfl, Nat.le_succ _, ?_⟩
            rw [Exchange.withdrawn_eq free fresh]
            rfl
          · cases begun
            refine .inr ⟨⟨left.tickets, .request left.counter.draw.1, timeout,
              left.now + timeout.nanos⟩, rfl, rfl, rfl, ?_⟩
            refine Books.ext (funext fun id => ?_) rfl (funext fun ticket => ?_) rfl rfl rfl rfl rfl
            · dsimp only
              rw [Function.update_apply]
              exact Pending.find?_register ..
            · dsimp only
              rw [Function.update_apply]
              exact Exchange.receipt?_register ticket free fresh

end Unattended

theorem attend_queue {place left : Awaited (List α)} {ticket : Ticket} {found : Option α}
    (attended : place.attend ticket = (found, left)) : place.queue = found.toList ++ left.queue := by
  obtain ⟨queue, bell⟩ := place
  cases queue with
  | cons item rest =>
    simp only [Awaited.attend, Awaited.look, Queue.pop] at attended
    cases attended
    rfl
  | nil =>
    cases permit : bell.permit <;>
      simp only [Awaited.attend, Awaited.look, Awaited.park, Bell.park, Queue.pop, permit] at attended
    · cases attended
      rfl
    · cases attended
      rfl

theorem books_beginReceive {timeout : Duration} {connection after : Connection σ α}
    {outcome : Option (Outcome α)} (begun : connection.beginReceive timeout = (outcome, after)) :
    let before := connection.books given
    (∃ body rest, outcome = some (.ok body) ∧ before.queue = body :: rest ∧
      after.books given = { before with queue := rest, tickets := before.tickets + 1 }) ∨
    (∃ call : Call, outcome = none ∧ call.ticket = before.tickets ∧ call.purpose = .receive ∧
      after.books given = { before with
        calls := before.calls ++ [call], tickets := before.tickets + 1 }) := by
  unfold beginReceive at begun
  cases attended : connection.exchange.inbox.attend connection.tickets with
  | mk found inbox =>
    have queue := attend_queue attended
    rw [attended] at begun
    cases found with
    | some body =>
      cases begun
      exact .inl ⟨body, inbox.queue, rfl, queue, rfl⟩
    | none =>
      cases begun
      refine .inr ⟨⟨connection.tickets, .receive, timeout, connection.now + timeout.nanos⟩,
        rfl, rfl, rfl, ?_⟩
      exact Books.ext rfl rfl rfl queue.symm rfl rfl rfl rfl

theorem books_release (ticket : Ticket) (connection : Connection σ α) :
    Connection.books given { connection with exchange := connection.exchange.release ticket } =
      { connection.books given with
        receipt := Function.update (connection.books given).receipt ticket none } := by
  refine Books.ext rfl rfl (funext fun other => ?_) rfl rfl rfl rfl rfl
  dsimp only
  rw [Function.update_apply]
  exact Exchange.receipt?_release ..

theorem books_attend_receive {call : Call} {connection after : Connection σ α}
    {outcome : Option (Outcome α)} (purpose : call.purpose = .receive)
    (attended : connection.attend call = (outcome, after)) :
    let before := connection.books given
    (outcome = none ∧ after.books given = before) ∨
    (∃ body rest, outcome = some (.ok body) ∧ before.queue = body :: rest ∧
      after.books given = { before with queue := rest }) := by
  simp only [attend, purpose] at attended
  split at attended
  · cases woken : connection.exchange.inbox.wake call.ticket with
    | mk found inbox =>
      have queue := attend_queue woken
      rw [woken] at attended
      cases found with
      | none =>
        cases attended
        exact .inl ⟨rfl, Books.ext rfl rfl rfl queue.symm rfl rfl rfl rfl⟩
      | some body =>
        cases attended
        exact .inr ⟨body, inbox.queue, rfl, queue, rfl⟩
  · cases attended
    exact .inl ⟨rfl, rfl⟩

theorem books_attend_request {call : Call} {id : Correlation} {connection after : Connection σ α}
    {outcome : Option (Outcome α)} (purpose : call.purpose = .request id)
    (attended : connection.attend call = (outcome, after)) :
    let before := connection.books given
    let left := { before with receipt := Function.update before.receipt call.ticket none }
    (before.receipt call.ticket = some .pending ∧ outcome = none ∧ after.books given = before) ∨
    (∃ body, before.receipt call.ticket = some (.answered body) ∧ outcome = some (.ok body) ∧
      after.books given = left) ∨
    (before.receipt call.ticket ≠ some .pending ∧ outcome = some (.error .connectionClosed) ∧
      after.books given = left) := by
  have released := books_release given call.ticket connection
  simp only [attend, purpose] at attended
  dsimp only [books] at released ⊢
  cases receipt : connection.exchange.receipt? call.ticket with
  | none =>
    rw [receipt] at attended
    cases attended
    exact .inr (.inr ⟨by simp, rfl, released⟩)
  | some receipt' =>
    rw [receipt] at attended
    cases receipt' with
    | pending =>
      cases attended
      exact .inl ⟨rfl, rfl, rfl⟩
    | answered body =>
      cases attended
      exact .inr (.inl ⟨body, rfl, rfl, released⟩)
    | closed =>
      cases attended
      exact .inr (.inr ⟨by simp, rfl, released⟩)

theorem call?_some {connection : Connection σ α} {ticket : Ticket} {call : Call}
    (found : connection.call? ticket = some call) :
    call ∈ connection.calls ∧ call.ticket = ticket :=
  ⟨List.mem_of_find?_eq_some found, by simpa using List.find?_some found⟩

theorem books_remove (ticket : Ticket) (connection : Connection σ α) :
    (connection.remove ticket).books given =
      { connection.books given with calls := (connection.books given).without ticket } := rfl

theorem books_quit_receive {call : Call} (purpose : call.purpose = .receive)
    (connection : Connection σ α) :
    (connection.quit call).books given = connection.books given := by
  simp only [quit, purpose]
  rfl

theorem books_quit_request {call : Call} {id : Correlation} (purpose : call.purpose = .request id)
    (connection : Connection σ α) :
    (connection.quit call).books given = { connection.books given with
      receipt := Function.update (connection.books given).receipt call.ticket none } := by
  simp only [quit, purpose]
  exact books_release given call.ticket connection

theorem books_retire {call : Call} {id : Correlation} (purpose : call.purpose = .request id)
    (connection : Connection σ α)
    (owned : connection.exchange.pending.find? id = some call.ticket) :
    let before := connection.books given
    ((connection.quit call).retire call).books given = { before with
      owner := Function.update before.owner id none
      expired := (if before.expired.length = Pending.expiredCapacity then before.expired.drop 1
        else before.expired) ++ [id]
      receipt := Function.update before.receipt call.ticket none } := by
  have still : (connection.exchange.release call.ticket).pending.find? id = some call.ticket := owned
  have pending : ((connection.exchange.release call.ticket).expire id).pending =
      connection.exchange.pending.expire id := rfl
  rw [Pending.expire_of_found owned] at pending
  have receipt : ∀ ticket, ((connection.exchange.release call.ticket).expire id).receipt? ticket =
      Function.update (connection.books given).receipt call.ticket none ticket := by
    intro ticket
    simp only [Exchange.expire, still, Option.toList_some]
    change ((connection.exchange.release call.ticket).close [call.ticket]).receipt? ticket = _
    rw [Exchange.receipt?_close, Exchange.receipt?_release, Function.update_apply]
    split
    · rfl
    next apart =>
      cases seen : connection.exchange.receipt? ticket with
      | none => exact seen.symm
      | some receipt =>
        rw [Option.map_some, Exchange.shutting_of_not_mem (by simpa using apart)]
        exact seen.symm
  simp only [quit, retire, purpose]
  refine Books.ext (funext fun other => ?_) ?_ (funext receipt) rfl rfl rfl rfl rfl
  · dsimp only
    rw [Function.update_apply]
    change ((connection.exchange.release call.ticket).expire id).pending.find? other = _
    rw [pending]
    exact Pending.find?_erase ..
  · change ((connection.exchange.release call.ticket).expire id).pending.expired = _
    rw [pending]
    rfl

theorem books_erase (id : Correlation) (connection : Connection σ α) :
    Connection.books given { connection with
      exchange := { connection.exchange with pending := connection.exchange.pending.erase id } } =
    { connection.books given with
      owner := Function.update (connection.books given).owner id none } := by
  refine Books.ext (funext fun other => ?_) rfl rfl rfl rfl rfl rfl rfl
  dsimp only
  rw [Function.update_apply]
  exact Pending.find?_erase ..

theorem books_hand (id : Correlation) {ticket : Ticket} (receipt : Receipt α)
    {connection : Connection σ α} (held : (connection.exchange.receipt? ticket).isSome = true) :
    Connection.books given { connection with
      exchange := Exchange.write ticket receipt { connection.exchange with
        pending := connection.exchange.pending.erase id } } =
    { connection.books given with
      owner := Function.update (connection.books given).owner id none
      receipt := Function.update (connection.books given).receipt ticket (some receipt) } := by
  refine Books.ext (funext fun other => ?_) rfl (funext fun other => ?_) rfl rfl rfl rfl rfl
  · dsimp only
    rw [Function.update_apply]
    exact Pending.find?_erase ..
  · dsimp only
    rw [Function.update_apply]
    refine (Exchange.receipt?_write ..).trans ?_
    split
    next same =>
      obtain ⟨old, found⟩ := Option.isSome_iff_exists.mp held
      change (connection.exchange.receipt? other).map _ = _
      rw [same, found]
      rfl
    next => rfl

theorem entry_deliver [Wire α] (data : Bytes) (connection : Connection σ α) :
    match (Frame.decode data connection.limit : Except FrameError (Frame α)) with
    | .error _ => (connection.deliver data).books given = connection.books given
    | .ok ⟨id, body⟩ =>
      Entry (connection.books given) [.frame id body] ((connection.deliver data).books given) := by
  unfold deliver
  cases (Frame.decode data connection.limit : Except FrameError (Frame α)) with
  | error fault => rfl
  | ok frame =>
    obtain ⟨id, body⟩ := frame
    dsimp only
    cases numbered : id.isSome with
    | false => exact .queues id body (by simp [numbered])
    | true =>
      simp only [if_true, Exchange.resolve]
      cases owned : connection.exchange.pending.find? id with
      | some ticket =>
        -- The number is free again before the receipt is looked at.
        have kept : Exchange.receipt? ticket { connection.exchange with
            pending := connection.exchange.pending.erase id } =
          connection.exchange.receipt? ticket := rfl
        cases held : connection.exchange.receipt? ticket with
        | some receipt =>
          have present : (connection.exchange.receipt? ticket).isSome = true := by
            rw [held]
            rfl
          have handed := books_hand given id (.answered body) present
          simp only [kept, held]
          exact handed ▸ Entry.hands id body ticket owned present
        | none =>
          have erased := books_erase given id connection
          simp only [kept, held]
          exact erased ▸ Entry.drops id body ticket owned held
      | none =>
        by_cases member : id ∈ connection.exchange.pending.expired
        · simp only [Pending.recognise, if_pos member]
          exact .forgets id body owned member
        · simp only [Pending.recognise, if_neg member]
          exact .queues id body fun _ => ⟨owned, member⟩

theorem entry_closed (reason : Option String) (connection : Connection σ α) :
    Entry (connection.books given) [.shut] ((connection.closed reason).books given) := by
  have all : ∀ id ticket, connection.exchange.pending.find? id = some ticket →
      ticket ∈ connection.exchange.pending.live.map (·.2) := by
    intro id ticket found
    obtain ⟨entry, there, rfl⟩ := Option.map_eq_some_iff.mp found
    exact List.mem_map_of_mem (List.mem_of_find?_eq_some there)
  have same : (connection.closed reason).books given = { connection.books given with
      owner := fun _ => none
      expired := []
      receipt := fun ticket => ((connection.books given).receipt ticket).map
        (Exchange.shutting (connection.exchange.pending.live.map (·.2)) ticket) } :=
    Books.ext rfl rfl (funext fun ticket => Exchange.receipt?_close ..) rfl rfl rfl rfl rfl
  exact same ▸ Entry.shuts _ all

namespace Life

@[simp] theorem books_finish_none (life : Life σ α) (ticket : Ticket) (after : Connection σ α) :
    (life.finish ticket (none, after)).books = after.books life.given := by
  simp [Life.books, finish, Life.given]

@[simp] theorem books_finish_error (life : Life σ α) (ticket : Ticket) (fault : Error)
    (after : Connection σ α) :
    (life.finish ticket (some (.error fault), after)).books = after.books life.given := by
  simp [Life.books, finish, Life.given]

@[simp] theorem books_finish_ok (life : Life σ α) (ticket : Ticket) (body : α)
    (after : Connection σ α) :
    (life.finish ticket (some (.ok body), after)).books =
      { after.books life.given with given := life.given ++ [(ticket, body)] } := by
  simp [Life.books, finish, Life.given, Connection.books]

variable [Transport σ] [Wire α] [Wire β] (life : Life σ α)

theorem entry_sends (body : β) :
    Entry life.books (life.notes (.sends body)) (life.step (.sends body)).books := by
  have sent := books_send life.given body life.connection
  simp only [step, notes, Life.books]
  change Entry _ _ ((life.connection.send body).2.books life.given)
  rw [sent]
  split
  · split
    · exact .draws _ life.connection.tickets (.inl rfl) (Nat.le_refl _)
    · exact .draws _ life.connection.tickets (.inr rfl) (Nat.le_refl _)
  · exact .rests

theorem entry_requests (kept : Kept life.books) (body : β) (timeout : Duration) :
    Entry life.books (life.notes (.requests body timeout))
      (life.step (.requests body timeout)).books := by
  cases begun : life.connection.beginRequest body timeout with
  | mk outcome after =>
    have came := books_beginRequest life.given kept begun
    simp only [step, notes, begun]
    split at came
    next ready =>
      rw [if_pos ready]
      obtain ⟨fault, tickets, rfl, later, same⟩ | ⟨call, rfl, ticket, purpose, same⟩ := came
      · rw [books_finish_error, same]
        exact .draws _ tickets (.inr rfl) later
      · rw [books_finish_none, same]
        exact .requests call ticket purpose
    next other =>
      rw [if_neg other]
      obtain ⟨⟨fault, rfl⟩, same⟩ := came
      rw [books_finish_error, same]
      exact .rests

theorem entry_receives (timeout : Duration) :
    Entry life.books (life.notes (.receives timeout : Deed σ β))
      (life.step (.receives timeout : Deed σ β)).books := by
  cases begun : life.connection.beginReceive timeout with
  | mk outcome after =>
    have came := books_beginReceive life.given begun
    simp only [step, notes, begun]
    obtain ⟨body, rest, rfl, queue, same⟩ | ⟨call, rfl, ticket, purpose, same⟩ := came
    · rw [books_finish_ok, same]
      exact .picks body rest queue
    · rw [books_finish_none, same]
      exact .waits call ticket purpose

theorem entry_attends (ticket : Ticket) :
    Entry life.books (life.notes (.attends ticket : Deed σ β))
      (life.step (.attends ticket : Deed σ β)).books := by
  simp only [step, notes]
  cases found : life.connection.call? ticket with
  | none => exact .rests
  | some call =>
    obtain ⟨member, rfl⟩ := call?_some found
    cases attended : life.connection.attend call with
    | mk outcome after =>
      simp only [attended]
      cases purpose : call.purpose with
      | receive =>
        have came := books_attend_receive life.given purpose attended
        obtain ⟨rfl, same⟩ | ⟨body, rest, rfl, queue, same⟩ := came
        · change Entry _ _ (after.books life.given)
          rw [same]
          exact .rests
        · simp only [books_finish_ok, books_remove, same]
          exact .receives call body rest member purpose queue
      | request id =>
        have came := books_attend_request life.given purpose attended
        obtain ⟨_, rfl, same⟩ | ⟨body, answered, rfl, same⟩ | ⟨ended, rfl, same⟩ := came
        · change Entry _ _ (after.books life.given)
          rw [same]
          exact .rests
        · simp only [books_finish_ok, books_remove, same]
          exact .returns call id body member purpose answered
        · simp only [books_finish_error, books_remove, same]
          exact .fails call id member purpose ended

theorem entry_cancels (ticket : Ticket) :
    Entry life.books (life.notes (.cancels ticket : Deed σ β))
      (life.step (.cancels ticket : Deed σ β)).books := by
  simp only [step, notes, cancel]
  cases found : life.connection.call? ticket with
  | none => exact .rests
  | some call =>
    obtain ⟨member, rfl⟩ := call?_some found
    change Entry _ _ (((life.connection.quit call).remove call.ticket).books life.given)
    rw [books_remove]
    cases purpose : call.purpose with
    | receive =>
      rw [books_quit_receive life.given purpose]
      simp only [purpose]
      have entry : Entry life.books _ _ := .quits call life.books.queue member purpose (.inl rfl)
      exact entry
    | request id =>
      rw [books_quit_request life.given purpose]
      simp only [purpose]
      have entry : Entry life.books _ _ := .cancels call id member purpose
      exact entry

theorem entry_lapses (kept : Kept life.books) (ticket : Ticket) :
    Entry life.books (life.notes (.lapses ticket : Deed σ β))
      (life.step (.lapses ticket : Deed σ β)).books := by
  simp only [step, notes]
  cases found : life.connection.call? ticket with
  | none => exact .rests
  | some call =>
    obtain ⟨member, rfl⟩ := call?_some found
    dsimp only
    split
    · exact .rests
    cases attended : life.connection.attend call with
    | mk outcome after =>
      simp only [lapse, attended]
      cases purpose : call.purpose with
      | receive =>
        have came := books_attend_receive life.given purpose attended
        obtain ⟨rfl, same⟩ | ⟨body, rest, rfl, queue, same⟩ := came
        · obtain ⟨queue, left, handled⟩ := books_handleTimeout life.given call.timeout
            ((after.quit call).retire call)
          have quiet := books_quit_receive life.given purpose after
          have retired : (after.quit call).retire call = after.quit call := by
            simp only [retire, purpose]
          rw [retired, quiet, same] at left
          rw [retired] at handled
          simp only [retired, books_finish_error, books_remove, handled, quiet, same]
          have entry : Entry life.books _ _ := .quits call queue member purpose left
          exact entry
        · simp only [books_finish_ok, books_remove, same]
          exact .receives call body rest member purpose queue
      | request id =>
        have came := books_attend_request life.given purpose attended
        obtain ⟨pending, rfl, same⟩ | ⟨body, answered, rfl, same⟩ | ⟨ended, rfl, same⟩ := came
        · obtain ⟨queue, left, handled⟩ := books_handleTimeout life.given call.timeout
            ((after.quit call).retire call)
          have owned : after.exchange.pending.find? id = some call.ticket :=
            (congrFun (congrArg Books.owner same) id).trans (kept.owned call member id purpose pending)
          have retired := books_retire life.given purpose after owned
          simp only [same] at retired
          rw [retired] at left
          simp only [books_finish_error, books_remove, handled, retired]
          have entry : Entry life.books _ _ :=
            .timesOut call id queue member purpose pending left
          exact entry
        · simp only [books_finish_ok, books_remove, same]
          exact .returns call id body member purpose answered
        · simp only [books_finish_error, books_remove, same]
          exact .fails call id member purpose ended

theorem entry_pumps :
    Entry life.books (life.notes (.pumps : Deed σ β)) (life.step (.pumps : Deed σ β)).books := by
  simp only [step, notes]
  cases heard : life.connection.pump with
  | none => exact .rests
  | some pump =>
    obtain ⟨channel, events⟩ := pump
    cases events with
    | nil => exact .rests
    | cons event events =>
      cases event with
      | opened => exact .rests
      | closed reason =>
        exact entry_closed life.given reason
          { life.connection with pump := some ⟨channel, events⟩ }
      | message data =>
        have came := entry_deliver life.given data
          { life.connection with pump := some ⟨channel, events⟩ }
        change match (Frame.decode data life.connection.limit : Except FrameError (Frame α)) with
          | .error _ => _
          | .ok ⟨id, body⟩ => _ at came
        dsimp only
        cases decoded : (Frame.decode data life.connection.limit : Except FrameError (Frame α)) with
        | error fault =>
          rw [decoded] at came
          change Entry _ _ (Connection.books life.given (Connection.deliver data
            { life.connection with pump := some ⟨channel, events⟩ }))
          exact came ▸ Entry.rests
        | ok frame =>
          rw [decoded] at came
          exact came

/-- Every deed is an entry in the books. -/
theorem entry (kept : Kept life.books) (deed : Deed σ β) :
    Entry life.books (life.notes deed) (life.step deed).books := by
  cases deed with
  | dials url verbose =>
    simp only [step, notes]
    split
    · have same : _ = life.books := books_dial life.given url verbose life.connection
      exact same ▸ Entry.rests
    · exact .rests
  | concludes url =>
    have same : _ = life.books := books_conclude life.given url life.connection
    exact same ▸ Entry.rests
  | disconnects =>
    have same : _ = life.books := books_disconnect life.given life.connection
    exact same ▸ Entry.rests
  | sends body => exact entry_sends life body
  | receives timeout => exact entry_receives life timeout
  | requests body timeout => exact entry_requests life kept body timeout
  | attends ticket => exact entry_attends life ticket
  | cancels ticket => exact entry_cancels life ticket
  | lapses ticket => exact entry_lapses life kept ticket
  | pumps => exact entry_pumps life
  | stirs transport reports log =>
    have same : _ = life.books := books_hear life.given reports { life.connection with transport }
    exact same ▸ Entry.rests
  | passes span => exact .rests

end Life

end FrameLink.Link.Connection
