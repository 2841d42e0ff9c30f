import FrameLink.Host.Server.Requests
import FrameLink.Proofs.Host.Turns
import FrameLink.Proofs.Wait.Records
/-!
Who gets the requests of a host. Every request that is queued is handed out once, dropped once or still
there; calls that wait are served in turn; and a call that gets none fails at its deadline.
-/

namespace FrameLink.Host.Server.Requests

open Wait

variable {α β : Type}

/-! ## The queue with its waiting calls -/

inductive Way where
  | pick (target : Option ClientId)
  | purge (client : ClientId)

instance : Withdrawal Way (Queues α) (Envelope α) where
  withdraw
    | .pick target, queues => ((queues.take target).1.toList, (queues.take target).2)
    | .purge client, queues => ((queues.ofClient client).map (·.2), (queues.purge client).2)

theorem perm_eraseP (line : Line α) (chosen : Envelope α → Bool) :
    ((line.find? chosen).toList ++ line.eraseP chosen).Perm line := by
  induction line with
  | nil => exact .nil
  | cons envelope rest ih =>
    by_cases first : chosen envelope = true
    · rw [List.find?_cons_of_pos first, List.eraseP_cons_of_pos first]
      exact .refl _
    · rw [List.find?_cons_of_neg first, List.eraseP_cons_of_neg first]
      exact List.perm_middle.trans (ih.cons envelope)

theorem perm_without (line : Line α) (client : ClientId) :
    ((line.filter fun envelope => envelope.client == client) ++ line.without client).Perm line :=
  List.filter_append_perm _ line

instance : LawfulWithdrawal Way (Queues α) where
  sound_withdraw way _ sound := by
    cases way with
    | pick target => exact Queues.Sound.take sound target
    | purge client => exact Queues.Sound.purge sound client
  withdraw_perm way queues sound := by
    cases way with
    | pick target =>
      change ((queues.take target).1.toList ++ (queues.take target).2.messages).Perm queues.messages
      rw [Queues.Sound.take_eq sound, Queues.Sound.messages_take sound]
      exact perm_eraseP _ _
    | purge client =>
      change ((queues.ofClient client).map (·.2) ++ (queues.purge client).2.messages).Perm
        queues.messages
      rw [Queues.Sound.ofClient_eq sound, Queues.Sound.messages_purge sound]
      exact perm_without _ client

/-- The requests of a server, with the calls that wait for them. -/
def toReception (server : Server α β) : Reception (Queues α) :=
  ⟨server.exchange.requests, server.deadlines, server.tickets, server.now⟩

def Move.toReception : Move α → Reception.Move Way (Envelope α)
  | .queues envelope => .pushes envelope
  | .picks target => .withdraws (.pick target)
  | .purges client => .withdraws (.purge client)
  | .begins timeout => .begins timeout
  | .looks => .looks
  | .cancels ticket => .cancels ticket
  | .passes span => .passes span

def Note.toEvent : Note α → Reception.Event (Envelope α)
  | .queued envelope => .pushed envelope
  | .picked _ found => .withdrawn found.toList
  | .purged _ dropped => .withdrawn dropped
  | .begun ticket timeout moment => .begun ⟨ticket, moment + timeout.nanos⟩
  | .waited ticket => .waited ticket
  | .ended ticket (.taken (.ok request)) _ => .returned ticket request
  | .ended ticket _ moment => .expired ticket moment
  | .cancelled ticket => .cancelled ticket

theorem deadlines_remove (ticket : Ticket) (server : Server α β) :
    (server.remove ticket).deadlines =
      server.deadlines.filter fun deadline => deadline.ticket != ticket := by
  rw [deadlines, deadlines, List.filter_map]
  rfl

theorem quit_toReception (ticket : Ticket) (server : Server α β) :
    toReception (server.quit ticket) = (toReception server).quit ticket := by
  change Reception.mk _ (Server.deadlines (Server.remove ticket { server with
    exchange.requests := server.exchange.requests.leave ticket })) _ _ = _
  rw [deadlines_remove]
  rfl

theorem call?_of_mem {server : Server α β} {deadline : Deadline}
    (here : deadline ∈ server.deadlines) :
    ∃ call ∈ server.calls, server.call? deadline.ticket = some call ∧
      call.ticket = deadline.ticket := by
  obtain ⟨call, member, rfl⟩ := List.mem_map.mp here
  have some : (server.call? call.ticket).isSome := by
    rw [call?, List.find?_isSome]
    exact ⟨call, member, beq_self_eq_true call.ticket⟩
  obtain ⟨found, same⟩ := Option.isSome_iff_exists.mp some
  exact ⟨found, List.mem_of_find?_eq_some same, same, eq_of_beq (List.find?_some same :)⟩

theorem any_deadlines (ticket : Ticket) (server : Server α β) :
    (server.deadlines.any fun deadline => deadline.ticket == ticket) =
      (server.call? ticket).isSome := by
  rw [deadlines, List.any_map, call?, List.isSome_find?]
  rfl

def park (requests : Awaited (Queues α)) (timeout : Duration) (server : Server α β) : Server α β :=
  { server with
    exchange.requests := requests
    calls := server.calls ++ [⟨server.tickets, .take, timeout, server.now + timeout.nanos⟩]
    tickets := server.tickets + 1 }

theorem deadlines_park (requests : Awaited (Queues α)) (timeout : Duration) (server : Server α β) :
    (park requests timeout server).deadlines =
      server.deadlines ++ [⟨server.tickets, server.now + timeout.nanos⟩] := List.map_append

theorem toReception_park (requests : Awaited (Queues α)) (timeout : Duration)
    (server : Server α β) :
    toReception (park requests timeout server) =
      { place := requests
        calls := server.deadlines ++ [⟨server.tickets, server.now + timeout.nanos⟩]
        tickets := server.tickets + 1
        now := server.now } := by
  rw [toReception, deadlines_park]
  rfl

theorem OnlyTakes.park {server : Server α β} (takes : server.OnlyTakes)
    (requests : Awaited (Queues α)) (timeout : Duration) :
    (Requests.park requests timeout server).OnlyTakes := by
  intro call here
  rcases List.mem_append.mp here with old | new
  · exact takes call old
  · rw [List.mem_singleton.mp new]

theorem park_does {server : Server α β} {requests : Awaited (Queues α)}
    (attends : Awaited.Attends server.tickets server.exchange.requests none requests)
    (timeout : Duration) :
    Reception.Does Way (toReception server)
      [.begun ⟨server.tickets, server.now + timeout.nanos⟩, .waited server.tickets]
      (toReception (park requests timeout server)) := by
  rw [toReception_park]
  cases attends with
  | parks sound nothing still => exact .waits rfl (Nat.le_add_right ..) sound still nothing

section Served

variable [Wire β]

theorem lapse_idle {server : Server α β} {call : Call α β} (take : call.purpose = .take)
    (idle : call.ticket ∉ server.exchange.requests.bell.woken) :
    server.lapse call =
      (.taken (.error (.requestTimeout call.timeout)), server.quit call.ticket) := by
  rw [lapse, attend, if_neg idle, take]
  rfl

theorem expire_toReception {due : List Deadline} {server : Server α β} (takes : server.OnlyTakes)
    (here : ∀ deadline ∈ due, deadline ∈ server.deadlines)
    (idle : ∀ deadline ∈ due, deadline.ticket ∉ server.exchange.requests.bell.woken)
    (distinct : (due.map (·.ticket)).Nodup) :
    Reception.expire due (toReception server) =
      ((expire due server).1.map Note.toEvent, toReception (expire due server).2) := by
  induction due generalizing server with
  | nil => rfl
  | cons deadline rest ih =>
    obtain ⟨absent, distinct⟩ := List.nodup_cons.mp distinct
    obtain ⟨call, member, found, same⟩ := call?_of_mem (here deadline List.mem_cons_self)
    have unwoken := idle deadline List.mem_cons_self
    have apart : ∀ other ∈ rest, other.ticket ≠ deadline.ticket := fun other later same =>
      absent (List.mem_map.mpr ⟨other, later, same⟩)
    have still : ((server.quit call.ticket).exchange.requests.bell.woken) =
        server.exchange.requests.bell.woken := by
      change (Bell.leave call.ticket server.exchange.requests.bell).woken = _
      rw [Bell.leave, if_neg (same ▸ unwoken)]
    have left := @ih (server.quit call.ticket)
      (fun other later => takes other (List.mem_of_mem_filter later))
      (fun other later => by
        change other ∈ Server.deadlines (Server.remove call.ticket { server with
          exchange.requests := server.exchange.requests.leave call.ticket })
        rw [deadlines_remove]
        refine List.mem_filter.mpr ⟨here other (List.mem_cons_of_mem _ later), ?_⟩
        exact bne_iff_ne.mpr (same ▸ apart other later))
      (fun other later => still ▸ idle other (List.mem_cons_of_mem _ later)) distinct
    rw [expire, found, Reception.expire, ← same, ← quit_toReception, left]
    simp only [lapse_idle (takes call member) (same ▸ unwoken)]
    rfl

theorem lapseDue_toReception {past : List (Reception.Event (Envelope α))} {server : Server α β}
    (takes : server.OnlyTakes) (booked : Reception.Booked past (toReception server))
    (idle : ∀ deadline ∈ server.deadlines, deadline.instant ≤ server.now →
      deadline.ticket ∉ server.exchange.requests.bell.woken) :
    (toReception server).lapse =
      ((lapseDue server).1.map Note.toEvent, toReception (lapseDue server).2) := by
  refine expire_toReception takes ?_ ?_ (booked.nodup_passing server.now)
  · exact fun deadline due => (Reception.mem_passing.mp due).1
  · intro deadline due
    obtain ⟨here, late⟩ := Reception.mem_passing.mp due
    exact idle deadline here late

theorem begins_toReception {past : List (Reception.Event (Envelope α))} {server : Server α β}
    (takes : server.OnlyTakes) (kept : Reception.Kept past (toReception server))
    (later : ∀ deadline ∈ server.deadlines, server.now < deadline.instant) (timeout : Duration) :
    (toReception server).step? (.begins timeout : Reception.Move Way (Envelope α)) =
      (step? server (.begins timeout)).map fun done =>
        (done.1.map Note.toEvent, toReception done.2) := by
  have attends := Awaited.attend_attends server.tickets kept.sound
  change Awaited.Attends _ server.exchange.requests (server.exchange.requests.attend _).1
    (server.exchange.requests.attend _).2 at attends
  rw [Reception.step?, step?]
  unfold begin
  dsimp only [toReception]
  rcases attended : server.exchange.requests.attend server.tickets with ⟨_ | request, requests⟩
  · rw [attended] at attends
    have waiting := (park_does attends timeout).proceeds.kept kept
    have lapsed := lapseDue_toReception (OnlyTakes.park takes requests timeout) waiting.toBooked ?_
    · dsimp only
      rw [← toReception_park, lapsed]
      rfl
    · intro deadline here due
      rw [deadlines_park] at here
      rcases List.mem_append.mp here with old | new
      · exact absurd due (not_le.mpr (later deadline old))
      · rw [List.mem_singleton.mp new]
        intro woken
        cases attends with
        | parks sound nothing still =>
          exact kept.toBooked.fresh.1 (List.mem_append_left _ woken)
  · rfl

theorem looks_toReception {past : List (Reception.Event (Envelope α))} {server : Server α β}
    (takes : server.OnlyTakes) (kept : Reception.Kept past (toReception server)) :
    (toReception server).step? (.looks : Reception.Move Way (Envelope α)) =
      (step? server .looks).map fun done => (done.1.map Note.toEvent, toReception done.2) := by
  rw [Reception.step?, step?]
  dsimp only [toReception]
  cases woken : server.exchange.requests.bell.woken with
  | nil => rfl
  | cons ticket rest =>
    have first : ticket ∈ server.exchange.requests.bell.woken := woken ▸ List.mem_cons_self
    have listed : ticket ∈ server.deadlines.map (·.ticket) :=
      kept.standing.mem_iff.mpr (List.mem_append_left _ first)
    obtain ⟨deadline, here, rfl⟩ := List.mem_map.mp listed
    obtain ⟨call, member, found, same⟩ := call?_of_mem here
    dsimp only
    rw [found]
    dsimp only
    rw [attend, same, if_pos first, takes call member]
    rcases server.exchange.requests.wake deadline.ticket with ⟨_ | request, requests⟩
    · rfl
    · simp only [complete, Option.map_some]
      rw [deadlines_remove]
      rfl

/-- The server as the queue with its waiting calls that it is. -/
theorem step?_toReception {past : List (Reception.Event (Envelope α))} {server : Server α β}
    (takes : server.OnlyTakes) (kept : Reception.Kept past (toReception server))
    (later : ∀ deadline ∈ server.deadlines, server.now < deadline.instant) (move : Move α) :
    (toReception server).step? move.toReception =
      (step? server move).map fun done => (done.1.map Note.toEvent, toReception done.2) := by
  cases move with
  | queues envelope => rfl
  | picks target => rfl
  | purges client => rfl
  | begins timeout => exact begins_toReception takes kept later timeout
  | looks => exact looks_toReception takes kept
  | cancels ticket =>
    change Reception.step? _ (.cancels ticket) = _
    have listed := any_deadlines ticket server
    rw [Reception.step?, step?, cancel]
    cases found : server.call? ticket with
    | none =>
      rw [found] at listed
      exact if_neg (Bool.not_eq_true _ ▸ listed)
    | some call =>
      rw [found] at listed
      exact (if_pos listed).trans
        (congrArg (fun left => some (_, left)) (quit_toReception ticket server).symm)
  | passes span =>
    change Reception.step? _ (.passes span) = _
    rw [Reception.step?, step?]
    dsimp only [toReception]
    cases settled : server.exchange.requests.bell.woken with
    | cons ticket rest => rfl
    | nil =>
      have booked : Reception.Booked past (toReception { server with
          now := nextMoment (server.now + span.nanos) server }) :=
        ⟨kept.standing, kept.nodup, kept.below, kept.once, kept.gone⟩
      have lapsed := lapseDue_toReception (by exact takes) booked (by simp [settled])
      exact congrArg some lapsed

end Served

/-! ## What a history says of the requests -/

/-- What is queued after a note, where `line` was before. -/
def Note.replay (line : Line α) : Note α → Line α
  | .queued envelope => line ++ [envelope]
  | .picked target _ => line.eraseP fun envelope => envelope.isFor target
  | .purged client _ => line.without client
  | .ended _ (.taken (.ok _)) _ => line.tail
  | _ => line

/-- A request is handed out as the oldest that is queued, of the client asked for if one is, and a client
that leaves takes all that it has queued along. -/
def Note.Fits (line : Line α) : Note α → Prop
  | .picked target found => found = line.find? fun envelope => envelope.isFor target
  | .purged client dropped => dropped = line.filter fun envelope => envelope.client == client
  | .ended _ (.taken (.ok request)) _ => line.head? = some request
  | _ => True

def Fits : Line α → List (Note α) → Prop
  | _, [] => True
  | line, note :: rest => note.Fits line ∧ Fits (note.replay line) rest

def replay (past : List (Note α)) : Line α := past.foldl Note.replay []

def Note.came : Note α → Line α
  | .queued envelope => [envelope]
  | _ => []

/-- The request that was handed out, to a call that waited or at once. -/
def Note.handed : Note α → Line α
  | .picked _ found => found.toList
  | .ended _ (.taken (.ok request)) _ => [request]
  | _ => []

def Note.lost : Note α → Line α
  | .purged _ dropped => dropped
  | _ => []

def queued (past : List (Note α)) : Line α := past.flatMap Note.came

def handedOut (past : List (Note α)) : Line α := past.flatMap Note.handed

def dropped (past : List (Note α)) : Line α := past.flatMap Note.lost

theorem fits_append {line : Line α} {past notes : List (Note α)} :
    Fits line (past ++ notes) ↔ Fits line past ∧ Fits (past.foldl Note.replay line) notes := by
  induction past generalizing line with
  | nil => exact ⟨fun fits => ⟨trivial, fits⟩, And.right⟩
  | cons note past ih =>
    rw [List.cons_append, Fits, Fits, ih, and_assoc]
    rfl

theorem Fits.at {past before after : List (Note α)} {note : Note α} (fits : Fits [] past)
    (split : past = before ++ note :: after) : note.Fits (replay before) := by
  rw [split] at fits
  exact (fits_append.mp fits).2.1

theorem Note.Fits.perm {line : Line α} {note : Note α} (fits : note.Fits line) :
    (line ++ note.came).Perm (note.handed ++ (note.lost ++ note.replay line)) := by
  cases note with
  | queued envelope => exact .refl _
  | picked target found =>
    cases (show found = _ from fits)
    refine (List.Perm.of_eq (List.append_nil line)).trans ?_
    exact (perm_eraseP line _).symm
  | purged client dropped =>
    cases (show dropped = _ from fits)
    refine (List.Perm.of_eq (List.append_nil line)).trans ?_
    exact (perm_without line client).symm
  | begun | waited | cancelled => exact .of_eq (List.append_nil line)
  | ended ticket outcome moment =>
    refine (List.Perm.of_eq (List.append_nil line)).trans ?_
    cases outcome with
    | answered outcome => exact .refl line
    | taken outcome =>
      cases outcome with
      | error fault => exact .refl line
      | ok request =>
        obtain ⟨rest, rfl⟩ := List.head?_eq_some_iff.mp fits
        exact .refl _

/-- What was queued and what came was handed out, was dropped, or is queued still. -/
theorem Fits.perm {line : Line α} {notes : List (Note α)} (fits : Fits line notes) :
    (line ++ queued notes).Perm
      (handedOut notes ++ (dropped notes ++ notes.foldl Note.replay line)) := by
  induction notes generalizing line with
  | nil => exact .of_eq (List.append_nil line)
  | cons note rest ih =>
    obtain ⟨first, later⟩ := fits
    rw [queued, handedOut, dropped, List.flatMap_cons, List.flatMap_cons, List.flatMap_cons,
      List.foldl_cons, ← queued, ← handedOut, ← dropped, ← List.append_assoc]
    refine (first.perm.append_right (queued rest)).trans ?_
    simp only [List.append_assoc]
    refine List.Perm.append_left _ ?_
    exact ((ih later).append_left _).trans (List.perm_append_comm_assoc ..)

/-! ## Steps -/

structure Tells (server : Server α β) (notes : List (Note α)) (after : Server α β) : Prop where
  fits : Fits server.exchange.requests.queue.messages notes
  replays : notes.foldl Note.replay server.exchange.requests.queue.messages =
    after.exchange.requests.queue.messages
  sound : after.exchange.requests.queue.Sound
  takes : after.OnlyTakes

namespace Tells

variable {server between after : Server α β} {note : Note α} {notes more : List (Note α)}

theorem still (sound : server.exchange.requests.queue.Sound) (takes : server.OnlyTakes) :
    Tells server [] server := ⟨trivial, rfl, sound, takes⟩

theorem trans (one : Tells server notes between) (two : Tells between more after) :
    Tells server (notes ++ more) after where
  fits := fits_append.mpr ⟨one.fits, by rw [one.replays]; exact two.fits⟩
  replays := by rw [List.foldl_append, one.replays, two.replays]
  sound := two.sound
  takes := two.takes

theorem cons (bare : ∀ line : Line α, note.Fits line ∧ note.replay line = line)
    (tells : Tells server notes after) : Tells server (note :: notes) after where
  fits := ⟨(bare _).1, by rw [(bare _).2]; exact tells.fits⟩
  replays := by rw [List.foldl_cons, (bare _).2, tells.replays]
  sound := tells.sound
  takes := tells.takes

theorem looks {found : Option (Envelope α)} (looks : server.Looks after found) (ticket : Ticket)
    (moment : Instant) :
    Tells server (found.toList.map fun request => .ended ticket (.taken (.ok request)) moment) after := by
  have requests := looks.requests
  cases found with
  | none => exact ⟨trivial, requests, looks.sound, looks.takes⟩
  | some request =>
    rw [Option.toList_some, List.singleton_append] at requests
    refine ⟨⟨?_, trivial⟩, ?_, looks.sound, looks.takes⟩
    · rw [requests]
      exact List.head?_cons
    · rw [requests]
      rfl

end Tells

variable [Wire β]

theorem expire_tells {due : List Deadline} {server : Server α β}
    (sound : server.exchange.requests.queue.Sound) (takes : server.OnlyTakes) :
    Tells server (expire due server).1 (expire due server).2 := by
  induction due generalizing server with
  | nil => exact .still sound takes
  | cons deadline rest ih =>
    rw [expire]
    cases found : server.call? deadline.ticket with
    | none => exact ih sound takes
    | some call =>
      obtain ⟨request, looks, outcome⟩ := lapse_looks sound takes (List.mem_of_find?_eq_some found)
      have others := ih looks.sound looks.takes
      have tells := Tells.looks looks call.ticket server.now
      dsimp only
      rw [outcome]
      cases request with
      | none => exact (tells.trans others).cons fun _ => ⟨trivial, rfl⟩
      | some request => exact tells.trans others

theorem lapseDue_tells {server : Server α β} (sound : server.exchange.requests.queue.Sound)
    (takes : server.OnlyTakes) : Tells server (lapseDue server).1 (lapseDue server).2 :=
  expire_tells sound takes

theorem begins_tells {server after : Server α β} {timeout : Duration} {notes : List (Note α)}
    (sound : server.exchange.requests.queue.Sound) (takes : server.OnlyTakes)
    (stepped : step? server (.begins timeout) = some (notes, after)) :
    Tells server notes after := by
  obtain ⟨found, looks, outcome⟩ := begin_looks sound takes timeout
  have tells := Tells.looks looks server.tickets server.now
  rw [step?] at stepped
  rcases begun : server.begin .take timeout with ⟨result, next⟩
  rw [begun] at looks outcome tells
  simp only [begun] at stepped
  cases found with
  | some request =>
    cases outcome
    cases stepped
    exact tells.cons fun _ => ⟨trivial, rfl⟩
  | none =>
    cases outcome
    cases stepped
    have others := lapseDue_tells looks.sound looks.takes
    refine .cons (fun _ => ⟨trivial, rfl⟩) (.cons (fun _ => ⟨trivial, rfl⟩) ?_)
    exact tells.trans others

theorem looks_tells {server after : Server α β} {notes : List (Note α)}
    (sound : server.exchange.requests.queue.Sound) (takes : server.OnlyTakes)
    (stepped : step? server .looks = some (notes, after)) : Tells server notes after := by
  rw [step?] at stepped
  split at stepped
  next => cases stepped
  next ticket rest woken =>
    cases called : server.call? ticket with
    | none =>
      rw [called] at stepped
      cases stepped
    | some call =>
      obtain ⟨found, looks, outcome⟩ :=
        attend_looks sound takes (List.mem_of_find?_eq_some called)
      have tells := Tells.looks looks ticket server.now
      rcases attended : server.attend call with ⟨result, next⟩
      rw [attended] at looks outcome tells
      simp only [called, attended] at stepped
      cases found with
      | some request =>
        cases outcome
        cases stepped
        exact tells
      | none =>
        cases outcome
        cases stepped
        exact tells.cons fun _ => ⟨trivial, rfl⟩

theorem step?_tells {server after : Server α β} {move : Move α} {notes : List (Note α)}
    (sound : server.exchange.requests.queue.Sound) (takes : server.OnlyTakes)
    (stepped : step? server move = some (notes, after)) : Tells server notes after := by
  cases move with
  | queues envelope =>
    cases stepped
    exact ⟨⟨trivial, trivial⟩, (sound.messages_push envelope).symm, sound.push envelope, takes⟩
  | picks target =>
    cases stepped
    exact ⟨⟨sound.take_eq target, trivial⟩, (sound.messages_take target).symm, sound.take target, takes⟩
  | purges client =>
    cases stepped
    exact ⟨⟨sound.ofClient_eq client, trivial⟩, (sound.messages_purge client).symm,
      sound.purge client, takes⟩
  | begins timeout => exact begins_tells sound takes stepped
  | looks => exact looks_tells sound takes stepped
  | cancels ticket =>
    rw [step?, cancel] at stepped
    cases called : server.call? ticket with
    | none =>
      simp only [called] at stepped
      cases stepped
    | some call =>
      simp only [called] at stepped
      cases stepped
      exact ⟨⟨trivial, trivial⟩, rfl, sound,
        fun other here => takes other (List.mem_of_mem_filter here)⟩
  | passes span =>
    rw [step?] at stepped
    split at stepped
    next =>
      have lapsed := Option.some.inj stepped
      have tells := @lapseDue_tells _ _ _ { server with
        now := nextMoment (server.now + span.nanos) server } sound takes
      rw [lapsed] at tells
      exact ⟨tells.fits, tells.replays, tells.sound, tells.takes⟩
    next => cases stepped

/-! ## How calls end -/

/-- A call that begins with a timeout is due when that is over. -/
structure Timed (past : List (Note α)) (server : Server α β) : Prop where
  calls : ∀ call ∈ server.calls, ∃ moment, .begun call.ticket call.timeout moment ∈ past ∧
    call.deadline = moment + call.timeout.nanos
  ends : ∀ ticket outcome moment, .ended ticket outcome moment ∈ past →
    (∃ request, outcome = .taken (.ok request)) ∨
    ∃ timeout start, .begun ticket timeout start ∈ past ∧
      outcome = .taken (.error (.requestTimeout timeout)) ∧ moment = start + timeout.nanos

namespace Timed

variable {past notes : List (Note α)} {server after : Server α β}

omit [Wire β] in
theorem fewer (timed : Timed past server) (calls : ∀ call ∈ after.calls, call ∈ server.calls)
    (ends : ∀ ticket outcome moment, .ended ticket outcome moment ∈ notes →
      (∃ request, outcome = .taken (.ok request)) ∨
      ∃ call ∈ server.calls, ticket = call.ticket ∧
        outcome = .taken (.error (.requestTimeout call.timeout)) ∧ moment = call.deadline) :
    Timed (past ++ notes) after where
  calls call here := by
    obtain ⟨moment, begun, due⟩ := timed.calls call (calls call here)
    exact ⟨moment, List.mem_append_left _ begun, due⟩
  ends ticket outcome moment ended := by
    rcases List.mem_append.mp ended with before | now
    · rcases timed.ends ticket outcome moment before with found | ⟨timeout, start, begun, rest⟩
      · exact .inl found
      · exact .inr ⟨timeout, start, List.mem_append_left _ begun, rest⟩
    · rcases ends ticket outcome moment now with found | ⟨call, here, rfl, told, due⟩
      · exact .inl found
      · obtain ⟨start, begun, deadline⟩ := timed.calls call here
        exact .inr ⟨call.timeout, start, List.mem_append_left _ begun, told, due.trans deadline⟩

end Timed

theorem attend_calls {server : Server α β} {call : Call α β} (take : call.purpose = .take) :
    (server.attend call).2.calls ⊆ server.calls ∧ (server.attend call).2.now = server.now := by
  unfold attend
  split
  next woken =>
    rcases server.exchange.requests.wake call.ticket with ⟨_ | request, requests⟩
    · exact ⟨fun _ => id, rfl⟩
    · rw [take]
      exact ⟨fun _ => List.mem_of_mem_filter, rfl⟩
  next idle => exact ⟨fun _ => id, rfl⟩

theorem lapse_calls {server : Server α β} {call : Call α β} (take : call.purpose = .take) :
    (server.lapse call).2.calls ⊆ server.calls ∧ (server.lapse call).2.now = server.now := by
  obtain ⟨fewer, same⟩ := @attend_calls _ _ _ server _ take
  unfold lapse
  rcases attended : server.attend call with ⟨_ | outcome, after⟩ <;> rw [attended] at fewer same
  · exact ⟨fun _ here => fewer (List.mem_of_mem_filter here), same⟩
  · exact ⟨fewer, same⟩

/-- Of the calls that come to their deadlines, each ends with a request or as timed out. -/
theorem Timed.expire {past : List (Note α)} {due : List Deadline} {server : Server α β}
    (timed : Timed past server) (takes : server.OnlyTakes)
    (sound : server.exchange.requests.queue.Sound)
    (late : ∀ deadline ∈ due, ∀ call ∈ server.calls, call.ticket = deadline.ticket →
      call.deadline = server.now) :
    Timed (past ++ (Requests.expire due server).1) (Requests.expire due server).2 := by
  induction due generalizing past server with
  | nil => exact (List.append_nil past).symm ▸ timed
  | cons deadline rest ih =>
    rw [Requests.expire]
    cases found : server.call? deadline.ticket with
    | none => exact ih timed takes sound fun other later => late other (List.mem_cons_of_mem _ later)
    | some call =>
      have here := List.mem_of_find?_eq_some found
      have named : call.ticket = deadline.ticket := eq_of_beq (List.find?_some found :)
      have due := late deadline List.mem_cons_self call here named
      obtain ⟨fewer, same⟩ := @lapse_calls _ _ _ server _ (takes call here)
      obtain ⟨request, looks, outcome⟩ := lapse_looks sound takes here
      have timed' : Timed (past ++ [.ended call.ticket (server.lapse call).1 server.now])
          (server.lapse call).2 := by
        refine timed.fewer fewer fun ticket result moment ended => ?_
        cases List.mem_singleton.mp ended
        cases request with
        | some request => exact .inl ⟨request, outcome⟩
        | none => exact .inr ⟨call, here, rfl, outcome, due.symm⟩
      have others := ih timed' looks.takes looks.sound fun other later waiting still named => by
        rw [same]
        exact late other (List.mem_cons_of_mem _ later) waiting (fewer still) named
      rwa [List.append_assoc] at others

theorem Timed.lapseDue {past : List (Note α)} {server : Server α β} (timed : Timed past server)
    (takes : server.OnlyTakes) (sound : server.exchange.requests.queue.Sound)
    (distinct : (server.deadlines.map (·.ticket)).Nodup)
    (ahead : ∀ deadline ∈ server.deadlines, server.now ≤ deadline.instant) :
    Timed (past ++ (Requests.lapseDue server).1) (Requests.lapseDue server).2 := by
  refine timed.expire takes sound fun deadline due call here named => ?_
  obtain ⟨listed, passed⟩ := Reception.mem_passing.mp due
  have own : (⟨call.ticket, call.deadline⟩ : Deadline) ∈ server.deadlines :=
    List.mem_map.mpr ⟨call, here, rfl⟩
  cases List.inj_on_of_nodup_map distinct own listed named
  exact le_antisymm passed (ahead _ listed)

omit [Wire β] in
theorem Timed.park {past : List (Note α)} {server : Server α β} (timed : Timed past server)
    (requests : Awaited (Queues α)) (timeout : Duration) :
    Timed (past ++ [.begun server.tickets timeout server.now, .waited server.tickets])
      (Requests.park requests timeout server) where
  calls call here := by
    rcases List.mem_append.mp here with old | new
    · obtain ⟨moment, begun, due⟩ := timed.calls call old
      exact ⟨moment, List.mem_append_left _ begun, due⟩
    · rw [List.mem_singleton.mp new]
      exact ⟨server.now, List.mem_append_right _ List.mem_cons_self, rfl⟩
  ends ticket outcome moment ended := by
    have before := (List.mem_append.mp ended).resolve_right (by simp)
    rcases timed.ends ticket outcome moment before with found | ⟨span, start, begun, rest⟩
    · exact .inl found
    · exact .inr ⟨span, start, List.mem_append_left _ begun, rest⟩

section Steps

variable {past : List (Note α)} {server after : Server α β} {notes : List (Note α)}

theorem begins_timed {timeout : Duration} (timed : Timed past server) (takes : server.OnlyTakes)
    (kept : Reception.Kept (past.map Note.toEvent) (toReception server))
    (stepped : step? server (.begins timeout) = some (notes, after)) : Timed (past ++ notes) after := by
  have sound : server.exchange.requests.queue.Sound := kept.sound
  have attends := Awaited.attend_attends server.tickets kept.sound
  change Awaited.Attends _ server.exchange.requests (server.exchange.requests.attend _).1
    (server.exchange.requests.attend _).2 at attends
  rw [step?] at stepped
  unfold begin at stepped
  rcases attended : server.exchange.requests.attend server.tickets with ⟨_ | request, requests⟩
  · rw [attended] at attends
    have waiting := (park_does attends timeout).proceeds.kept kept
    have parked := timed.park requests timeout
    have kept' := (attend_messages sound server.tickets).2.1
    rw [attended] at kept'
    simp only [attended] at stepped
    cases stepped
    have lapsed := parked.lapseDue (OnlyTakes.park takes requests timeout) kept'
      (waiting.standing.nodup_iff.mpr waiting.nodup) waiting.ahead
    rwa [List.append_assoc] at lapsed
  · simp only [attended, complete] at stepped
    cases stepped
    refine timed.fewer (fun _ => id) fun _ _ _ ended => .inl ⟨request, ?_⟩
    rcases List.mem_cons.mp ended with other | last
    · cases other
    · cases List.mem_singleton.mp last
      rfl

theorem looks_timed (timed : Timed past server) (takes : server.OnlyTakes)
    (sound : server.exchange.requests.queue.Sound)
    (stepped : step? server .looks = some (notes, after)) : Timed (past ++ notes) after := by
  rw [step?] at stepped
  split at stepped
  next => cases stepped
  next ticket rest woken =>
    cases called : server.call? ticket with
    | none =>
      rw [called] at stepped
      cases stepped
    | some call =>
      have here := List.mem_of_find?_eq_some called
      obtain ⟨found, -, outcome⟩ := attend_looks sound takes here
      obtain ⟨fewer, -⟩ := @attend_calls _ _ _ server _ (takes call here)
      rcases attended : server.attend call with ⟨result, next⟩
      rw [attended] at outcome fewer
      simp only [called, attended] at stepped
      cases found with
      | some request =>
        cases outcome
        cases stepped
        refine timed.fewer fewer fun _ _ _ ended => .inl ⟨request, ?_⟩
        cases List.mem_singleton.mp ended
        rfl
      | none =>
        cases outcome
        cases stepped
        exact timed.fewer fewer (by simp)

theorem passes_timed {span : Duration} (timed : Timed past server) (takes : server.OnlyTakes)
    (kept : Reception.Kept (past.map Note.toEvent) (toReception server))
    (stepped : step? server (.passes span) = some (notes, after)) : Timed (past ++ notes) after := by
  rw [step?] at stepped
  split at stepped
  next =>
    have lapsed := Option.some.inj stepped
    have timed' : Timed past { server with now := nextMoment (server.now + span.nanos) server } :=
      ⟨timed.calls, timed.ends⟩
    have ended := timed'.lapseDue takes kept.sound (kept.standing.nodup_iff.mpr kept.nodup)
      (Reception.le_nextMoment.mp (le_refl ((toReception server).nextMoment _))).2
    rwa [lapsed] at ended
  next => cases stepped

theorem step?_timed {move : Move α} (timed : Timed past server) (takes : server.OnlyTakes)
    (kept : Reception.Kept (past.map Note.toEvent) (toReception server))
    (stepped : step? server move = some (notes, after)) : Timed (past ++ notes) after := by
  cases move with
  | queues envelope | picks target | purges client =>
    cases stepped
    exact timed.fewer (fun _ => id) (by simp)
  | begins timeout => exact begins_timed timed takes kept stepped
  | looks => exact looks_timed timed takes kept.sound stepped
  | cancels ticket =>
    rw [step?, cancel] at stepped
    cases called : server.call? ticket with
    | none =>
      simp only [called] at stepped
      cases stepped
    | some call =>
      simp only [called] at stepped
      cases stepped
      exact timed.fewer (fun _ => List.mem_of_mem_filter) (by simp)
  | passes span => exact passes_timed timed takes kept stepped

end Steps

/-! ## Runs -/

def Record.toReception (record : Record α β) : Reception.Record (Queues α) (Envelope α) :=
  ⟨record.past.map Note.toEvent, Requests.toReception record.server⟩

structure Record.Sound (record : Record α β) : Prop where
  reception : record.toReception.Sound
  takes : record.server.OnlyTakes
  fits : Fits [] record.past
  replays : replay record.past = record.server.exchange.requests.queue.messages
  timed : Timed record.past record.server

namespace Record

variable {record : Record α β}

omit [Wire β] in
theorem sound_start : Sound ({} : Record α β) where
  reception := Reception.Record.sound_start Queues.sound_empty rfl
  takes := nofun
  fits := trivial
  replays := rfl
  timed := ⟨nofun, nofun⟩

namespace Sound

theorem step_toReception (sound : record.Sound) (move : Move α) :
    (record.step move).toReception = record.toReception.step move.toReception := by
  have same := step?_toReception sound.takes sound.reception.toKept sound.reception.later move
  rw [Record.step, Reception.Record.step]
  cases stepped : step? record.server move with
  | none =>
    rw [stepped] at same
    simp only [toReception, same, Option.map_none]
  | some done =>
    rw [stepped] at same
    simp only [toReception, same, Option.map_some, List.map_append]

theorem step (sound : record.Sound) (move : Move α) : (record.step move).Sound := by
  have reception := sound.step_toReception move ▸ sound.reception.step move.toReception
  have queue : record.server.exchange.requests.queue.Sound := sound.reception.sound
  unfold Record.step at reception ⊢
  cases stepped : step? record.server move with
  | none => exact sound
  | some done =>
    rw [stepped] at reception
    obtain ⟨fits, replays, -, takes⟩ := step?_tells queue sound.takes stepped
    have timed := step?_timed sound.timed sound.takes sound.reception.toKept stepped
    rw [← sound.replays] at fits replays
    refine ⟨reception, takes, fits_append.mpr ⟨sound.fits, fits⟩, ?_, timed⟩
    exact List.foldl_append.trans replays

theorem run (sound : record.Sound) (moves : List (Move α)) :
    (record.run moves).Sound ∧
      (record.run moves).toReception = record.toReception.run (moves.map Move.toReception) := by
  induction moves generalizing record with
  | nil => exact ⟨sound, rfl⟩
  | cons move moves ih =>
    obtain ⟨kept, same⟩ := ih (sound.step move)
    refine ⟨kept, same.trans ?_⟩
    rw [sound.step_toReception]
    rfl

/-- Time can pass up to any moment when all woken calls have their looks in between. -/
theorem reaches (sound : record.Sound) {limit : Instant} (later : record.server.now ≤ limit) :
    ∃ moves : List (Move α), (∀ move ∈ moves, move = .looks ∨ ∃ span, move = .passes span) ∧
      (record.run moves).server.now = limit := by
  obtain ⟨steps, only, reached⟩ := Reception.Record.reaches (ω := Way) sound.reception later
  have lifted : ∃ moves : List (Move α), moves.map Move.toReception = steps ∧
      ∀ move ∈ moves, move = .looks ∨ ∃ span, move = .passes span := by
    clear reached
    induction steps with
    | nil => exact ⟨[], rfl, by simp⟩
    | cons step steps ih =>
      obtain ⟨first, rest⟩ := List.forall_mem_cons.mp only
      obtain ⟨moves, rfl, kinds⟩ := ih rest
      rcases first with rfl | ⟨span, rfl⟩
      · exact ⟨.looks :: moves, rfl, List.forall_mem_cons.mpr ⟨.inl rfl, kinds⟩⟩
      · exact ⟨.passes span :: moves, rfl, List.forall_mem_cons.mpr ⟨.inr ⟨span, rfl⟩, kinds⟩⟩
  obtain ⟨moves, rfl, kinds⟩ := lifted
  refine ⟨moves, kinds, ?_⟩
  rw [← (sound.run moves).2] at reached
  exact reached

end Sound

end Record

theorem passes_requests {server after : Server α β} {span : Duration} {notes : List (Note α)}
    {past : List (Reception.Event (Envelope α))} (takes : server.OnlyTakes)
    (kept : Reception.Kept past (toReception server))
    (later : ∀ deadline ∈ server.deadlines, server.now < deadline.instant)
    (stepped : step? server (.passes span) = some (notes, after)) :
    after.exchange.requests.queue = server.exchange.requests.queue := by
  have same := step?_toReception takes kept later (.passes span)
  rw [stepped] at same
  exact Reception.passes_queue same

/-- Whatever is queued, taken at once, purged, begun, cancelled or runs out of time, in any order: every
request that came has been handed out once, has been dropped once, or is queued still, and whoever got
one got the oldest. The history is fair; a call that ends without a request has timed out, with its own
timeout and when that was over. Time takes no request, and can always go on. -/
theorem requests_handed_out_once (moves : List (Move α)) :
    let record := ({} : Record α β).run moves
    (queued record.past).Perm (handedOut record.past ++
      (dropped record.past ++ record.server.exchange.requests.queue.messages)) ∧
    replay record.past = record.server.exchange.requests.queue.messages ∧
    (∀ before note after, record.past = before ++ note :: after → note.Fits (replay before)) ∧
    record.toReception.Fair ∧
    (∀ ticket outcome moment, .ended ticket outcome moment ∈ record.past →
      (∃ request, outcome = .taken (.ok request)) ∨
      ∃ timeout start, .begun ticket timeout start ∈ record.past ∧
        outcome = .taken (.error (.requestTimeout timeout)) ∧ moment = start + timeout.nanos) ∧
    (∀ span notes after, step? record.server (.passes span) = some (notes, after) →
      after.exchange.requests.queue = record.server.exchange.requests.queue) ∧
    ∀ limit, record.server.now ≤ limit → ∃ later : List (Move α),
      (∀ move ∈ later, move = .looks ∨ ∃ span, move = .passes span) ∧
        (record.run later).server.now = limit := by
  intro record
  have sound : record.Sound := (Record.sound_start.run moves).1
  have account := sound.fits.perm
  rw [List.nil_append] at account
  refine ⟨sound.replays ▸ account, sound.replays, fun before note after => sound.fits.at,
    sound.reception.fair, sound.timed.ends, fun span notes after => ?_,
    fun limit => sound.reaches⟩
  exact passes_requests sound.takes sound.reception.toKept sound.reception.later

end FrameLink.Host.Server.Requests
