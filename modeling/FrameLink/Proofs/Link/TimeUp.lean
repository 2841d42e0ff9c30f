import Mathlib
import FrameLink.Proofs.Link.Origins
import FrameLink.Proofs.Link.Places
/-!
A call that runs out of time under the policy to disconnect: what it does at once, and what the close that
it causes does to the requests that still wait.
-/

namespace FrameLink.Link

open Wait

theorem Pending.not_mem_expire (id : Correlation) (ticket : Ticket) (pending : Pending) :
    (id, ticket) ∉ (pending.expire id).live := by
  unfold expire
  cases found : pending.find? id with
  | none =>
    rw [find?, Option.map_eq_none_iff, List.find?_eq_none] at found
    intro member
    exact found (id, ticket) member (by simp)
  | some owner => simp [erase]

namespace Connection

variable {σ α β : Type} {left : List (Correlation × Ticket)}

/-! ## The call that times out -/

theorem hear_pump_congr (one two : Connection σ α) (same : one.pump = two.pump)
    (reports : List Report) : (one.hear reports).pump = (two.hear reports).pump := by
  unfold hear
  rw [same]
  cases two.pump with
  | none => exact same
  | some pump => rfl

theorem attend_calls (call : Call) (connection : Connection σ α) :
    (connection.attend call).2.calls = connection.calls := by
  obtain ⟨inbox, receipts, frame⟩ := attend_frame call connection
  rw [frame]

theorem mem_others {call : Call} {ticket : Ticket} {connection : Connection σ α}
    (member : call ∈ connection.calls) (apart : ticket ≠ call.ticket) :
    call ∈ connection.calls.filter fun other => other.ticket != ticket :=
  List.mem_filter.mpr ⟨member, by simpa using apart.symm⟩

theorem mem_beginReceive {call : Call} {connection : Connection σ α}
    (member : call ∈ connection.calls) (timeout : Duration) :
    call ∈ (connection.beginReceive timeout).2.calls := by
  unfold beginReceive
  dsimp only
  split
  · exact member
  · exact List.mem_append_left _ member

theorem mem_beginRequest [Transport σ] [Wire β] {call : Call} {connection : Connection σ α}
    (member : call ∈ connection.calls) (body : β) (timeout : Duration) :
    call ∈ (connection.beginRequest body timeout).2.calls := by
  cases begun : connection.beginRequest body timeout with
  | mk outcome after =>
    obtain ⟨_, _, kept⟩ | ⟨_, _, _, ⟨_, calls, _⟩ | ⟨_, _, _, calls, _⟩⟩ := beginRequest_cases begun
    · exact kept.calls ▸ member
    · exact calls ▸ member
    · exact calls ▸ List.mem_append_left _ member

theorem attend_closed {call : Call} {id : Correlation} {connection : Connection σ α}
    (purpose : call.purpose = .request id)
    (told : connection.exchange.receipt? call.ticket = some .closed) :
    (connection.attend call).1 = some (.error .connectionClosed) := by
  simp [attend, purpose, told]

theorem lapse_calls [Transport σ] (call : Call) (connection : Connection σ α) :
    (connection.lapse call).2.calls =
      connection.calls.filter fun other => other.ticket != call.ticket := by
  have looked := attend_calls call connection
  unfold lapse
  cases attended : connection.attend call with
  | mk outcome left =>
    rw [attended] at looked
    cases outcome with
    | some outcome => exact congrArg (List.filter _) looked
    | none =>
      obtain ⟨_, handled, _⟩ := handleTimeout_effect call.timeout ((left.quit call).retire call)
      have withdrawn : ((left.quit call).retire call).calls = left.calls := by
        unfold retire quit
        cases call.purpose <;> rfl
      exact congrArg (List.filter _) (handled.trans (withdrawn.trans looked))

theorem Roll.Sound.call?_eq {connection : Connection σ α} (sound : Roll.Sound connection.roll left)
    {call : Call} (member : call ∈ connection.calls) :
    connection.call? call.ticket = some call := by
  cases found : connection.call? call.ticket with
  | none =>
    rw [call?, List.find?_eq_none] at found
    exact absurd (beq_self_eq_true call.ticket) (found call member)
  | some other =>
    obtain ⟨also, same⟩ := call?_some found
    rw [sound.same_call member also same]

/-- What a call leaves behind that ran out of time, where the policy is to disconnect. -/
structure Disconnects [Transport σ] (call : Call) (before after : Connection σ α) : Prop where
  transport : after.transport = (Transport.stop before.transport).1
  pump : after.pump = (before.hear (Transport.stop before.transport).2).pump
  callbacks : after.exchange.callbacks = before.exchange.callbacks.fireTimeout
  queue : after.exchange.inbox.queue = []
  number : ∀ id, call.purpose = .request id → ∀ ticket, (id, ticket) ∉ after.exchange.pending.live
  calls : after.calls = before.calls.filter fun other => other.ticket != call.ticket

variable [Transport σ]

theorem handleTimeout_stops (timeout : Duration) {connection : Connection σ α}
    (policy : connection.settings.timeoutPolicy = .disconnect) :
    let after := connection.handleTimeout timeout
    after.transport = (Transport.stop connection.transport).1 ∧
      after.pump = (connection.hear (Transport.stop connection.transport).2).pump := by
  have stopped : ∀ level message, (connection.say level message).stop.transport =
      (Transport.stop connection.transport).1 ∧ (connection.say level message).stop.pump =
        (connection.hear (Transport.stop connection.transport).2).pump :=
    fun level message => ⟨transport_hear .., hear_pump_congr
      { connection.say level message with transport := _ } connection rfl _⟩
  unfold handleTimeout
  simp only [policy]
  split <;> exact stopped ..

theorem lapse_disconnects {call : Call} {connection : Connection σ α}
    (policy : connection.settings.timeoutPolicy = .disconnect)
    (vain : (connection.attend call).1 = none) :
    (connection.lapse call).1 = .error (.receiveTimeout call.timeout) ∧
      Disconnects call connection (connection.lapse call).2 := by
  have calls := lapse_calls call connection
  obtain ⟨inbox, receipts, frame⟩ := attend_frame call connection
  have attended : connection.attend call = (none, { connection with
      exchange := { connection.exchange with inbox, receipts } }) := Prod.ext vain frame
  simp only [lapse, attended] at calls
  simp only [lapse, attended]
  refine ⟨trivial, ?_⟩
  generalize same : ({ connection with
    exchange := { connection.exchange with inbox, receipts } } : Connection σ α) = left at calls
  have withdrawn : ((left.quit call).retire call).settings = connection.settings ∧
      ((left.quit call).retire call).transport = connection.transport ∧
      ((left.quit call).retire call).pump = connection.pump ∧
      ((left.quit call).retire call).exchange.callbacks = connection.exchange.callbacks := by
    subst same
    unfold retire quit
    cases call.purpose <;> exact ⟨rfl, rfl, rfl, rfl⟩
  obtain ⟨settings, transport, pump, callbacks⟩ := withdrawn
  have asked := settings ▸ policy
  have stopped := handleTimeout_stops call.timeout asked
  obtain ⟨_, _, _, exchange⟩ :=
    handleTimeout_effect call.timeout ((left.quit call).retire call)
  rw [if_pos asked] at exchange
  refine ⟨stopped.1.trans (by rw [transport]), ?_, ?_, ?_, ?_, calls⟩
  · refine stopped.2.trans ?_
    rw [transport]
    exact hear_pump_congr _ connection pump _
  · change ((((left.quit call).retire call).handleTimeout call.timeout).exchange).callbacks = _
    rw [exchange, ← callbacks]
  · change ((((left.quit call).retire call).handleTimeout call.timeout).exchange).inbox.queue = _
    rw [exchange]
    rfl
  · intro id purpose ticket
    change (id, ticket) ∉
      ((((left.quit call).retire call).handleTimeout call.timeout).exchange).pending.live
    rw [exchange]
    simp only [retire, purpose]
    exact Pending.not_mem_expire id ticket _

/-! ## The requests that a close fails -/

namespace Roll

variable {roll next : Roll α} {left rest : List (Correlation × Ticket)} {ticket : Ticket}

/-- The call with the ticket was told that the socket closed, or is gone. -/
structure Failed (roll : Roll α) (ticket : Ticket) : Prop where
  early : ticket < roll.tickets
  told : roll.receipt ticket = some .closed ∨ ∀ call ∈ roll.calls, call.ticket ≠ ticket

theorem Failed.leaves (failed : Failed roll ticket) (call : Call) :
    Failed { roll with
      receipt := Function.update roll.receipt call.ticket none
      calls := roll.without call.ticket } ticket := by
  refine ⟨failed.early, ?_⟩
  by_cases here : ticket = call.ticket
  · right
    intro other member
    rw [here]
    exact (mem_without.mp member).2
  · refine failed.told.imp (fun told => ?_) fun gone other member => ?_
    · exact (Function.update_of_ne here ..).trans told
    · exact gone other (mem_without.mp member).1

theorem Failed.joined (failed : Failed roll ticket) {call : Call} (new : call.ticket = roll.tickets)
    (gone : ∀ call ∈ roll.calls, call.ticket ≠ ticket) :
    ∀ other ∈ roll.calls ++ [call], other.ticket ≠ ticket := by
  intro other member
  rcases List.mem_append.mp member with old | added
  · exact gone other old
  · rw [List.mem_singleton.mp added, new]
    exact failed.early.ne'

theorem Failed.change (failed : Failed roll ticket) (sound : Sound roll left)
    (change : Change roll left next rest) : Failed next ticket := by
  have later := failed.early.trans (Nat.lt_succ_self roll.tickets)
  cases change with
  | rests tickets grown => exact ⟨failed.early.trans_le grown, failed.told⟩
  | waits call new purpose => exact ⟨later, failed.told.imp_right (failed.joined new)⟩
  | enters call id new purpose free =>
    refine ⟨later, failed.told.imp (fun told => ?_) (failed.joined new)⟩
    exact (Function.update_of_ne failed.early.ne ..).trans told
  | quits call member purpose =>
    refine ⟨failed.early, failed.told.imp_right fun gone other there => ?_⟩
    exact gone other (mem_without.mp there).1
  | settles call | forsakes call => exact failed.leaves call
  | frees freed receipt frees =>
    refine ⟨failed.early, failed.told.imp_left fun told => ?_⟩
    refine (frees.others ticket fun id _ registered => ?_).trans told
    -- Who is on the roll waits, or has let go of its receipt.
    rcases (sound.entries id ticket).mp registered with waiting | dropped
    · obtain ⟨_, _, _, _, pending⟩ := mem_waiting.mp waiting
      cases told.symm.trans pending
    · cases told.symm.trans (sound.gone id ticket dropped).1

theorem Failed.changes (failed : Failed roll ticket) (sound : Sound roll left)
    (changes : Changes roll left next rest) : Failed next ticket := by
  induction changes with
  | refl => exact failed
  | tail earlier change ih => exact ih.change (sound.changes earlier) change

end Roll

namespace Life

variable [Wire α] [Wire β] {life : Life σ α}

theorem finished_prefix (life : Life σ α) (deed : Deed σ β) :
    life.finished <+: (life.step deed).finished := by
  have flow := life.flow deed
  generalize life.arrival? deed = came at flow
  cases flow with
  | waits _ same | arrives _ _ _ _ same => rw [same]
  | fails _ _ _ more | answers _ _ _ _ _ _ more | returns _ _ _ _ more =>
    rw [more]
    exact List.prefix_append ..

section Kept

variable {call : Call} {ticket : Ticket} (member : call ∈ life.connection.calls)
include member

theorem dials_keeps (url : Url) (verbose : Bool) :
    call ∈ (life.step (.dials url verbose : Deed σ β)).connection.calls := by
  simp only [step]
  split
  · exact (dial_effect url verbose life.connection).2.1 ▸ member
  · exact member

theorem attends_keeps (apart : ticket ≠ call.ticket) :
    call ∈ (life.step (.attends ticket : Deed σ β)).connection.calls := by
  simp only [step]
  cases found : life.connection.call? ticket with
  | none => exact member
  | some other =>
    have looked := attend_calls other life.connection
    cases attended : life.connection.attend other with
    | mk outcome after =>
      rw [attended] at looked
      simp only [attended]
      cases outcome with
      | none => exact looked ▸ member
      | some outcome =>
        change call ∈ after.calls.filter _
        exact looked ▸ mem_others member apart

theorem cancels_keeps (apart : ticket ≠ call.ticket) :
    call ∈ (life.step (.cancels ticket : Deed σ β)).connection.calls := by
  simp only [step, cancel]
  cases life.connection.call? ticket with
  | none => exact member
  | some other => exact mem_others member apart

theorem lapses_keeps (apart : ticket ≠ call.ticket) :
    call ∈ (life.step (.lapses ticket : Deed σ β)).connection.calls := by
  simp only [step]
  cases found : life.connection.call? ticket with
  | none => exact member
  | some other =>
    obtain ⟨_, same⟩ := call?_some found
    dsimp only
    split
    · exact member
    · change call ∈ (life.connection.lapse other).2.calls
      rw [lapse_calls, same]
      exact mem_others member apart

theorem pumps_keeps : call ∈ (life.step (.pumps : Deed σ β)).connection.calls := by
  simp only [step]
  split
  · rw [calls_take]
    exact member
  · exact member

end Kept

/-- A call stays until it looks, is dropped, or is out of time. -/
theorem calls_kept {call : Call} (member : call ∈ life.connection.calls) (deed : Deed σ β) :
    call ∈ (life.step deed).connection.calls ∨ deed = .attends call.ticket ∨
      deed = .cancels call.ticket ∨ deed = .lapses call.ticket := by
  have stays {after : Connection σ α} (stays : Stays life.connection after) : call ∈ after.calls :=
    stays.calls ▸ member
  cases deed with
  | dials url verbose => exact .inl (dials_keeps member url verbose)
  | concludes url => exact .inl (stays (conclude_stays url life.connection))
  | disconnects => exact .inl (stays (disconnect_stays life.connection))
  | sends body => exact .inl (stays (send_stays body life.connection))
  | receives timeout => exact .inl (mem_beginReceive member timeout)
  | requests body timeout => exact .inl (mem_beginRequest member body timeout)
  | attends ticket =>
    by_cases here : ticket = call.ticket
    · exact .inr (.inl (by rw [here]))
    · exact .inl (attends_keeps member here)
  | cancels ticket =>
    by_cases here : ticket = call.ticket
    · exact .inr (.inr (.inl (by rw [here])))
    · exact .inl (cancels_keeps member here)
  | lapses ticket =>
    by_cases here : ticket = call.ticket
    · exact .inr (.inr (.inr (by rw [here])))
    · exact .inl (lapses_keeps member here)
  | pumps => exact .inl (pumps_keeps member)
  | stirs transport reports log =>
    have carried : _ ∈ ({ life.connection with transport }.hear reports).calls :=
      stays (carried_stays transport reports life.connection)
    exact .inl carried
  | passes span => exact .inl member

/-- A request that was told of the close returns so as soon as it looks or is out of time. -/
theorem failed_step (sound : Roll.Sound life.connection.roll left) {call : Call} {id : Correlation}
    (member : call ∈ life.connection.calls) (purpose : call.purpose = .request id)
    (told : life.connection.exchange.receipt? call.ticket = some .closed) (deed : Deed σ β) :
    (call ∈ (life.step deed).connection.calls ∧
      (life.step deed).connection.exchange.receipt? call.ticket = some .closed) ∨
    (call.ticket, .error .connectionClosed) ∈ (life.step deed).finished ∨
    deed = .cancels call.ticket := by
  have failed : Roll.Failed life.connection.roll call.ticket :=
    ⟨sound.early call member, .inl told⟩
  have after := failed.changes sound (life.changes sound deed)
  have found := sound.call?_eq member
  have looks := attend_closed purpose told
  rcases calls_kept member deed with stays | rfl | rfl | rfl
  · exact .inl ⟨stays, after.told.resolve_right fun gone => gone call stays rfl⟩
  · refine .inr (.inl ?_)
    simp only [step, found]
    cases attended : life.connection.attend call with
    | mk outcome left =>
      rw [attended] at looks
      obtain rfl : outcome = some (.error .connectionClosed) := looks
      exact List.mem_append_right _ (List.mem_singleton.mpr rfl)
  · exact .inr (.inr rfl)
  · simp only [step, found]
    split
    · exact .inl ⟨member, told⟩
    · refine .inr (.inl ?_)
      cases attended : life.connection.attend call with
      | mk outcome left =>
        rw [attended] at looks
        obtain rfl : outcome = some (.error .connectionClosed) := looks
        simp only [lapse, attended]
        exact List.mem_append_right _ (List.mem_singleton.mpr rfl)

/-- When the pump takes a close, nothing is outstanding any more, and every request that waits is told. -/
theorem take_close (sound : Roll.Sound life.connection.roll left) {channel : Nat}
    {reason : Option String} {events : List Event}
    (heard : life.connection.pump = some ⟨channel, .closed reason :: events⟩) :
    let shut := life.step (.pumps : Deed σ β)
    shut.connection.exchange.outstanding = 0 ∧
    shut.connection.exchange.callbacks = life.connection.exchange.callbacks.fireClosed ∧
    shut.connection.calls = life.connection.calls ∧
    ∀ call ∈ life.connection.calls, ∀ id, call.purpose = .request id →
      life.connection.exchange.receipt? call.ticket = some .pending →
      shut.connection.exchange.receipt? call.ticket = some .closed := by
  have step : life.step (.pumps : Deed σ β) = { life with
      connection := { life.connection with pump := some ⟨channel, events⟩ }.closed reason } := by
    simp only [Life.step, heard]
    rfl
  simp only [step]
  refine ⟨rfl, rfl, rfl, fun call member id purpose pending => ?_⟩
  have registered : (id, call.ticket) ∈ life.connection.exchange.pending.live :=
    (sound.entries id call.ticket).mpr (.inl (Roll.mem_waiting.mpr
      ⟨call, member, rfl, purpose, pending⟩))
  have told := Exchange.receipt?_close call.ticket life.connection.exchange
    (life.connection.exchange.pending.live.map (·.2))
  rw [pending] at told
  refine told.trans ?_
  have listed := List.mem_map_of_mem (f := Prod.snd) registered
  simp [Exchange.shutting, listed]

theorem settings_step (life : Life σ α) (deed : Deed σ β) :
    (life.step deed).connection.settings = life.connection.settings := by
  by_cases dials : ∃ url verbose, deed = .dials url verbose
  · obtain ⟨url, verbose, rfl⟩ := dials
    simp only [step]
    split
    · exact (dial_effect url verbose life.connection).2.2.2.1
    · rfl
  · exact (life.sameSession fun url verbose here => dials ⟨url, verbose, here⟩).settings

end Life

/-! ## A connection and its user -/

/-- A user does a deed, or sets what is called when a call times out and when the socket closes. -/
inductive Use (σ β : Type) where
  | does (deed : Deed σ β)
  | hooks (onTimeout onClosed : Option Nat)

namespace Traced

variable {traced : Traced σ α}

def hook (onTimeout onClosed : Option Nat) (traced : Traced σ α) : Traced σ α :=
  { traced with
    life.connection.exchange.callbacks.onTimeout := onTimeout
    life.connection.exchange.callbacks.onClosed := onClosed }

/-- What holds of a connection with these settings, however it is used. -/
structure Regular (settings : ConnectSettings) (traced : Traced σ α) : Prop where
  sound : ∃ left, Roll.Sound traced.life.connection.roll left
  settings : traced.life.connection.settings = settings
  fits : traced.Fits

omit [Transport σ] in
theorem regular_new (settings : ConnectSettings) (transport : σ) :
    (ofTransport settings transport : Traced σ α).Regular settings :=
  ⟨⟨[], sound_new settings transport⟩, rfl, rfl⟩

variable [Wire α] [Wire β]

def use (traced : Traced σ α) : Use σ β → Traced σ α
  | .does deed => traced.step deed
  | .hooks onTimeout onClosed => traced.hook onTimeout onClosed

def uses (all : List (Use σ β)) (traced : Traced σ α) : Traced σ α := all.foldl use traced

variable {settings : ConnectSettings}

theorem Regular.use (regular : traced.Regular settings) (use : Use σ β) :
    (traced.use use).Regular settings := by
  cases use with
  | does deed =>
    obtain ⟨left, sound⟩ := regular.sound
    exact ⟨⟨_, sound.changes (traced.life.changes sound deed)⟩,
      (traced.life.settings_step deed).trans regular.settings, (regular.fits.moves deed).2⟩
  | hooks onTimeout onClosed => exact ⟨regular.sound, regular.settings, regular.fits⟩

theorem Regular.uses (regular : traced.Regular settings) (all : List (Use σ β)) :
    (traced.uses all).Regular settings := by
  induction all generalizing traced with
  | nil => exact regular
  | cons use all ih => exact ih (regular.use use)

theorem Since.uses {channel position : Nat} {old : List (Letter α)}
    (since : traced.Since channel position old) (all : List (Use σ β)) :
    (traced.uses all).Since channel position old := by
  induction all generalizing traced with
  | nil => exact since
  | cons use all ih =>
    cases use with
    | does deed => exact ih (since.step deed)
    | hooks => exact ih ⟨since.fits, since.letters, since.pump, since.channels, since.done⟩

theorem Regular.received_later (regular : traced.Regular settings) (empty : traced.life.unread = [])
    (all : List (Use σ β)) {deed : Deed σ β} {ticket : Ticket} {body : α}
    (receives : (traced.uses all).life.Receives deed ticket body) :
    ∃ letter, (traced.uses all).letters.head? = some letter ∧ letter.body = body ∧
      traced.done ≤ letter.position := by
  have none := regular.fits.letters_eq_nil.mpr empty
  have since : traced.Since 0 traced.done [] :=
    ⟨regular.fits, ⟨[], [], none, List.suffix_rfl, by simp⟩, fun _ _ => Nat.zero_le _,
      Nat.zero_le _, Nat.le_refl _⟩
  obtain ⟨letter, front, same⟩ := (since.uses all).fits.received receives
  obtain ⟨old, fresh, split, suffix, new⟩ := (since.uses all).letters
  rw [List.suffix_nil.mp suffix, List.nil_append, front] at split
  exact ⟨letter, by rw [front]; rfl, same, (new letter (split ▸ List.mem_cons_self)).2⟩

theorem finished_prefix_uses (all : List (Use σ β)) (traced : Traced σ α) :
    traced.life.finished <+: (traced.uses all).life.finished := by
  induction all generalizing traced with
  | nil => exact List.prefix_rfl
  | cons use all ih =>
    cases use with
    | does deed => exact (traced.life.finished_prefix deed).trans (ih (traced.step deed))
    | hooks onTimeout onClosed => exact ih (traced.hook onTimeout onClosed)

/-- However the connection is used, a request that was told of the close is still there to return so,
has returned so, or was dropped. -/
theorem failed_uses (regular : traced.Regular settings) {call : Call} {id : Correlation}
    (member : call ∈ traced.life.connection.calls) (purpose : call.purpose = .request id)
    (told : traced.life.connection.exchange.receipt? call.ticket = some .closed)
    (all : List (Use σ β)) :
    let after := (traced.uses all).life
    (call ∈ after.connection.calls ∧
      (after.connection.attend call).1 = some (.error .connectionClosed)) ∨
    (call.ticket, .error .connectionClosed) ∈ after.finished ∨
    .does (.cancels call.ticket) ∈ all := by
  induction all generalizing traced with
  | nil => exact .inl ⟨member, attend_closed purpose told⟩
  | cons use all ih =>
    have later : ∀ {one two three : Prop}, one ∨ two ∨ three →
        (three → .does (.cancels call.ticket) ∈ use :: all) →
        one ∨ two ∨ .does (.cancels call.ticket) ∈ use :: all :=
      fun rest more => rest.imp_right (Or.imp_right more)
    have next := regular.use use
    cases use with
    | does deed =>
      obtain ⟨left, sound⟩ := regular.sound
      rcases Life.failed_step sound member purpose told deed with ⟨stays, still⟩ | returned | rfl
      · exact later (ih next stays still) (List.mem_cons_of_mem _)
      · exact .inr (.inl ((finished_prefix_uses all (traced.step deed)).mem returned))
      · exact .inr (.inr List.mem_cons_self)
    | hooks => exact later (ih next member told) (List.mem_cons_of_mem _)

end Traced

variable [Wire α] [Wire β]

/-- A call that runs out of time under the policy to disconnect says so. At that moment the transport is
stopped, once, and the callback is called, once; nothing is unread, and the number of the call is not
registered. What is received from then on came after it. And once the pump takes a close, as the one
that the stop causes, nothing is outstanding and the other callback was called, once; every request
that waited then returns that the connection is closed, unless it is dropped first. -/
theorem timeout_disconnects (settings : ConnectSettings) (transport : σ)
    (before : List (Use σ β)) (ticket : Ticket) (call : Call)
    (policy : settings.timeoutPolicy = .disconnect) :
    let traced := (Traced.ofTransport settings transport : Traced σ α).uses before
    let connection := traced.life.connection
    connection.call? ticket = some call → call.deadline ≤ connection.now →
    (connection.attend call).1 = none →
    let next := traced.step (.lapses ticket : Deed σ β)
    next.life.finished = traced.life.finished ++ [(ticket, .error (.receiveTimeout call.timeout))] ∧
    Disconnects call connection next.life.connection ∧
    (∀ (later : List (Use σ β)) (deed : Deed σ β) other body,
      (next.uses later).life.Receives deed other body →
      ∃ letter, (next.uses later).letters.head? = some letter ∧ letter.body = body ∧
        traced.done < letter.position) ∧
    ∀ (later : List (Use σ β)) (channel : Nat) (reason : Option String) (events : List Event),
      let closing := next.uses later
      let still := closing.life.connection
      still.pump = some ⟨channel, .closed reason :: events⟩ →
      let shut := closing.step (.pumps : Deed σ β)
      shut.life.connection.exchange.outstanding = 0 ∧
      shut.life.connection.exchange.callbacks = still.exchange.callbacks.fireClosed ∧
      ∀ other ∈ still.calls, ∀ id, other.purpose = .request id → (still.attend other).1 = none →
        ∀ after : List (Use σ β),
          let ended := (shut.uses after).life
          (other ∈ ended.connection.calls ∧
            (ended.connection.attend other).1 = some (.error .connectionClosed)) ∨
          (other.ticket, .error .connectionClosed) ∈ ended.finished ∨
          .does (.cancels other.ticket) ∈ after := by
  intro traced connection found due vain next
  have regular : traced.Regular settings := (Traced.regular_new settings transport).uses before
  have asked : connection.settings.timeoutPolicy = .disconnect := by
    rw [show connection.settings = settings from regular.settings]
    exact policy
  obtain ⟨member, rfl⟩ := call?_some found
  obtain ⟨error, disconnects⟩ := lapse_disconnects asked vain
  have step : next.life = traced.life.finish call.ticket
      (some (.error (.receiveTimeout call.timeout)), (connection.lapse call).2) := by
    change traced.life.step (.lapses call.ticket : Deed σ β) = _
    simp only [Life.step]
    rw [show traced.life.connection.call? call.ticket = some call from found]
    dsimp only
    rw [if_neg (Nat.not_lt.mpr due), ← error]
  have finished : next.life.finished = traced.life.finished ++
      [(call.ticket, .error (.receiveTimeout call.timeout))] := by
    rw [step]
    rfl
  have left : Disconnects call connection next.life.connection := by
    rw [step]
    exact disconnects
  have after : next.Regular settings := regular.use (.does (.lapses call.ticket) : Use σ β)
  refine ⟨finished, left, fun later deed other body receives => ?_, ?_⟩
  · exact after.received_later left.queue later receives
  · intro later channel reason events closing still heard shut
    have closingRegular : closing.Regular settings := after.uses later
    obtain ⟨_, sound⟩ := closingRegular.sound
    obtain ⟨nothing, fired, calls, told⟩ := Life.take_close (β := β) sound heard
    refine ⟨nothing, fired, fun other there id purpose looked => ?_⟩
    have answer := told other there id purpose (attend_none_pending purpose looked)
    have shutRegular : shut.Regular settings := closingRegular.use (.does .pumps : Use σ β)
    exact Traced.failed_uses shutRegular (calls ▸ there) purpose answer

section Rehearsed

open Scenario (Rehearsed)

/-- Sets the callbacks, opens a connection and sends two requests; the time of the first is up. -/
def oneTooLate : List (Use Rehearsed Unit) :=
  .hooks (some 1) (some 1) :: opens.map .does ++
    [.does (.requests () (.ofSecs 1)), .does (.requests () (.ofSecs 2)), .does (.passes (.ofSecs 1))]

/-- The first of two requests is out of time, so the transport is stopped and closes. The other one then
returns that the connection is closed; each callback was called once. -/
theorem other_request_closed :
    let traced := (Traced.ofTransport {} {} : Traced Rehearsed UInt8).uses oneTooLate
    let next := traced.step (.lapses 0 : Deed Rehearsed Unit)
    let shut := next.step (.pumps : Deed Rehearsed Unit)
    let ended := (shut.uses [(.does (.attends 1) : Use Rehearsed Unit)]).life
    next.life.finished = [(0, .error (.receiveTimeout (.ofSecs 1)))] ∧
    next.life.connection.transport.stops = 1 ∧ shut.life.connection.exchange.outstanding = 0 ∧
    shut.life.connection.exchange.callbacks = ⟨some 1, some 1, 1, 1⟩ ∧
    (1, .error .connectionClosed) ∈ ended.finished := by
  intro traced next shut ended
  let call : Call := ⟨0, .request ⟨1⟩, .ofSecs 1, 1000000000⟩
  let other : Call := ⟨1, .request ⟨2⟩, .ofSecs 2, 2000000000⟩
  obtain ⟨finished, stopped, _, closes⟩ := timeout_disconnects (σ := Rehearsed) (α := UInt8)
    (β := Unit) {} {} oneTooLate 0 call rfl (by decide +kernel) (by decide +kernel) (by decide +kernel)
  obtain ⟨nothing, fired, fails⟩ := closes [] 0 none [] (by decide +kernel)
  have returned := fails other (by decide +kernel) ⟨2⟩ rfl (by decide +kernel)
    [(.does (.attends 1) : Use Rehearsed Unit)]
  refine ⟨finished, ?_, nothing, ?_, ?_⟩
  · rw [stopped.transport]
    decide +kernel
  · have called := congrArg Callbacks.fireClosed stopped.callbacks
    exact fired.trans (called.trans (by decide +kernel))
  · rcases returned with ⟨stays, _⟩ | returned | dropped
    · exact absurd stays (by decide +kernel)
    · exact returned
    · simp at dropped

end Rehearsed

end Connection

end FrameLink.Link
