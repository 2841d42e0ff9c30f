import Mathlib
import FrameLink.Proofs.Link.Courses
import FrameLink.Proofs.Link.Fates
/-!
What the connection knows of a request that came back because the connection closed: nothing. Its
number is not remembered as that of a request out of time is, so a frame that carries it later counts
as one that nobody asked for.
-/

namespace FrameLink.Link.Connection

open Wait Books Past

variable {σ α β : Type} {past : List (Note α)} {books next : Books α} {id : Correlation}

namespace Books

def Unremembered (books : Books α) : Prop :=
  ∀ call ∈ books.calls, ∀ id, call.purpose = .request id → id ∉ books.expired

theorem Unremembered.less (unremembered : books.Unremembered)
    (calls : ∀ call ∈ next.calls, call ∈ books.calls)
    (expired : ∀ id ∈ next.expired, id ∈ books.expired) : next.Unremembered :=
  fun call member id purpose late => unremembered call (calls call member) id purpose (expired id late)

theorem mem_expire {other : Correlation} {expired : List Correlation}
    (member : other ∈ (if expired.length = Pending.expiredCapacity then expired.drop 1
      else expired) ++ [id]) : other ∈ expired ∨ other = id := by
  rcases List.mem_append.mp member with old | new
  · split at old
    · exact .inl (List.mem_of_mem_drop old)
    · exact .inl old
  · exact .inr (List.mem_singleton.mp new)

theorem Unremembered.entry {notes : List (Note α)} (unremembered : books.Unremembered)
    (agrees : Agrees past books) (few : (issued past).length < 2 ^ 64)
    (entry : Entry books notes next) : next.Unremembered := by
  have fewer : ∀ ticket, ∀ call ∈ books.without ticket, call ∈ books.calls :=
    fun ticket call member => (mem_without.mp member).1
  cases entry with
  | rests | draws | picks | hands | drops | queues =>
    exact unremembered.less (fun _ member => member) (fun _ late => late)
  | receives call | quits call | returns call | fails call | cancels call =>
    exact unremembered.less (fewer call.ticket) (fun _ late => late)
  | forgets => exact unremembered.less (fun _ member => member) (fun _ late => List.mem_of_mem_erase late)
  | shuts => exact fun _ _ _ _ late => List.not_mem_nil late
  | waits call ticket purpose =>
    intro other member id asks
    rcases List.mem_append.mp member with old | new
    · exact unremembered other old id asks
    · rw [List.mem_singleton.mp new, purpose] at asks
      cases asks
  | requests call ticket purpose =>
    intro other member id asks late
    rcases List.mem_append.mp member with old | new
    · exact unremembered other old id asks late
    · rw [List.mem_singleton.mp new, purpose] at asks
      cases asks
      change books.number ∈ books.expired at late
      rw [agrees.settled.expired] at late
      obtain ⟨_, ticket, requested⟩ := agrees.settled.late _ late
      exact agrees.numbered.fresh few (issued_of_requested requested)
  | timesOut call id queue member purpose =>
    intro other there number asks late
    obtain ⟨still, apart⟩ := mem_without.mp there
    rcases mem_expire late with old | rfl
    · exact unremembered other still number asks old
    · have one := agrees.registered.asks other still number asks
      have two := agrees.registered.asks call member number purpose
      exact apart (request_unique agrees.numbered.once one two)

/-! ## Numbers that are through -/

/-- A number was drawn, and neither a call nor the exchange knows of it. -/
structure Through (id : Correlation) (past : List (Note α)) (books : Books α) : Prop where
  drawn : id ∈ issued past
  owner : books.owner id = none
  expired : id ∉ books.expired
  calls : ∀ call ∈ books.calls, call.purpose ≠ .request id

theorem Through.less {notes : List (Note α)} (through : Through id past books)
    (owner : next.owner id = none) (expired : id ∈ next.expired → id ∈ books.expired)
    (calls : ∀ call ∈ next.calls, call ∈ books.calls) : Through id (notes ++ past) next where
  drawn := by
    rw [issued_append]
    exact List.mem_append_right _ through.drawn
  owner := owner
  expired late := through.expired (expired late)
  calls call member := through.calls call (calls call member)

theorem Through.entry {notes : List (Note α)} (through : Through id past books)
    (numbered : Numbered past books.counter) (few : (issued past).length < 2 ^ 64)
    (entry : Entry books notes next) : Through id (notes ++ past) next := by
  have fewer : ∀ ticket, ∀ call ∈ books.without ticket, call ∈ books.calls :=
    fun ticket call member => (mem_without.mp member).1
  have cleared : ∀ other, Function.update books.owner other none id = none := by
    intro other
    rw [Function.update_apply]
    split
    · rfl
    · exact through.owner
  cases entry with
  | rests | draws | picks | queues =>
    exact through.less through.owner (fun late => late) (fun _ member => member)
  | receives call | quits call | returns call | fails call | cancels call =>
    exact through.less through.owner (fun late => late) (fewer call.ticket)
  | hands other | drops other =>
    exact through.less (cleared other) (fun late => late) (fun _ member => member)
  | forgets =>
    exact through.less through.owner List.mem_of_mem_erase (fun _ member => member)
  | shuts => exact through.less rfl (fun late => absurd late List.not_mem_nil) (fun _ member => member)
  | timesOut call other queue member purpose =>
    refine through.less (cleared other) (fun late => ?_) (fewer call.ticket)
    rcases mem_expire late with old | rfl
    · exact old
    · exact absurd purpose (through.calls call member)
  | waits call ticket purpose =>
    refine ⟨through.drawn, through.owner, through.expired, fun other member => ?_⟩
    rcases List.mem_append.mp member with old | new
    · exact through.calls other old
    · rw [List.mem_singleton.mp new, purpose]
      simp
  | requests call ticket purpose =>
    have new : id ≠ books.number := by
      rintro rfl
      exact numbered.fresh few through.drawn
    refine ⟨List.mem_cons_of_mem _ through.drawn, ?_, through.expired, fun other member => ?_⟩
    · change Function.update books.owner books.number _ id = none
      rw [Function.update_of_ne new]
      exact through.owner
    · rcases List.mem_append.mp member with old | last
      · exact through.calls other old
      · rw [List.mem_singleton.mp last, purpose]
        simpa using Ne.symm new

theorem Through.queued {body : α} (through : Through id past books)
    (entry : Entry books [.frame id body] next) : next.queue = books.queue ++ [body] := by
  cases entry with
  | draws _ _ one => simp at one
  | hands _ _ ticket owned =>
    rw [through.owner] at owned
    cases owned
  | drops _ _ ticket owned =>
    rw [through.owner] at owned
    cases owned
  | forgets _ _ _ member => exact absurd member through.expired
  | queues => rfl

end Books

/-! ## Lives -/

namespace Life

variable [Transport σ] [Wire α] [Wire β]

theorem notes_length_le (life : Life σ α) (deed : Deed σ β) : (life.notes deed).length ≤ 1 := by
  cases deed with
  | sends | requests | cancels | lapses | pumps =>
    simp only [notes]
    repeat' split
    all_goals simp
  | dials | concludes | disconnects | receives | attends | stirs | passes => exact Nat.zero_le _

omit [Wire α] in
theorem issued_length_le (past : List (Note α)) : (issued past).length ≤ past.length := by
  induction past with
  | nil => exact Nat.le_refl _
  | cons note past ih => cases note <;> simp only [issued, List.length_cons] <;> omega

theorem issued_history_le (deeds : List (Deed σ β)) (life : Life σ α) :
    (issued (life.history deeds)).length ≤ deeds.length := by
  refine (issued_length_le _).trans ?_
  induction deeds generalizing life with
  | nil => exact Nat.le_refl _
  | cons deed deeds ih =>
    rw [history, List.length_append, List.length_cons]
    exact Nat.add_le_add (ih _) (life.notes_length_le deed)

omit [Transport σ] [Wire α] in
theorem came_of_finish {life : Life σ α} {ticket other : Ticket}
    {came : Option (Outcome α) × Connection σ α} {outcome : Outcome α}
    (same : (life.finish ticket came).finished = life.finished ++ [(other, outcome)]) :
    ticket = other ∧ came.1 = some outcome := by
  have last := List.append_cancel_left same
  cases found : came.1 with
  | none => simp [found] at last
  | some result =>
    simp only [found, Option.map_some, Option.toList_some, List.cons.injEq, Prod.mk.injEq,
      and_true] at last
    exact ⟨last.1, by rw [last.2]⟩

omit [Transport σ] [Wire α] in
/-- Once a request has come back closed, the exchange knows nothing of its number. -/
theorem through_of_closed {life : Life σ α} {call : Call} {after : Connection σ α}
    (agrees : Agrees past life.books) (unremembered : life.books.Unremembered)
    (member : call ∈ life.connection.calls) (purpose : call.purpose = .request id)
    (attended : life.connection.attend call = (some (.error .connectionClosed), after)) :
    Through id past ((after.remove call.ticket).books life.given) := by
  have requested := agrees.registered.asks call member id purpose
  have own : ∀ ticket, .requested id ticket ∈ past → ticket = call.ticket := fun ticket asked =>
    request_unique agrees.numbered.once asked requested
  obtain ⟨_, none, _⟩ | ⟨_, _, none, _⟩ | ⟨ended, _, same⟩ :=
    books_attend_request life.given purpose attended
  · cases none
  · cases none
  rw [books_remove, same]
  refine ⟨issued_of_requested requested, ?_, unremembered call member id purpose, ?_⟩
  · refine (agrees.settled.owner id).trans ?_
    cases stands : standing id past with
    | absent => rfl
    | waiting ticket =>
      have pending := agrees.settled.waiting id ticket stands
      rw [own ticket (requested_of_waiting stands)] at pending
      exact absurd pending ended
    | forsaken ticket =>
      have gone := agrees.settled.forsaken id ticket stands
      rw [own ticket (requested_of_forsaken stands)] at gone
      have held := agrees.settled.held call member id purpose
      rw [gone] at held
      cases held
  · intro other there asks
    obtain ⟨still, apart⟩ := mem_without.mp there
    exact apart (own _ (agrees.registered.asks other still id asks))

theorem through_of_attends {life : Life σ α} {ticket : Ticket} {call : Call}
    (agrees : Agrees past life.books) (unremembered : life.books.Unremembered)
    (member : call ∈ life.connection.calls) (purpose : call.purpose = .request id)
    (came : (life.step (.attends ticket : Deed σ β)).finished =
      life.finished ++ [(call.ticket, .error .connectionClosed)]) :
    Through id past (life.step (.attends ticket : Deed σ β)).books := by
  simp only [step] at came ⊢
  cases found : life.connection.call? ticket with
  | none =>
    rw [found] at came
    simp at came
  | some other =>
    obtain ⟨there, rfl⟩ := call?_some found
    rw [found] at came
    dsimp only at came ⊢
    cases attended : life.connection.attend other with
    | mk outcome after =>
      rw [attended] at came
      cases outcome with
      | none => simp at came
      | some outcome =>
        obtain ⟨ticket, same⟩ := came_of_finish came
        obtain rfl := agrees.registered.same there member ticket
        cases same
        rw [books_finish_error]
        exact through_of_closed agrees unremembered member purpose attended

theorem through_of_lapses {life : Life σ α} {ticket : Ticket} {call : Call}
    (agrees : Agrees past life.books) (unremembered : life.books.Unremembered)
    (member : call ∈ life.connection.calls) (purpose : call.purpose = .request id)
    (came : (life.step (.lapses ticket : Deed σ β)).finished =
      life.finished ++ [(call.ticket, .error .connectionClosed)]) :
    Through id (life.notes (.lapses ticket : Deed σ β) ++ past)
      (life.step (.lapses ticket : Deed σ β)).books := by
  simp only [step, notes] at came ⊢
  cases found : life.connection.call? ticket with
  | none =>
    rw [found] at came
    simp at came
  | some other =>
    obtain ⟨there, rfl⟩ := call?_some found
    rw [found] at came
    dsimp only at came ⊢
    split at came
    · simp at came
    next late =>
      rw [if_neg late, if_neg late]
      obtain ⟨ticket, same⟩ := came_of_finish came
      obtain rfl := agrees.registered.same there member ticket
      -- Out of time is another fault, so the call had its outcome when it looked once more.
      cases attended : life.connection.attend other with
      | mk outcome after =>
        simp only [lapse, attended] at same ⊢
        cases outcome with
        | none => cases same
        | some outcome =>
          cases same
          rw [purpose, books_finish_error]
          exact through_of_closed agrees unremembered member purpose attended

theorem through_of_returned {life : Life σ α} {deed : Deed σ β} {call : Call}
    (agrees : Agrees past life.books) (unremembered : life.books.Unremembered)
    (member : call ∈ life.connection.calls) (purpose : call.purpose = .request id)
    (came : (life.step deed).finished =
      life.finished ++ [(call.ticket, .error .connectionClosed)]) :
    Through id (life.notes deed ++ past) (life.step deed).books := by
  have unfinished : life.finished ≠ life.finished ++ [(call.ticket, .error .connectionClosed)] := by
    simp
  have old : call.ticket < life.connection.tickets := agrees.registered.calls call member
  cases deed with
  | dials url verbose =>
    simp only [step] at came
    split at came <;> exact absurd came unfinished
  | concludes | disconnects | sends | cancels | stirs | passes => exact absurd came unfinished
  | pumps =>
    simp only [step] at came
    split at came <;> exact absurd came unfinished
  -- A call that is over as soon as it begins has a newer ticket.
  | receives timeout => exact absurd (came_of_finish came).1 (Nat.ne_of_gt old)
  | requests body timeout => exact absurd (came_of_finish came).1 (Nat.ne_of_gt old)
  | attends ticket => exact through_of_attends agrees unremembered member purpose came
  | lapses ticket => exact through_of_lapses agrees unremembered member purpose came

/-- The books are as the past tells, and no number is remembered while a call waits under it. -/
structure Tidy (past : List (Note α)) (books : Books α) : Prop where
  agrees : Agrees past books
  unremembered : books.Unremembered

omit [Transport σ] [Wire α] in
theorem tidy_new (settings : ConnectSettings) (transport : σ) :
    Tidy [] (ofTransport settings transport : Life σ α).books :=
  ⟨agrees_new settings transport, fun _ member => absurd member List.not_mem_nil⟩

theorem Tidy.step {life : Life σ α} (tidy : Tidy past life.books)
    (few : (issued past).length < 2 ^ 64) (deed : Deed σ β) :
    Tidy (life.notes deed ++ past) (life.step deed).books := by
  have entry := life.entry (tidy.agrees.kept few) deed
  exact ⟨tidy.agrees.entry few entry, tidy.unremembered.entry tidy.agrees few entry⟩

theorem issued_step_le (past : List (Note α)) (life : Life σ α) (deed : Deed σ β) :
    (issued (life.notes deed ++ past)).length ≤ (issued past).length + 1 := by
  have one := (issued_length_le (life.notes deed)).trans (life.notes_length_le deed)
  rw [issued_append, List.length_append]
  omega

theorem Tidy.run (deeds : List (Deed σ β)) {life : Life σ α} (tidy : Tidy past life.books)
    (few : (issued past).length + deeds.length < 2 ^ 64) :
    Tidy (life.history deeds ++ past) (life.run deeds).books := by
  induction deeds generalizing life past with
  | nil => exact tidy
  | cons deed deeds ih =>
    have one := issued_step_le past life deed
    rw [List.length_cons] at few
    rw [history, List.append_assoc]
    exact ih (tidy.step (by omega) deed) (by omega)

theorem through_run (deeds : List (Deed σ β)) {life : Life σ α} (tidy : Tidy past life.books)
    (through : Through id past life.books)
    (few : (issued past).length + deeds.length < 2 ^ 64) :
    Through id (life.history deeds ++ past) (life.run deeds).books := by
  induction deeds generalizing life past with
  | nil => exact through
  | cons deed deeds ih =>
    have one := issued_step_le past life deed
    rw [List.length_cons] at few
    have drawn : (issued past).length < 2 ^ 64 := by omega
    have entry := life.entry (tidy.agrees.kept drawn) deed
    rw [history, List.append_assoc]
    exact ih (tidy.step drawn deed) (through.entry tidy.agrees.numbered drawn entry) (by omega)

end Life

/-! ## Courses -/

namespace Course

open Life

variable [Wire α] [Wire β]

/-- A course has a past that tells of its books, with a number a move at most. -/
theorem run_tidy (settings : ConnectSettings) (moves : List (Move β))
    (few : moves.length < 2 ^ 64) :
    ∃ past, (issued past).length ≤ moves.length ∧
      Tidy past ((ofSettings settings : Course α).run moves).life.books := by
  obtain ⟨deeds, short, lived⟩ := run_lives moves (ofSettings settings : Course α)
  have new : Tidy [] (ofSettings settings : Course α).life.books := tidy_new settings _
  have tidy := new.run deeds (by rw [issued, List.length_nil]; omega)
  rw [List.append_nil, lived] at tidy
  exact ⟨_, (issued_history_le deeds _).trans short, tidy⟩

/-- The move with which a request comes back closed is a deed, since it ends a call. -/
theorem step?_through {course next : Course α} {move : Move β} {call : Call}
    (step : course.step? move = some next) (tidy : Tidy past course.life.books)
    (few : (issued past).length < 2 ^ 64)
    (member : call ∈ course.connection.calls) (purpose : call.purpose = .request id)
    (came : next.finished = course.finished ++ [(call.ticket, .error .connectionClosed)]) :
    ∃ after, (issued after).length ≤ (issued past).length + 1 ∧ Tidy after next.life.books ∧
      Through id after next.life.books := by
  obtain ⟨deeds, single, begun⟩ := step?_lives step
  match deeds, single, begun with
  | [], _, begun =>
    have same : next.finished = course.finished := congrArg Life.finished begun.symm
    rw [same] at came
    simp at came
  | [deed], _, begun =>
    change course.life.step deed = next.life at begun
    refine ⟨course.life.notes deed ++ past, issued_step_le past course.life deed, ?_, ?_⟩
    · rw [← begun]
      exact tidy.step few deed
    · rw [← begun]
      refine through_of_returned tidy.agrees tidy.unremembered member purpose ?_
      rw [begun]
      exact came

theorem through_after (settings : ConnectSettings) (before : List (Move β)) {move : Move β}
    {next : Course α} {call : Call}
    (step : ((ofSettings settings : Course α).run before).step? move = some next)
    (member : call ∈ ((ofSettings settings : Course α).run before).connection.calls)
    (purpose : call.purpose = .request id)
    (came : next.finished = ((ofSettings settings : Course α).run before).finished ++
      [(call.ticket, .error .connectionClosed)])
    (few : before.length < 2 ^ 64) :
    ∃ after, (issued after).length ≤ before.length + 1 ∧ Tidy after next.life.books ∧
      Through id after next.life.books := by
  obtain ⟨past, drawn, tidy⟩ := run_tidy (α := α) settings before few
  obtain ⟨after, one, tidy', through⟩ := step?_through step tidy (by omega) member purpose came
  exact ⟨after, by omega, tidy', through⟩

/-- A number that is through stays so whatever befalls the connection. -/
theorem lives_through {course next : Course α} {deeds : List (Deed SocketTransport β)}
    (lived : course.life.run deeds = next.life) (tidy : Tidy past course.life.books)
    (through : Through id past course.life.books)
    (few : (issued past).length + deeds.length < 2 ^ 64) :
    ∃ after, (issued after).length ≤ (issued past).length + deeds.length ∧
      Tidy after next.life.books ∧ Through id after next.life.books := by
  refine ⟨course.life.history deeds ++ past, ?_, ?_, ?_⟩
  · have drawn := issued_history_le deeds course.life
    rw [issued_append, List.length_append]
    omega
  · rw [← lived]
    exact tidy.run deeds few
  · rw [← lived]
    exact through_run deeds tidy through few

theorem pumps_through {course : Course α} {channel : Nat} {data : Bytes} {events : List Event}
    {body : α} (through : Through id past course.life.books)
    (heard : course.connection.pump = some ⟨channel, .message data :: events⟩)
    (decoded : Frame.decode data course.connection.limit = .ok ⟨id, body⟩) :
    ∃ next, course.step? (.pumps : Move β) = some next ∧
      next.connection.exchange.inbox.queue = course.connection.exchange.inbox.queue ++ [body] ∧
      next.finished = course.finished := by
  have entry := entry_deliver course.life.given data
    { course.connection with pump := some ⟨channel, events⟩ }
  have same : (Frame.decode data
      { course.connection with pump := some (Pump.mk channel events) }.limit :
        Except FrameError (Frame α)) = .ok ⟨id, body⟩ := decoded
  rw [same] at entry
  let left := { course.connection with pump := some (Pump.mk channel events) }
  refine ⟨{ course with connection := left.deliver data }, ?_, through.queued entry, rfl⟩
  simp only [step?, pump?, heard]
  rfl

end Course

end FrameLink.Link.Connection
