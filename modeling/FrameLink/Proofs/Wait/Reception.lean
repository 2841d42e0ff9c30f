import FrameLink.Proofs.Wait.History
/-!
What the history of a queue with waiting calls says, and what every move keeps of it: who waits and
in which order, how each call ends, and when.
-/

namespace FrameLink.Wait

open LawfulQueue

/-- What is withdrawn is no longer there, and all else is. -/
class LawfulWithdrawal (ω σ : Type) {α : Type} [Queue σ α] [LawfulQueue σ α]
    [Withdrawal ω σ α] : Prop where
  sound_withdraw : ∀ (way : ω) {queue : σ}, Sound queue →
    Sound (Withdrawal.withdraw way queue).2
  withdraw_perm : ∀ (way : ω) {queue : σ}, Sound queue →
    ((Withdrawal.withdraw way queue).1 ++ items (Withdrawal.withdraw way queue).2).Perm
      (items queue)

instance {α : Type} : LawfulWithdrawal Unit (List α) where
  sound_withdraw _ _ _ := trivial
  withdraw_perm _ queue _ := .of_eq (List.append_nil queue)

namespace Reception

variable {σ α : Type} [Queue σ α] [LawfulQueue σ α] (ω : Type) [Withdrawal ω σ α]

/-! ## Steps -/

inductive Does (reception : Reception σ) : List (Event α) → Reception σ → Prop
  | pushes (item : α) :
      Does reception [.pushed item]
        { reception with place := reception.place.arrive (Queue.push item) }
  | withdraws (way : ω) :
      Does reception [.withdrawn (Withdrawal.withdraw way reception.place.queue).1]
        { reception with place := reception.place.quietly fun queue =>
            (Withdrawal.withdraw way queue).2 }
  | finds {call : Deadline} {item : α} {queue : σ} (own : call.ticket = reception.tickets)
      (sound : Sound queue) (first : items reception.place.queue = item :: items queue) :
      Does reception [.begun call, .returned call.ticket item]
        { reception with
          place := ⟨queue, reception.place.bell⟩, tickets := reception.tickets + 1 }
  | waits {call : Deadline} {queue : σ} (own : call.ticket = reception.tickets)
      (later : reception.now ≤ call.instant) (sound : Sound queue) (empty : items queue = [])
      (nothing : items reception.place.queue = []) :
      Does reception [.begun call, .waited call.ticket]
        { reception with
          place := ⟨queue, ⟨false, reception.place.bell.parked ++ [call.ticket],
            reception.place.bell.woken⟩⟩
          calls := reception.calls ++ [call]
          tickets := reception.tickets + 1 }
  | returns {ticket : Ticket} {rest : List Ticket} {item : α} {queue : σ}
      (woken : reception.place.bell.woken = ticket :: rest)
      (sound : Sound queue) (first : items reception.place.queue = item :: items queue) :
      Does reception [.returned ticket item]
        { reception with
          place := ⟨queue, reception.place.bell.rouse ticket⟩
          calls := reception.calls.filter fun call => call.ticket != ticket }
  | resumes {ticket : Ticket} {rest : List Ticket} {queue : σ}
      (woken : reception.place.bell.woken = ticket :: rest)
      (sound : Sound queue) (empty : items queue = [])
      (nothing : items reception.place.queue = []) :
      Does reception [.waited ticket]
        { reception with
          place := ⟨queue, ⟨false, reception.place.bell.parked ++ [ticket],
            (reception.place.bell.rouse ticket).woken⟩⟩ }
  | cancels {call : Deadline} (here : call ∈ reception.calls) :
      Does reception [.cancelled call.ticket] (reception.quit call.ticket)
  | expires {call : Deadline} (here : call ∈ reception.calls)
      (due : call.instant = reception.now) :
      Does reception [.expired call.ticket reception.now] (reception.quit call.ticket)
  | passes {moment : Instant} (settled : reception.place.bell.woken = [])
      (later : reception.now ≤ moment) (before : ∀ call ∈ reception.calls, moment ≤ call.instant) :
      Does reception [] { reception with now := moment }

inductive Proceeds : Reception σ → List (Event α) → Reception σ → Prop
  | refl (reception : Reception σ) : Proceeds reception [] reception
  | next {reception middle after : Reception σ} {events later : List (Event α)}
      (does : Does ω reception events middle) (proceeds : Proceeds middle later after) :
      Proceeds reception (events ++ later) after

variable {ω} {reception next : Reception σ} {past events : List (Event α)}

/-! ## Queue and bell -/

/-- The bell is right for what is queued. -/
structure Stocked (reception : Reception σ) : Prop where
  sound : Sound reception.place.queue
  covers : reception.place.bell.Covers (items reception.place.queue).length

theorem Does.stocked [LawfulWithdrawal ω σ] (does : Does ω reception events next)
    (stocked : Stocked reception) : Stocked next := by
  obtain ⟨sound, covers⟩ := stocked
  cases does with
  | pushes item =>
    refine ⟨sound_push item sound, ?_⟩
    show Bell.Covers _ (items (Queue.push item reception.place.queue)).length
    rw [items_push item sound, List.length_append]
    exact covers.ring
  | withdraws way =>
    refine ⟨LawfulWithdrawal.sound_withdraw way sound, covers.fewer ?_⟩
    rw [← (LawfulWithdrawal.withdraw_perm way sound).length_eq, List.length_append]
    exact Nat.le_add_left ..
  | finds own sound' first =>
    refine ⟨sound', covers.fewer ?_⟩
    rw [first]
    exact Nat.le_succ _
  | waits own later sound' empty nothing | resumes woken sound' empty nothing =>
    refine ⟨sound', fun _ => ⟨rfl, ?_⟩⟩
    rw [empty]
    exact Nat.zero_le _
  | returns woken sound' first =>
    have taken := covers.rouse (woken ▸ List.mem_cons_self)
    rw [first] at taken
    exact ⟨sound', taken⟩
  | cancels | expires => exact ⟨sound, covers.leave⟩
  | passes => exact ⟨sound, covers⟩

theorem Does.booked (does : Does ω reception events next) (booked : Booked past reception) :
    Booked (past ++ events) next := by
  cases does with
  | pushes item => exact booked.same (.of_eq (Bell.line_ring _)) rfl rfl rfl
  | withdraws | passes => exact booked.same (.refl _) rfl rfl rfl
  | finds own sound first => exact booked.passesThrough rfl rfl rfl (congrArg ([·]) own)
  | waits own later sound empty nothing =>
    exact booked.joins own (List.append_assoc ..).symm rfl rfl rfl
  | returns woken sound first =>
    refine booked.ends ?_ ?_ rfl rfl rfl
    · simp [Bell.line, woken]
    · simp [Bell.line, Bell.rouse, woken]
  | @resumes ticket rest queue woken sound empty nothing =>
    refine booked.same ?_ rfl rfl rfl
    rw [Bell.line, Bell.line, Bell.rouse, woken, List.erase_cons_head, ← List.append_assoc]
    exact List.perm_append_singleton ticket _
  | cancels here | expires here due =>
    exact booked.ends (booked.mem_line here) (Bell.line_leave _ _) rfl rfl rfl

/-! ## The order of service -/

theorem Does.lined (does : Does ω reception events next) (booked : Booked past reception)
    (lined : Lined past reception) : Lined (past ++ events) next := by
  cases does with
  | pushes item => exact lined.append (Bell.line_ring _).symm ⟨by simp, trivial⟩
  | withdraws way => exact lined.append rfl ⟨by simp, trivial⟩
  | passes => exact lined.append rfl trivial
  | @finds call item queue own sound first =>
    have absent : call.ticket ∉ reception.place.bell.line := own ▸ booked.fresh.1
    refine lined.append (List.erase_of_not_mem absent) ⟨by simp, ?_, trivial⟩
    rintro _ _ ⟨⟩
    exact .inl absent
  | @waits call queue own later sound empty nothing =>
    have absent : call.ticket ∉ reception.place.bell.line := own ▸ booked.fresh.1
    refine lined.append ?_ ⟨by simp, by simp, trivial⟩
    show reception.place.bell.line.erase call.ticket ++ [call.ticket] =
      reception.place.bell.woken ++ (reception.place.bell.parked ++ [call.ticket])
    rw [List.erase_of_not_mem absent, Bell.line, List.append_assoc]
  | @returns ticket rest item queue woken sound first =>
    refine lined.append ?_ ⟨?_, trivial⟩
    · simp [wait, Bell.line, Bell.rouse, woken]
    · rintro _ _ ⟨⟩
      exact .inr (by simp [Bell.line, woken])
  | @resumes ticket rest queue woken sound empty nothing =>
    refine lined.append ?_ ⟨by simp, trivial⟩
    simp [wait, Bell.line, Bell.rouse, woken]
  | cancels here | expires here due =>
    exact lined.append (Bell.line_leave _ _).symm ⟨by simp, trivial⟩

/-! ## The ends of the calls -/

theorem Does.timely (does : Does ω reception events next) (booked : Booked past reception)
    (timely : Timely past reception) : Timely (past ++ events) next := by
  cases does with
  | pushes item | withdraws way | resumes =>
    exact timely.fewer (fun _ => id) timely.ahead (by simp) (fun _ => .inl) (by simp)
  | passes settled later before =>
    exact timely.fewer (fun _ => id) before (by simp) (fun _ => .inl) (by simp)
  | @finds call item queue own sound first =>
    have ended : Ended [.returned call.ticket item] call := .inl ⟨item, List.mem_singleton_self _⟩
    exact timely.begins (fun _ => .inl) (fun _ => id) rfl nofun nofun (.inr ended)
  | @waits call queue own later sound empty nothing =>
    have joined : call ∈ reception.calls ++ [call] :=
      List.mem_append_right _ (List.mem_singleton_self _)
    refine timely.begins ?_ (fun other => List.mem_append_left _) rfl nofun nofun (.inl joined)
    intro other here
    rcases List.mem_append.mp here with before | new
    · exact .inl before
    · exact .inr ⟨List.mem_singleton.mp new, later⟩
  | @returns ticket rest item queue woken sound first =>
    refine timely.without rfl rfl nofun ?_ nofun
    rintro call - rfl
    exact .inl ⟨item, List.mem_singleton_self _⟩
  | @cancels call here =>
    refine timely.without rfl rfl nofun ?_ nofun
    rintro other - same
    exact .inr (.inl (List.mem_singleton.mpr (congrArg _ same)))
  | @expires call here due =>
    refine timely.without rfl rfl nofun ?_ ?_
    · intro other too same
      rw [← due, ← booked.unique too here same]
      exact .inr (.inr (List.mem_singleton_self _))
    · rintro _ _ ⟨⟩
      rw [← due]
      exact here

/-! ## Tickets -/

theorem Does.issued (does : Does ω reception events next) (issued : Issued past reception) :
    Issued (past ++ events) next := by
  rw [Issued, begun, List.filterMap_append, ← begun, List.map_append, issued]
  cases does with
  | finds own sound first => simp [own, List.range_succ]
  | waits own later sound empty nothing => simp [own, List.range_succ]
  | pushes | withdraws | returns | resumes | cancels | expires | passes => exact List.append_nil _

/-! ## Runs -/

/-- What holds of a queue with waiting calls at any time. -/
structure Kept (past : List (Event α)) (reception : Reception σ) : Prop
    extends Stocked reception, Booked past reception, Lined past reception,
      Timely past reception where
  issued : Issued past reception

theorem Proceeds.kept [LawfulWithdrawal ω σ] (proceeds : Proceeds ω reception events next)
    (kept : Kept past reception) : Kept (past ++ events) next := by
  induction proceeds generalizing past with
  | refl => rwa [List.append_nil]
  | next does _ ih =>
    rw [← List.append_assoc]
    exact ih ⟨does.stocked kept.toStocked, does.booked kept.toBooked,
      does.lined kept.toBooked kept.toLined, does.timely kept.toBooked kept.toTimely,
      does.issued kept.issued⟩

theorem Does.proceeds (does : Does ω reception events next) : Proceeds ω reception events next := by
  have one := Proceeds.next does (.refl next)
  rwa [List.append_nil] at one

theorem expire_proceeds {calls : List Deadline} (distinct : (calls.map (·.ticket)).Nodup)
    (here : ∀ call ∈ calls, call ∈ reception.calls)
    (due : ∀ call ∈ calls, call.instant = reception.now)
    (expired : expire calls reception = (events, next)) : Proceeds ω reception events next := by
  induction calls generalizing reception events with
  | nil =>
    cases expired
    exact .refl _
  | cons call rest ih =>
    obtain ⟨absent, distinct⟩ := List.nodup_cons.mp distinct
    rcases others : expire rest (reception.quit call.ticket) with ⟨later, after⟩
    rw [expire, others] at expired
    cases expired
    have left : ∀ other ∈ rest, other ∈ (reception.quit call.ticket).calls := by
      intro other member
      refine List.mem_filter.mpr ⟨here other (List.mem_cons_of_mem call member), bne_iff_ne.mpr ?_⟩
      intro same
      exact absent (List.mem_map.mpr ⟨other, member, same⟩)
    exact .next (.expires (here call List.mem_cons_self) (due call List.mem_cons_self))
      (ih distinct left (fun other member => due other (List.mem_cons_of_mem call member)) others)

theorem lapse_proceeds (booked : Booked past reception)
    (ahead : ∀ call ∈ reception.calls, reception.now ≤ call.instant)
    (lapsed : reception.lapse = (events, next)) : Proceeds ω reception events next := by
  refine expire_proceeds (booked.nodup_passing reception.now) ?_ ?_ lapsed
  · exact fun call member => (mem_passing.mp member).1
  · intro call member
    obtain ⟨here, due⟩ := mem_passing.mp member
    exact le_antisymm due (ahead call here)

/-- A move is some of the things that can occur. -/
theorem step?_proceeds [LawfulWithdrawal ω σ] {move : Move ω α} (kept : Kept past reception)
    (stepped : reception.step? move = some (events, next)) : Proceeds ω reception events next := by
  cases move with
  | pushes item =>
    cases stepped
    exact (Does.pushes item).proceeds
  | withdraws way =>
    cases stepped
    exact (Does.withdraws way).proceeds
  | begins timeout =>
    have attends := Awaited.attend_attends reception.tickets kept.sound
    rw [step?] at stepped
    dsimp only at stepped
    rcases attended : reception.place.attend reception.tickets with ⟨_ | item, place⟩
    · rw [attended] at stepped attends
      cases attends with
      | parks sound nothing still =>
        have does : Does ω reception [.begun ⟨reception.tickets, reception.now + timeout.nanos⟩,
            .waited reception.tickets] _ := .waits rfl (Nat.le_add_right ..) sound still nothing
        have waiting := does.proceeds.kept kept
        cases stepped
        exact .next does (lapse_proceeds waiting.toBooked waiting.ahead rfl)
    · rw [attended] at stepped attends
      cases stepped
      cases attends with
      | finds sound first => exact (Does.finds rfl sound first).proceeds
  | looks =>
    rw [step?] at stepped
    split at stepped
    next => cases stepped
    next ticket rest woken =>
      have attends : Awaited.Attends ticket
          ⟨reception.place.queue, reception.place.bell.rouse ticket⟩
          (reception.place.wake ticket).1 (reception.place.wake ticket).2 :=
        Awaited.attend_attends ticket kept.sound
      rcases woke : reception.place.wake ticket with ⟨_ | item, place⟩
      · rw [woke] at stepped attends
        cases stepped
        cases attends with
        | parks sound nothing still => exact (Does.resumes woken sound still nothing).proceeds
      · rw [woke] at stepped attends
        cases stepped
        cases attends with
        | finds sound first => exact (Does.returns woken sound first).proceeds
  | cancels ticket =>
    rw [step?] at stepped
    split at stepped
    next here =>
      obtain ⟨call, member, same⟩ := List.any_eq_true.mp here
      cases stepped
      rw [← eq_of_beq same]
      exact (Does.cancels member).proceeds
    next => cases stepped
  | passes span =>
    rw [step?] at stepped
    split at stepped
    next settled =>
      let moment := reception.nextMoment (reception.now + span.nanos)
      have does : Does ω reception [] { reception with now := moment } := .passes settled
        (le_nextMoment.mpr ⟨Nat.le_add_right .., kept.ahead⟩) (le_nextMoment.mp le_rfl).2
      have later := does.proceeds.kept kept
      exact .next does (lapse_proceeds later.toBooked later.ahead (Option.some.inj stepped))
    next => cases stepped

omit [LawfulQueue σ α] in
/-- Between two moves no call is past its deadline, or at it. -/
theorem step?_later {move : Move ω α}
    (later : ∀ call ∈ reception.calls, reception.now < call.instant)
    (stepped : reception.step? move = some (events, next)) :
    ∀ call ∈ next.calls, next.now < call.instant := by
  have fewer : ∀ ticket, ∀ call ∈ reception.calls.filter fun call => call.ticket != ticket,
      reception.now < call.instant :=
    fun ticket call left => later call (List.mem_filter.mp left).1
  cases move with
  | pushes item | withdraws way =>
    cases stepped
    exact later
  | begins timeout =>
    rw [step?] at stepped
    dsimp only at stepped
    split at stepped
    next =>
      cases stepped
      exact later
    next =>
      cases stepped
      exact (lapse_left rfl).2.2
  | looks =>
    rw [step?] at stepped
    split at stepped
    next => cases stepped
    next ticket rest woken =>
      split at stepped
      next =>
        cases stepped
        exact fewer ticket
      next =>
        cases stepped
        exact later
  | cancels ticket =>
    rw [step?] at stepped
    split at stepped
    next =>
      cases stepped
      exact fewer ticket
    next => cases stepped
  | passes span =>
    rw [step?] at stepped
    split at stepped
    next => exact (lapse_left (Option.some.inj stepped)).2.2
    next => cases stepped

omit [LawfulQueue σ α] in
theorem passes_queue {span : Duration}
    (stepped : reception.step? (.passes span : Move ω α) = some (events, next)) :
    next.place.queue = reception.place.queue := by
  rw [step?] at stepped
  split at stepped
  next => exact (lapse_left (Option.some.inj stepped)).2.1
  next => cases stepped

/-! ## The account of the items -/

/-- Where items are withdrawn from the front only, all leave in the order in which they came. -/
theorem Does.account
    (front : ∀ (way : ω) {queue : σ}, Sound queue →
      items queue = (Withdrawal.withdraw way queue).1 ++ items (Withdrawal.withdraw way queue).2)
    (does : Does ω reception events next) (stocked : Stocked reception)
    (account : pushed past = departed past ++ items reception.place.queue) :
    pushed (past ++ events) = departed (past ++ events) ++ items next.place.queue := by
  rw [pushed, departed, List.filterMap_append, List.flatMap_append, ← pushed, ← departed, account]
  cases does with
  | pushes item =>
    show _ = _ ++ items (Queue.push item reception.place.queue)
    rw [items_push item stocked.sound]
    simp
  | withdraws way =>
    rw [front way stocked.sound]
    simp [Awaited.quietly]
  | finds own sound first | returns woken sound first => simp [first]
  | waits own later sound empty nothing | resumes woken sound empty nothing => simp [empty, nothing]
  | cancels | expires | passes => simp [quit, Awaited.leave]

theorem Proceeds.account [LawfulWithdrawal ω σ]
    (front : ∀ (way : ω) {queue : σ}, Sound queue →
      items queue = (Withdrawal.withdraw way queue).1 ++ items (Withdrawal.withdraw way queue).2)
    (proceeds : Proceeds ω reception events next) (stocked : Stocked reception)
    (account : pushed past = departed past ++ items reception.place.queue) :
    pushed (past ++ events) = departed (past ++ events) ++ items next.place.queue := by
  induction proceeds generalizing past with
  | refl => rwa [List.append_nil]
  | next does _ ih =>
    rw [← List.append_assoc]
    exact ih (does.stocked stocked) (does.account front stocked account)

end Reception

end FrameLink.Wait
