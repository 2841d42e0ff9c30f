import FrameLink.Proofs.Wait.Reception
/-!
Runs of a queue with waiting calls, and what can be read off the history of every run.
-/

namespace FrameLink.Wait.Reception

open LawfulQueue

variable {σ α : Type} [Queue σ α] [LawfulQueue σ α] {ω : Type} [Withdrawal ω σ α]
  {next : Reception σ} {events : List (Event α)}

structure Record.Sound (record : Record σ α) : Prop
    extends Kept record.past record.reception where
  later : ∀ call ∈ record.reception.calls, record.reception.now < call.instant

namespace Record

variable {record : Record σ α}

theorem sound_start {place : Awaited σ} (sound : LawfulQueue.Sound place.queue)
    (bell : place.bell = {}) : Sound (⟨[], { place }⟩ : Record σ α) where
  sound := sound
  covers some := absurd (congrArg Bell.parked bell) some
  standing := by simp [bell, Bell.line]
  nodup := by simp [bell, Bell.line]
  below := by simp [bell, Bell.line]
  once := .nil
  gone := nofun
  line := by simp [bell, Bell.line, waiting]
  turns := trivial
  begun := nofun
  ahead := nofun
  fates := nofun
  due := nofun
  issued := rfl
  later := nofun

omit [LawfulQueue σ α] in
theorem step_some {move : Move ω α} (stepped : record.reception.step? move = some (events, next)) :
    record.step move = ⟨record.past ++ events, next⟩ := by rw [step, stepped]

namespace Sound

variable [LawfulWithdrawal ω σ]

theorem step (sound : record.Sound) (move : Move ω α) : (record.step move).Sound := by
  rcases stepped : record.reception.step? move with _ | ⟨events, next⟩
  · rwa [Record.step, stepped]
  · rw [step_some stepped]
    exact ⟨(step?_proceeds sound.toKept stepped).kept sound.toKept, step?_later sound.later stepped⟩

theorem run (sound : record.Sound) (moves : List (Move ω α)) : (record.run moves).Sound := by
  induction moves generalizing record with
  | nil => exact sound
  | cons move moves ih => exact ih (sound.step move)

theorem account (front : ∀ (way : ω) {queue : σ}, LawfulQueue.Sound queue →
      items queue = (Withdrawal.withdraw way queue).1 ++ items (Withdrawal.withdraw way queue).2)
    (sound : record.Sound)
    (account : pushed record.past = departed record.past ++ items record.reception.place.queue)
    (moves : List (Move ω α)) :
    pushed (record.run moves).past =
      departed (record.run moves).past ++ items (record.run moves).reception.place.queue := by
  induction moves generalizing record with
  | nil => exact account
  | cons move moves ih =>
    apply ih (sound.step move)
    rcases stepped : record.reception.step? move with _ | ⟨events, next⟩
    · rwa [Record.step, stepped]
    · rw [step_some stepped]
      exact (step?_proceeds sound.toKept stepped).account front sound.toStocked account

end Sound

/-! ## The passage of time -/

omit [LawfulQueue σ α] in
theorem run_append (earlier later : List (Move ω α)) :
    record.run (earlier ++ later) = (record.run earlier).run later := List.foldl_append

/-- When each woken call has had its look, the queue is settled. -/
theorem run_looks [LawfulWithdrawal ω σ] (sound : record.Sound) :
    let settled := record.run
      (List.replicate record.reception.place.bell.woken.length (.looks : Move ω α))
    settled.reception.place = record.reception.place.settle.2 ∧
      returns settled.past = returns record.past ++ record.reception.place.settle.1 ∧
      settled.reception.place.bell.woken = [] ∧
      settled.reception.now = record.reception.now := by
  obtain ⟨past, ⟨place, calls, tickets, now⟩⟩ := record
  simp only
  rw [Awaited.settle]
  generalize woken : place.bell.woken = line
  induction line generalizing past place calls with
  | nil => exact ⟨rfl, (List.append_nil _).symm, woken, rfl⟩
  | cons ticket rest ih =>
    have attends : Awaited.Attends ticket ⟨place.queue, place.bell.rouse ticket⟩
        (place.wake ticket).1 (place.wake ticket).2 := Awaited.attend_attends ticket sound.sound
    have next := sound.step (.looks : Move ω α)
    have left : (place.bell.rouse ticket).woken = rest := by
      rw [Bell.rouse, woken, List.erase_cons_head]
    rw [List.length_cons, List.replicate_succ, run, List.foldl_cons, Awaited.wakeAll]
    rcases woke : place.wake ticket with ⟨_ | item, place'⟩
    · rw [woke] at attends
      have stepped : Record.step ⟨past, ⟨place, calls, tickets, now⟩⟩ (.looks : Move ω α) =
          ⟨past ++ [.waited ticket], ⟨place', calls, tickets, now⟩⟩ := by
        simp [Record.step, step?, woken, woke]
      rw [stepped] at next ⊢
      have same : place'.bell.woken = rest := by
        cases attends with
        | parks sound nothing still => exact left
      obtain ⟨settled, returned, rest⟩ := ih _ _ _ next same
      refine ⟨settled, returned.trans ?_, rest⟩
      simp [returns]
    · rw [woke] at attends
      have stepped : Record.step ⟨past, ⟨place, calls, tickets, now⟩⟩ (.looks : Move ω α) =
          ⟨past ++ [.returned ticket item],
            ⟨place', calls.filter fun call => call.ticket != ticket, tickets, now⟩⟩ := by
        simp [Record.step, step?, woken, woke]
      rw [stepped] at next ⊢
      have same : place'.bell.woken = rest := by
        cases attends with
        | finds sound first => exact left
      obtain ⟨settled, returned, rest⟩ := ih _ _ _ next same
      refine ⟨settled, returned.trans ?_, rest⟩
      simp [returns]

/-- Time can pass up to any moment when all woken calls have their looks in between. -/
theorem reaches [LawfulWithdrawal ω σ] (sound : record.Sound) {limit : Instant}
    (later : record.reception.now ≤ limit) :
    ∃ moves : List (Move ω α), (∀ move ∈ moves, move = .looks ∨ ∃ span, move = .passes span) ∧
      (record.run moves).reception.now = limit := by
  induction left : limit - record.reception.now using Nat.strong_induction_on
    generalizing record with
  | _ left ih =>
    by_cases arrived : record.reception.now = limit
    · exact ⟨[], by simp, arrived⟩
    obtain ⟨-, -, idle, same⟩ := run_looks (ω := ω) sound
    generalize looks : List.replicate record.reception.place.bell.woken.length
      (.looks : Move ω α) = looked at idle same
    have settled := sound.run looked
    -- A span has an upper bound, so one of them need not reach the limit.
    let span : Duration := ⟨min (limit - record.reception.now) (durationBound - 1),
      Nat.lt_of_le_of_lt (min_le_right _ _) (by decide)⟩
    let moment := (record.run looked).reception.nextMoment
      ((record.run looked).reception.now + span.nanos)
    have room := lt_of_le_of_ne later arrived
    have some : 0 < span.nanos := lt_min (Nat.sub_pos_of_lt room) (by decide)
    have within : span.nanos ≤ limit - record.reception.now := min_le_left _ _
    have further : record.reception.now + 1 ≤ moment := by
      refine le_nextMoment.mpr ⟨?_, fun call here => ?_⟩
      · rw [same]
        exact Nat.add_le_add_left some _
      · rw [← same]
        exact settled.later call here
    have bounded : moment ≤ limit := by
      refine (le_nextMoment.mp le_rfl).1.trans ?_
      rw [same]
      exact Nat.add_le_of_le_sub' later within
    have now : ((record.run looked).step (.passes span : Move ω α)).reception.now = moment := by
      rw [Record.step, step?, idle]
      exact (lapse_left rfl).1
    have shorter : limit - moment < limit - record.reception.now := Nat.sub_lt_sub_left room further
    obtain ⟨moves, only, reached⟩ := ih _ (left ▸ shorter) (settled.step (.passes span))
      (now ▸ bounded) (by rw [now])
    refine ⟨looked ++ .passes span :: moves, ?_, ?_⟩
    · intro move member
      rcases List.mem_append.mp member with look | other
      · exact .inl (List.eq_of_mem_replicate (looks ▸ look))
      · rcases List.mem_cons.mp other with rfl | other
        · exact .inr ⟨span, rfl⟩
        · exact only move other
    · rw [run_append]
      exact reached

/-! ## What is read off a record -/

/-- What the history of a queue with waiting calls shows. -/
structure Fair (record : Record σ α) : Prop where
  issued : (begun record.past).map (·.ticket) = List.range record.reception.tickets
  once : (endings record.past).Nodup
  /-- a call that waits is served before all that began to wait later -/
  inTurn : ∀ before ticket item after, record.past = before ++ .returned ticket item :: after →
    ticket ∉ waiting before ∨ (waiting before).head? = some ticket
  settled : record.reception.place.bell.woken = [] →
    items record.reception.place.queue = [] ∨ waiting record.past = []
  fates : ∀ call ∈ begun record.past,
    (call.ticket ∈ waiting record.past ∧ call.ticket ∉ endings record.past ∧
      record.reception.now < call.instant) ∨
    (call.ticket ∉ waiting record.past ∧ Ended record.past call)
  due : ∀ ticket moment, .expired ticket moment ∈ record.past →
    ⟨ticket, moment⟩ ∈ begun record.past

theorem Sound.fair (sound : record.Sound) : record.Fair where
  issued := sound.issued
  once := sound.once
  inTurn _ _ _ _ split := sound.turns.served split
  settled idle := by
    by_cases parked : record.reception.place.bell.parked = []
    · right
      rw [sound.line, Bell.line, idle, parked, List.append_nil]
    · left
      obtain ⟨-, enough⟩ := sound.covers parked
      rw [idle] at enough
      exact List.eq_nil_of_length_eq_zero (Nat.le_zero.mp enough)
  fates call begun := by
    rcases sound.fates call (mem_begun.mp begun) with here | ended
    · have waits := sound.mem_line here
      rw [sound.line]
      exact .inl ⟨waits, fun ended => (sound.gone _ ended).2 waits, sound.later call here⟩
    · rw [sound.line]
      exact .inr ⟨(sound.gone _ (mem_endings ended)).2, ended⟩
  due ticket moment expired := mem_begun.mpr (sound.due ticket moment expired)

end Record

end FrameLink.Wait.Reception
