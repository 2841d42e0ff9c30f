import FrameLink.Proofs.Wait.Queue
import FrameLink.Wait.Threads
/-!
Whether a wake-up can be lost among threads. A ring that nobody hears is remembered only once, so
that a second ring can be drowned while two readers are on their way to park. As long as no ring is
drowned so, no item waits beside a parked reader; once there are two items and two readers, some
order of the turns drowns one.
-/

namespace FrameLink.Wait

namespace Writer

variable {α : Type}

def rings : Writer α → Bool
  | .ringing => true
  | .adding _ | .finished => false

end Writer

namespace Reader

variable {α : Type}

def looks : Reader α → Bool
  | .looking => true
  | .missed | .waiting | .served _ => false

def misses : Reader α → Bool
  | .missed => true
  | .looking | .waiting | .served _ => false

end Reader

namespace Threads

variable {σ α : Type} [Queue σ α]

/-- An item is queued and no writer has anything left to do, yet a reader stays parked: no ring is
remembered, and nobody is woken or about to look. -/
structure Stranded (threads : Threads σ α) : Prop where
  queued : (Queue.pop threads.place.queue).1 ≠ none
  finished : ∀ writer ∈ threads.writers, writer = .finished
  parked : ∃ n, threads.readers[n]? = some .waiting ∧ n ∈ threads.place.bell.parked
  silent : threads.place.bell.permit = false
  woken : threads.place.bell.woken = []
  nobody : ∀ reader ∈ threads.readers, reader ≠ .looking

def missing (threads : Threads σ α) : Nat := threads.readers.countP Reader.misses

/-- Those that are on their way to ring or to look: writers that have added their item, readers that
are woken, and readers about to look. -/
def underway (threads : Threads σ α) : Nat :=
  threads.writers.countP Writer.rings + threads.place.bell.woken.length +
    threads.readers.countP Reader.looks

/-- The turn rings while a ring is remembered already and two readers have yet to ask for one. -/
def Drowns (threads : Threads σ α) (turn : Turn) : Prop :=
  ∃ n, turn = .writer n ∧ threads.writers[n]? = some .ringing ∧
    threads.place.bell.permit = true ∧ 2 ≤ threads.missing

def MayStrand (threads : Threads σ α) : Prop := ∃ turns, (run turns threads).Stranded

def StrandsByDrowning (threads : Threads σ α) : Prop :=
  ∀ turns, (run turns threads).Stranded →
    ∃ before turn after, turns = before ++ turn :: after ∧ (run before threads).Drowns turn

/-! ## Steps -/

inductive Takes : Threads σ α → Turn → Threads σ α → Prop
  | adds {queue permit parked woken writers readers n item}
      (found : writers[n]? = some (.adding item)) :
      Takes ⟨⟨queue, ⟨permit, parked, woken⟩⟩, writers, readers⟩ (.writer n)
        ⟨⟨Queue.push item queue, ⟨permit, parked, woken⟩⟩, writers.set n .ringing, readers⟩
  | wakes {queue permit ticket parked woken writers readers n}
      (found : writers[n]? = some .ringing) :
      Takes ⟨⟨queue, ⟨permit, ticket :: parked, woken⟩⟩, writers, readers⟩ (.writer n)
        ⟨⟨queue, ⟨permit, parked, woken ++ [ticket]⟩⟩, writers.set n .finished, readers⟩
  | isRemembered {queue permit woken writers readers n}
      (found : writers[n]? = some .ringing) :
      Takes ⟨⟨queue, ⟨permit, [], woken⟩⟩, writers, readers⟩ (.writer n)
        ⟨⟨queue, ⟨true, [], woken⟩⟩, writers.set n .finished, readers⟩
  | finds {queue queue' permit parked woken writers readers n item}
      (found : readers[n]? = some .looking)
      (popped : Queue.pop queue = (some item, queue')) :
      Takes ⟨⟨queue, ⟨permit, parked, woken⟩⟩, writers, readers⟩ (.reader n)
        ⟨⟨queue', ⟨permit, parked, woken⟩⟩, writers, readers.set n (.served item)⟩
  | misses {queue queue' permit parked woken writers readers n}
      (found : readers[n]? = some .looking) (popped : Queue.pop queue = (none, queue')) :
      Takes ⟨⟨queue, ⟨permit, parked, woken⟩⟩, writers, readers⟩ (.reader n)
        ⟨⟨queue', ⟨permit, parked, woken⟩⟩, writers, readers.set n .missed⟩
  | parks {queue parked woken writers readers n}
      (found : readers[n]? = some .missed) :
      Takes ⟨⟨queue, ⟨false, parked, woken⟩⟩, writers, readers⟩ (.reader n)
        ⟨⟨queue, ⟨false, parked ++ [n], woken⟩⟩, writers, readers.set n .waiting⟩
  | hears {queue parked woken writers readers n}
      (found : readers[n]? = some .missed) :
      Takes ⟨⟨queue, ⟨true, parked, woken⟩⟩, writers, readers⟩ (.reader n)
        ⟨⟨queue, ⟨false, parked, woken⟩⟩, writers, readers.set n .looking⟩
  | returns {queue permit parked woken writers readers n}
      (found : readers[n]? = some .waiting) (own : n ∈ woken) :
      Takes ⟨⟨queue, ⟨permit, parked, woken⟩⟩, writers, readers⟩ (.reader n)
        ⟨⟨queue, ⟨permit, parked, woken.erase n⟩⟩, writers, readers.set n .looking⟩

theorem step?_takes {threads next : Threads σ α} {turn : Turn}
    (stepped : threads.step? turn = some next) : Takes threads turn next := by
  obtain ⟨⟨queue, ⟨permit, parked, woken⟩⟩, writers, readers⟩ := threads
  cases turn with
  | writer n =>
    rw [step?] at stepped
    dsimp only at stepped
    split at stepped
    next item found =>
      cases stepped
      exact .adds found
    next found =>
      cases stepped
      cases parked with
      | nil => exact .isRemembered found
      | cons ticket parked => exact .wakes found
    all_goals cases stepped
  | reader n =>
    rw [step?] at stepped
    dsimp only [Awaited.look] at stepped
    split at stepped
    next found =>
      rcases popped : Queue.pop queue with ⟨_ | item, queue'⟩
      · rw [popped] at stepped
        cases stepped
        exact .misses found popped
      · rw [popped] at stepped
        cases stepped
        exact .finds found popped
    next found =>
      cases permit with
      | true =>
        cases stepped
        exact .hears found
      | false =>
        cases stepped
        exact .parks found
    next found =>
      split at stepped
      next own =>
        cases stepped
        exact .returns found own
      next => cases stepped
    all_goals cases stepped

theorem getD_step? (threads : Threads σ α) (turn : Turn) :
    Takes threads turn ((threads.step? turn).getD threads) ∨
      (threads.step? turn).getD threads = threads := by
  rcases stepped : threads.step? turn with _ | next
  · exact .inr rfl
  · exact .inl (step?_takes stepped)

theorem run_append (earlier later : List Turn) (threads : Threads σ α) :
    run (earlier ++ later) threads = run later (run earlier threads) :=
  List.foldl_append

theorem countP_set_add {β : Type} (p : β → Bool) {things : List β} {n : Nat} {old : β}
    (found : things[n]? = some old) (new : β) :
    (things.set n new).countP p + (if p old then 1 else 0) =
      things.countP p + (if p new then 1 else 0) := by
  obtain ⟨inside, rfl⟩ := List.getElem?_eq_some_iff.mp found
  have counted : (if p things[n] then 1 else 0) ≤ things.countP p := by
    split
    next own => exact List.countP_pos_iff.mpr ⟨_, List.getElem_mem inside, own⟩
    next => exact Nat.zero_le _
  rw [List.countP_set inside]
  omega

/-! ## Without drowned rings -/

section Attentive

variable [LawfulQueue σ α]

open LawfulQueue

def queued (threads : Threads σ α) : Nat := (items threads.place.queue).length

/-- Each queued item has somebody on the way to it, unless a remembered ring is yet to be heard. -/
structure Attentive (threads : Threads σ α) : Prop where
  sound : Sound threads.place.queue
  parked : threads.place.bell.parked ≠ [] →
    threads.place.bell.permit = false ∧ threads.queued ≤ threads.underway
  silent : threads.place.bell.permit = false → 1 ≤ threads.missing →
    threads.queued ≤ threads.underway
  remembered : threads.place.bell.permit = true → 2 ≤ threads.missing →
    threads.queued ≤ threads.underway + 1

theorem Attentive.ease {threads next : Threads σ α} (attentive : Attentive threads)
    (sound : Sound next.place.queue)
    (permit : next.place.bell.permit = threads.place.bell.permit)
    (parked : next.place.bell.parked ≠ [] → threads.place.bell.parked ≠ [])
    (missing : next.missing ≤ threads.missing)
    (balance : next.queued + threads.underway ≤ threads.queued + next.underway) :
    Attentive next where
  sound := sound
  parked some := by
    obtain ⟨silent, enough⟩ := attentive.parked (parked some)
    exact ⟨permit.trans silent, by omega⟩
  silent silent one := by
    have enough := attentive.silent (permit.symm.trans silent) (one.trans missing)
    omega
  remembered remembered two := by
    have enough := attentive.remembered (permit.symm.trans remembered) (two.trans missing)
    omega

/-- A turn that drowns no ring keeps somebody on the way to each item. -/
theorem Takes.attentive {threads next : Threads σ α} {turn : Turn} (takes : Takes threads turn next)
    (attentive : Attentive threads) (heard : ¬threads.Drowns turn) : Attentive next := by
  cases takes with
  | @adds queue permit parked woken writers readers n item found =>
    have rings := countP_set_add Writer.rings found .ringing
    have longer : (items (Queue.push item queue)).length = (items queue).length + 1 := by
      rw [items_push item attentive.sound, List.length_append, List.length_singleton]
    refine attentive.ease (sound_push item attentive.sound) rfl id le_rfl ?_
    simp only [queued, underway, longer]
    simp [Writer.rings] at rings ⊢
    omega
  | @wakes queue permit ticket parked woken writers readers n found =>
    have rings := countP_set_add Writer.rings found .finished
    refine attentive.ease attentive.sound rfl (fun _ => List.cons_ne_nil ticket parked) le_rfl ?_
    simp only [queued, underway, List.length_append, List.length_singleton]
    simp [Writer.rings] at rings ⊢
    omega
  | @isRemembered queue permit woken writers readers n found =>
    -- Were two readers yet to ask for a ring, one of them would not hear this one.
    have rings := countP_set_add Writer.rings found .finished
    refine ⟨attentive.sound, fun some => absurd rfl some, nofun, fun _ two => ?_⟩
    cases permit with
    | true => exact absurd ⟨n, rfl, found, rfl, two⟩ heard
    | false =>
      have enough := attentive.silent rfl (Nat.le_of_succ_le two)
      simp [queued, underway, Writer.rings] at rings enough ⊢
      omega
  | @finds queue queue' permit parked woken writers readers n item found popped =>
    obtain ⟨sound, line⟩ := pop_some attentive.sound popped
    have looks := countP_set_add Reader.looks found (.served item)
    have misses := countP_set_add Reader.misses found (.served item)
    simp [Reader.looks, Reader.misses] at looks misses
    refine attentive.ease sound rfl id misses.le ?_
    simp only [queued, underway, line, List.length_cons]
    omega
  | misses found popped =>
    obtain ⟨sound, -, empty⟩ := pop_none attentive.sound popped
    have none : (items _).length = 0 := congrArg List.length empty
    refine ⟨sound, fun some => ⟨(attentive.parked some).1, ?_⟩, fun _ _ => ?_, fun _ _ => ?_⟩ <;>
      simp only [queued, none] <;> omega
  | @parks queue parked woken writers readers n found =>
    have looks := countP_set_add Reader.looks found .waiting
    have misses := countP_set_add Reader.misses found .waiting
    simp [Reader.looks, Reader.misses] at looks misses
    have enough : _ ≤ _ := attentive.silent rfl (by simp only [missing]; omega)
    have kept : queued ⟨⟨queue, ⟨false, parked ++ [n], woken⟩⟩, writers, readers.set n .waiting⟩ ≤
        underway ⟨⟨queue, ⟨false, parked ++ [n], woken⟩⟩, writers, readers.set n .waiting⟩ := by
      simp only [queued, underway, looks] at enough ⊢
      exact enough
    exact ⟨attentive.sound, fun _ => ⟨rfl, kept⟩, fun _ _ => kept, nofun⟩
  | @hears queue parked woken writers readers n found =>
    -- The remembered ring is spent: the readers that still miss have one less to hear.
    have looks := countP_set_add Reader.looks found .looking
    have misses := countP_set_add Reader.misses found .looking
    simp [Reader.looks, Reader.misses] at looks misses
    refine ⟨attentive.sound, fun some => ?_, fun _ one => ?_, nofun⟩
    · exact absurd (attentive.parked some).1 Bool.true_eq_false.mp
    · simp only [missing] at one
      have enough := attentive.remembered rfl (by simp only [missing]; omega)
      simp only [queued, underway] at enough ⊢
      omega
  | @returns queue permit parked woken writers readers n found own =>
    have looks := countP_set_add Reader.looks found .looking
    have misses := countP_set_add Reader.misses found .looking
    have some := List.length_pos_of_mem own
    simp [Reader.looks, Reader.misses] at looks misses
    refine attentive.ease attentive.sound rfl id misses.le ?_
    simp only [queued, underway, List.length_erase_of_mem own]
    omega

theorem attentive_start {queue : σ} (sound : Sound queue) (empty : items queue = [])
    (arrivals : List α) (readers : Nat) : Attentive (start queue arrivals readers) := by
  have none : (items queue).length = 0 := congrArg List.length empty
  refine ⟨sound, fun some => absurd rfl some, fun _ _ => ?_, nofun⟩
  simp only [queued, start, none]
  omega

/-- A run drowns a ring, or keeps somebody on the way to each item. -/
theorem run_attentive {threads : Threads σ α} (attentive : Attentive threads) (turns : List Turn) :
    (∃ before turn after, turns = before ++ turn :: after ∧ (run before threads).Drowns turn) ∨
      Attentive (run turns threads) := by
  induction turns generalizing threads with
  | nil => exact .inr attentive
  | cons turn turns ih =>
    by_cases drowned : threads.Drowns turn
    · exact .inl ⟨[], turn, turns, rfl, drowned⟩
    · have next : Attentive ((threads.step? turn).getD threads) := by
        rcases getD_step? threads turn with takes | same
        · exact takes.attentive attentive drowned
        · rwa [same]
      rcases ih next with ⟨before, drowning, after, rfl, drowns⟩ | kept
      · exact .inl ⟨turn :: before, drowning, after, rfl, drowns⟩
      · exact .inr kept

theorem Attentive.not_stranded {threads : Threads σ α} (attentive : Attentive threads) :
    ¬threads.Stranded := by
  intro stranded
  obtain ⟨n, -, parked⟩ := stranded.parked
  obtain ⟨-, enough⟩ := attentive.parked (List.ne_nil_of_mem parked)
  have noRing : threads.writers.countP Writer.rings = 0 := by
    rw [List.countP_eq_zero]
    intro writer member
    rw [stranded.finished writer member]
    exact Bool.false_ne_true
  have noLook : threads.readers.countP Reader.looks = 0 := by
    rw [List.countP_eq_zero]
    intro reader member looks
    cases reader with
    | looking => exact stranded.nobody _ member rfl
    | missed | waiting | served => cases looks
  rw [queued, underway, noRing, noLook, stranded.woken] at enough
  apply stranded.queued
  rw [pop_eq attentive.sound, List.eq_nil_of_length_eq_zero (Nat.le_zero.mp enough)]
  rfl

theorem strandsByDrowning_start {queue : σ} (sound : Sound queue) (empty : items queue = [])
    (arrivals : List α) (readers : Nat) : (start queue arrivals readers).StrandsByDrowning := by
  intro turns stranded
  rcases run_attentive (attentive_start sound empty arrivals readers) turns with drowned | attentive
  · exact drowned
  · exact absurd stranded attentive.not_stranded

end Attentive

/-! ## Two of each -/

/-- All threads are still there, and a remembered ring is that of a writer that has finished. -/
structure Manned (writers readers : Nat) (threads : Threads σ α) : Prop where
  writers : threads.writers.length = writers
  readers : threads.readers.length = readers
  rung : threads.place.bell.permit = true → ∃ n : Nat, threads.writers[n]? = some .finished

theorem Takes.manned {threads next : Threads σ α} {turn : Turn} {writers readers : Nat}
    (takes : Takes threads turn next) (manned : Manned writers readers threads) :
    Manned writers readers next := by
  obtain ⟨allWriters, allReaders, rung⟩ := manned
  cases takes with
  | @adds _ _ _ _ _ _ n _ found =>
    refine ⟨(List.length_set ..).trans allWriters, allReaders, fun on => ?_⟩
    obtain ⟨k, finished⟩ := rung on
    have other : n ≠ k := by
      rintro rfl
      cases found.symm.trans finished
    exact ⟨k, (List.getElem?_set_ne other).trans finished⟩
  | @wakes _ _ _ _ _ _ _ n found | @isRemembered _ _ _ _ _ n found =>
    obtain ⟨inside, -⟩ := List.getElem?_eq_some_iff.mp found
    exact ⟨(List.length_set ..).trans allWriters, allReaders,
      fun _ => ⟨n, List.getElem?_set_self inside⟩⟩
  | hears found => exact ⟨allWriters, (List.length_set ..).trans allReaders, nofun⟩
  | finds | misses | parks | returns =>
    exact ⟨allWriters, (List.length_set ..).trans allReaders, rung⟩

theorem run_manned {threads : Threads σ α} {writers readers : Nat}
    (manned : Manned writers readers threads) (turns : List Turn) :
    Manned writers readers (run turns threads) := by
  induction turns generalizing threads with
  | nil => exact manned
  | cons turn turns ih =>
    rcases getD_step? threads turn with takes | same
    · exact ih (takes.manned manned)
    · rw [run, List.foldl_cons, same]
      exact ih manned

omit [Queue σ α] in
theorem manned_start (queue : σ) (arrivals : List α) (readers : Nat) :
    Manned arrivals.length readers (start queue arrivals readers) :=
  ⟨List.length_map .., List.length_replicate .., nofun⟩

omit [Queue σ α] in
/-- One writer has rung and another one rings, and two readers miss. -/
theorem Drowns.two_of_each {threads : Threads σ α} {turn : Turn} {writers readers : Nat}
    (drowns : threads.Drowns turn) (manned : Manned writers readers threads) :
    2 ≤ writers ∧ 2 ≤ readers := by
  obtain ⟨n, -, ringing, remembered, two⟩ := drowns
  obtain ⟨k, finished⟩ := manned.rung remembered
  have other : n ≠ k := by
    rintro rfl
    cases ringing.symm.trans finished
  obtain ⟨first, -⟩ := List.getElem?_eq_some_iff.mp ringing
  obtain ⟨second, -⟩ := List.getElem?_eq_some_iff.mp finished
  have all := manned.writers
  constructor
  · omega
  · calc
      2 ≤ threads.readers.countP Reader.misses := two
      _ ≤ threads.readers.length := List.countP_le_length
      _ = readers := manned.readers

/-! ## A ring is drowned -/

/-- Threads of one kind that are all at one point take their turns, one after the other. -/
theorem sweep {β : Type} (around : Awaited σ → List β → Threads σ α) (turn : Nat → Turn)
    (holds : Nat → Awaited σ → Prop) (ready : β → Prop) (new : β)
    (moves : ∀ n place things old, holds n place → things[n]? = some old → ready old →
      ∃ place', holds (n + 1) place' ∧
        (around place things).step? (turn n) = some (around place' (things.set n new)))
    (olds done : List β) (all : ∀ old ∈ olds, ready old) (place : Awaited σ)
    (now : holds done.length place) :
    ∃ place', holds (done.length + olds.length) place' ∧
      run ((List.range' done.length olds.length).map turn) (around place (done ++ olds)) =
        around place' (done ++ List.replicate olds.length new) := by
  induction olds generalizing done place with
  | nil => exact ⟨place, now, rfl⟩
  | cons old olds ih =>
    have front : (done ++ old :: olds)[done.length]? = some old := by simp
    have swapped : (done ++ old :: olds).set done.length new = (done ++ [new]) ++ olds := by simp
    obtain ⟨after, later, stepped⟩ := moves _ _ _ _ now front (all old List.mem_cons_self)
    have further : holds (done ++ [new]).length after := by rwa [List.length_append]
    obtain ⟨place', last, ran⟩ := ih (done ++ [new])
      (fun other member => all other (List.mem_cons_of_mem old member)) after further
    rw [List.length_append, List.length_singleton] at last ran
    refine ⟨place', by rwa [List.length_cons, Nat.add_comm olds.length, ← Nat.add_assoc], ?_⟩
    rw [List.length_cons, List.range'_succ, List.map_cons, run, List.foldl_cons, stepped, swapped]
    calc
      _ = _ := ran
      _ = _ := by rw [List.append_assoc, List.replicate_succ, List.singleton_append]

section Drowning

variable [LawfulQueue σ α]

open LawfulQueue

theorem all_look {queue : σ} (sound : Sound queue) (empty : items queue = [])
    (writers : List (Writer α)) (readers : Nat) :
    ∃ turns queue', Sound queue' ∧
      run turns ⟨⟨queue, {}⟩, writers, List.replicate readers .looking⟩ =
        ⟨⟨queue', {}⟩, writers, List.replicate readers .missed⟩ := by
  obtain ⟨⟨queue', bell⟩, ⟨sound', -, rfl⟩, ran⟩ := sweep (⟨·, writers, ·⟩) Turn.reader
    (fun _ place => Sound place.queue ∧ items place.queue = [] ∧ place.bell = {})
    (· = .looking) .missed (by
      rintro n ⟨queue, bell⟩ things old ⟨sound, empty, rfl⟩ found rfl
      rcases popped : Queue.pop queue with ⟨_ | item, queue'⟩
      · obtain ⟨sound', -, empty'⟩ := pop_none sound popped
        refine ⟨⟨queue', {}⟩, ⟨sound', empty', rfl⟩, ?_⟩
        simp [step?, found, Awaited.look, popped, withReader]
      · cases empty.symm.trans (pop_some sound popped).2)
    (List.replicate readers .looking) [] (fun _ => List.eq_of_mem_replicate)
    ⟨queue, {}⟩ ⟨sound, empty, rfl⟩
  rw [List.length_replicate] at ran
  exact ⟨_, queue', sound', ran⟩

theorem all_add {queue : σ} (sound : Sound queue) (arrivals : List α) (readers : List (Reader α)) :
    ∃ turns queue', Sound queue' ∧ arrivals.length ≤ (items queue').length ∧
      run turns ⟨⟨queue, {}⟩, arrivals.map .adding, readers⟩ =
        ⟨⟨queue', {}⟩, List.replicate arrivals.length .ringing, readers⟩ := by
  obtain ⟨⟨queue', bell⟩, ⟨sound', long, rfl⟩, ran⟩ := sweep (⟨·, ·, readers⟩) Turn.writer
    (fun n place => Sound place.queue ∧ n ≤ (items place.queue).length ∧ place.bell = {})
    (fun old => ∃ item, old = .adding item) .ringing (by
      rintro n ⟨queue, bell⟩ things old ⟨sound, long, rfl⟩ found ⟨item, rfl⟩
      refine ⟨⟨Queue.push item queue, {}⟩, ⟨sound_push item sound, ?_, rfl⟩, ?_⟩
      · rw [items_push item sound, List.length_append]
        exact Nat.succ_le_succ long
      · simp [step?, found, Awaited.quietly, withWriter])
    (arrivals.map .adding) [] (by simp) ⟨queue, {}⟩ ⟨sound, Nat.zero_le _, rfl⟩
  rw [List.length_map, List.length_nil, Nat.zero_add] at long
  rw [List.length_map] at ran
  exact ⟨_, queue', sound', long, ran⟩

omit [LawfulQueue σ α] in
theorem all_ring (queue : σ) (readers : List (Reader α)) {count : Nat} (some : 0 < count) :
    ∃ turns, run turns ⟨⟨queue, {}⟩, List.replicate count .ringing, readers⟩ =
      ⟨⟨queue, ⟨true, [], []⟩⟩, List.replicate count .finished, readers⟩ := by
  obtain ⟨_, ⟨permit, remembered, rfl⟩, ran⟩ := sweep (⟨·, ·, readers⟩) Turn.writer
    (fun n place => ∃ permit, (0 < n → permit = true) ∧ place = ⟨queue, ⟨permit, [], []⟩⟩)
    (· = .ringing) .finished (by
      rintro n _ things old ⟨permit, -, rfl⟩ found rfl
      exact ⟨_, ⟨true, fun _ => rfl, rfl⟩, by simp [step?, found, Bell.ring, withWriter]⟩)
    (List.replicate count .ringing) [] (fun _ => List.eq_of_mem_replicate)
    ⟨queue, {}⟩ ⟨false, nofun, rfl⟩
  rw [List.length_replicate] at remembered ran
  rw [remembered (by simpa using some)] at ran
  exact ⟨_, ran⟩

omit [LawfulQueue σ α] in
theorem others_park (queue : σ) (writers : List (Writer α)) (first : Reader α) (count : Nat) :
    ∃ turns parked, 1 ∈ parked ∧
      run turns ⟨⟨queue, {}⟩, writers, first :: List.replicate (count + 1) .missed⟩ =
        ⟨⟨queue, ⟨false, parked, []⟩⟩, writers, first :: List.replicate (count + 1) .waiting⟩ := by
  obtain ⟨_, ⟨parked, own, rfl⟩, ran⟩ := sweep (⟨·, writers, ·⟩) Turn.reader
    (fun n place => ∃ parked, (1 < n → 1 ∈ parked) ∧ place = ⟨queue, ⟨false, parked, []⟩⟩)
    (· = .missed) .waiting (by
      rintro n _ things old ⟨parked, own, rfl⟩ found rfl
      refine ⟨_, ⟨parked ++ [n], fun later => ?_, rfl⟩,
        by simp [step?, found, Awaited.park, Bell.park, withReader]⟩
      rcases Nat.lt_or_eq_of_le (Nat.le_of_lt_succ later) with before | same
      · exact List.mem_append_left _ (own before)
      · simp [same])
    (List.replicate (count + 1) .missed) [first] (fun _ => List.eq_of_mem_replicate)
    ⟨queue, {}⟩ ⟨[], by simp, rfl⟩
  rw [List.length_replicate] at own ran
  exact ⟨_, parked, own (by simp), ran⟩

/-- All readers find nothing, all writers add and ring, and the first reader hears the one ring that
is remembered. The others park beside what it leaves. -/
theorem mayStrand_start {queue : σ} (sound : Sound queue) (empty : items queue = [])
    {arrivals : List α} {readers : Nat} (twoWriters : 2 ≤ arrivals.length)
    (twoReaders : 2 ≤ readers) : (start queue arrivals readers).MayStrand := by
  obtain ⟨count, rfl⟩ : ∃ count, readers = count + 2 := ⟨readers - 2, by omega⟩
  obtain ⟨looks, none, noneSound, looked⟩ := all_look sound empty (arrivals.map .adding) (count + 2)
  obtain ⟨adds, full, fullSound, long, added⟩ :=
    all_add noneSound arrivals (List.replicate (count + 2) .missed)
  obtain ⟨rings, rung⟩ := all_ring full (List.replicate (count + 2) (.missed : Reader α))
    (Nat.lt_of_lt_of_le Nat.two_pos twoWriters)
  obtain ⟨parks, parked, own, waited⟩ :=
    others_park full (List.replicate arrivals.length (.finished : Writer α)) .looking count
  rcases popped : Queue.pop full with ⟨_ | item, left⟩
  · obtain ⟨-, empty, -⟩ := pop_none fullSound popped
    rw [empty, List.length_nil] at long
    omega
  obtain ⟨leftSound, line⟩ := pop_some fullSound popped
  have ran : run (looks ++ adds ++ rings ++ [.reader 0] ++ parks ++ [.reader 0])
      (start queue arrivals (count + 2)) =
      ⟨⟨left, ⟨false, parked, []⟩⟩, List.replicate arrivals.length .finished,
        .served item :: List.replicate (count + 1) .waiting⟩ := by
    simp only [run_append, start, looked, added, rung]
    have heard : run [.reader 0] ⟨⟨full, ⟨true, [], []⟩⟩, List.replicate arrivals.length .finished,
        List.replicate (count + 2) .missed⟩ =
        ⟨⟨full, {}⟩, List.replicate arrivals.length .finished,
          .looking :: List.replicate (count + 1) (.missed : Reader α)⟩ := rfl
    rw [heard, waited]
    simp [run, step?, Awaited.look, popped, withReader]
  have stranded : Stranded ⟨⟨left, ⟨false, parked, []⟩⟩,
      List.replicate arrivals.length .finished,
      .served item :: List.replicate (count + 1) .waiting⟩ := by
    refine ⟨?_, fun _ => List.eq_of_mem_replicate, ⟨1, rfl, own⟩, rfl, rfl, ?_⟩
    · rw [pop_eq leftSound]
      intro empty
      rw [line, List.head?_eq_none_iff.mp empty, List.length_singleton] at long
      omega
    · intro reader member
      rcases List.mem_cons.mp member with rfl | other
      · nofun
      · rw [List.eq_of_mem_replicate other]
        nofun
  exact ⟨_, ran.symm ▸ stranded⟩

theorem mayStrand_iff {queue : σ} (sound : Sound queue) (empty : items queue = [])
    (arrivals : List α) (readers : Nat) :
    (start queue arrivals readers).MayStrand ↔ 2 ≤ arrivals.length ∧ 2 ≤ readers := by
  constructor
  · rintro ⟨turns, stranded⟩
    obtain ⟨before, turn, -, -, drowns⟩ :=
      strandsByDrowning_start sound empty arrivals readers turns stranded
    exact drowns.two_of_each (run_manned (manned_start queue arrivals readers) before)
  · rintro ⟨twoWriters, twoReaders⟩
    exact mayStrand_start sound empty twoWriters twoReaders

end Drowning

/-- For the inbox of a connection and for the requests of a host alike: a reader is stranded only
where a ring was drowned, and some order of the turns comes to that as soon as there are two items
and two readers. -/
theorem stranded_only_if_two_of_each {β : Type} (items : List β) (requests : List (Host.Envelope β))
    (readers : Nat) :
    let inbox : Threads (List β) β := start [] items readers
    let host : Threads (Host.Queues β) (Host.Envelope β) := start {} requests readers
    (inbox.StrandsByDrowning ∧ (inbox.MayStrand ↔ 2 ≤ items.length ∧ 2 ≤ readers)) ∧
      host.StrandsByDrowning ∧ (host.MayStrand ↔ 2 ≤ requests.length ∧ 2 ≤ readers) := by
  have sound : LawfulQueue.Sound ({} : Host.Queues β) := Host.Queues.sound_empty
  constructor
  · exact ⟨strandsByDrowning_start trivial rfl items readers,
      mayStrand_iff trivial rfl items readers⟩
  · exact ⟨strandsByDrowning_start sound rfl requests readers,
      mayStrand_iff sound rfl requests readers⟩

/-- Both readers find nothing, and both writers add and ring before one of them parks. The first
takes one item, and the second stays parked beside the other, with nobody left to take a turn. -/
theorem second_ring_drowned :
    let threads : Threads (List String) String := run
      [.reader 0, .reader 1, .writer 0, .writer 1, .writer 0, .writer 1, .reader 0, .reader 1,
        .reader 0] (start [] ["x", "y"] 2)
    threads.Stranded ∧ threads.readers = [.served "x", .waiting] ∧
      ∀ turn, threads.step? turn = none := by
  intro threads
  have reached : threads = ⟨⟨["y"], ⟨false, [1], []⟩⟩, [.finished, .finished],
      [.served "x", .waiting]⟩ := rfl
  rw [reached]
  refine ⟨⟨nofun, by decide, ⟨1, rfl, List.mem_singleton_self 1⟩, rfl, rfl, by decide⟩, rfl, ?_⟩
  rintro ((_ | _ | n) | (_ | _ | n)) <;> rfl

end Threads

end FrameLink.Wait
