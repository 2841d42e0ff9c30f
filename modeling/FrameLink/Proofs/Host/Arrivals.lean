import Mathlib
import FrameLink.Proofs.Host.ArrivalOrder
/-!
The list of arrivals beside the messages that are still queued. It holds an arrival for each of them and,
besides, stale ones; but after every act there are at most as many stale arrivals as messages, and where
the list is compacted it loses exactly the stale ones, although only the oldest message of a client is
looked at.
-/

namespace FrameLink.Host.Queues

variable {α : Type}

/-- Whether the message of an arrival is still queued. -/
def isLive (queues : Queues α) (arrival : Nat × ClientId) : Bool :=
  (queues.ofClient arrival.2).any fun item => item.1 == arrival.1

/-- The queues without the oldest message of a client, not yet compacted. -/
def taken? (client : ClientId) (queues : Queues α) : Option (Queues α) :=
  match queues.ofClient client with
  | [] => none
  | _ :: rest => some { queues.put client rest with size := queues.size - 1 }

/-- The queues as an act leaves them to be compacted, for the acts that remove messages. -/
def uncompacted? (queues : Queues α) : Act α → Option (Queues α)
  | .pop =>
    match queues.settle.arrivals with
    | [] => none
    | (_, client) :: rest => taken? client { queues.settle with arrivals := rest }
  | .popFrom client => queues.taken? client
  | .purge client =>
    some { queues.put client [] with size := queues.size - (queues.ofClient client).length }
  | .push _ | .peek | .size | .isEmpty | .hasFrom _ => none

/-- What the list of arrivals keeps between any two acts. -/
structure InStep (queues : Queues α) : Prop where
  bounded : queues.arrivals.length ≤ 2 * queues.size
  inOrder : queues.arrivals.Pairwise fun a b => a.1 < b.1
  below : ∀ arrival ∈ queues.arrivals, arrival.1 < queues.next
  listed : ∀ client, ∀ item ∈ queues.ofClient client, (item.1, client) ∈ queues.arrivals
  /-- each message is counted, and has one arrival -/
  counted : queues.arrivals.countP queues.isLive = queues.size
  empty : queues.isEmpty = queues.arrivals.isEmpty

theorem isLive_iff {queues : Queues α} {line : List (Placed α)} (holds : Holds queues line)
    (arrival : Nat × ClientId) : queues.isLive arrival = true ↔ arrival ∈ line.map arrivalOf := by
  rw [isLive, holds.contents, List.any_eq_true, List.mem_map]
  constructor
  · rintro ⟨item, queued, place⟩
    obtain ⟨member, own⟩ := List.mem_filter.mp queued
    exact ⟨item, member, Prod.ext (beq_iff_eq.mp place) (isOf_iff.mp own)⟩
  · rintro ⟨item, member, rfl⟩
    exact ⟨item, List.mem_filter.mpr ⟨member, isOf_self item⟩, beq_self_eq_true _⟩

/-- The arrivals whose messages are still queued are those of the line, in its order. -/
theorem filter_isLive {queues : Queues α} {line : List (Placed α)} (holds : Holds queues line)
    (tracks : Tracks queues line) : queues.arrivals.filter queues.isLive = line.map arrivalOf := by
  rw [← dropStale_arrivals holds tracks]
  refine List.filter_congr fun arrival member => ?_
  rw [Bool.eq_iff_iff, isLive_iff holds]
  exact (keeps_iff_live holds tracks member).symm

/-- The front of a client's queue tells the stale arrivals from the others. -/
theorem dropStale_eq {queues : Queues α} {line : List (Placed α)} (holds : Holds queues line)
    (tracks : Tracks queues line) :
    queues.dropStale = { queues with arrivals := queues.arrivals.filter queues.isLive } := by
  rw [filter_isLive holds tracks, ← dropStale_arrivals holds tracks]
  rfl

theorem countP_isLive {queues : Queues α} {line : List (Placed α)} (holds : Holds queues line)
    (tracks : Tracks queues line) : queues.arrivals.countP queues.isLive = queues.size := by
  rw [List.countP_eq_length_filter, filter_isLive holds tracks, List.length_map, holds.size]

theorem Represents.inStep {queues : Queues α} {line : List (Placed α)}
    (represents : Represents queues line) : InStep queues where
  bounded := by rw [represents.size]; exact represents.bounded
  inOrder := represents.inOrder
  below := represents.below
  listed client item queued := by
    rw [represents.contents] at queued
    obtain ⟨member, own⟩ := List.mem_filter.mp queued
    rw [← isOf_iff.mp own]
    exact represents.covers item member
  counted := countP_isLive represents.toHolds represents.toTracks
  empty := by
    rw [isEmpty_represents represents.toHolds]
    cases line with
    | nil =>
      have none := List.length_eq_zero_iff.mp (Nat.le_zero.mp represents.bounded)
      rw [none]
      rfl
    | cons item line =>
      have listed := represents.covers item (List.mem_cons_self ..)
      simp [List.ne_nil_of_mem listed]

theorem of_taken {queues left : Queues α} {client : ClientId}
    (taken : queues.taken? client = some left) : ∃ first rest,
      queues.ofClient client = first :: rest ∧
        left = { queues.put client rest with size := queues.size - 1 } := by
  unfold taken? at taken
  cases own : queues.ofClient client with
  | nil =>
    rw [own] at taken
    cases taken
  | cons first rest =>
    rw [own] at taken
    cases taken
    exact ⟨first, rest, rfl, rfl⟩

theorem popFrom_of_taken {queues left : Queues α} {client : ClientId}
    (taken : queues.taken? client = some left) : (queues.popFrom client).2 = left.compact := by
  obtain ⟨first, rest, own, rfl⟩ := of_taken taken
  simp only [popFrom, own]

theorem perform_of_uncompacted {queues left : Queues α} {act : Act α}
    (leaves : queues.uncompacted? act = some left) : (queues.perform act).2 = left.compact := by
  cases act with
  | pop =>
    simp only [uncompacted?] at leaves
    cases foremost : queues.settle.arrivals with
    | nil =>
      rw [foremost] at leaves
      cases leaves
    | cons arrival rest =>
      rw [foremost] at leaves
      simp only [perform, pop, foremost]
      exact popFrom_of_taken leaves
  | popFrom client => exact popFrom_of_taken leaves
  | purge client =>
    cases leaves
    rfl
  | _ => cases leaves

theorem taken_tracked {queues left : Queues α} {line : List (Placed α)} {client : ClientId}
    (holds : Holds queues line) (tracks : Tracks queues (line.eraseP (isOf client)))
    (taken : queues.taken? client = some left) :
    Holds left (line.eraseP (isOf client)) ∧ Tracks left (line.eraseP (isOf client)) := by
  obtain ⟨first, rest, own, rfl⟩ := of_taken taken
  exact ⟨holds.takeFirst own, { tracks with }⟩

/-- Before it is compacted, too, the list has the arrivals of all messages that are left, and its stale
arrivals are older than those of their client. -/
theorem uncompacted_tracked {queues left : Queues α} {line : List (Placed α)} {act : Act α}
    (represents : Represents queues line) (leaves : queues.uncompacted? act = some left) :
    ∃ kept, Holds left kept ∧ Tracks left kept := by
  cases act with
  | pop =>
    have settled := settle_represents represents
    simp only [uncompacted?] at leaves
    cases line with
    | nil =>
      rw [settle_nil represents.toHolds] at leaves
      cases leaves
    | cons item line =>
      obtain ⟨_, rest, _, arrivals⟩ := settle_cons represents.toHolds represents.toTracks
      have tracks := next_tracks settled.toHolds settled.toTracks arrivals
      have holds : Holds { queues.settle with arrivals := rest } (item :: line) :=
        { settled.toHolds with }
      have erased : (item :: line).eraseP (isOf item.2.client) = line := by simp [isOf_self]
      simp only [arrivals, arrivalOf] at leaves
      exact ⟨_, taken_tracked holds (by rw [erased]; exact tracks) leaves⟩
  | popFrom client =>
    exact ⟨_, taken_tracked represents.toHolds
      (represents.toTracks.takeFirst represents.ascending client) leaves⟩
  | purge client =>
    cases leaves
    exact ⟨_, represents.toHolds.purge client, { represents.toTracks.purge client with }⟩
  | _ => cases leaves

/-- After any acts the list of arrivals is in step with the messages: at most twice as long, in order, with
an arrival for each message. Only a push takes a place, so fewer than 2^64 pushes number them with 64
bits. And whichever act comes next, what it leaves to be compacted loses exactly the arrivals whose
messages are gone, or none as long as these do not outnumber the others. -/
theorem arrivals_in_step (acts : List (Act α)) :
    let queues := (answers perform acts {}).2
    queues.InStep ∧ queues.next = acts.countP Act.isPush ∧
      ∀ act left, queues.uncompacted? act = some left →
        (queues.perform act).2 = left.compact ∧
        left.arrivals.countP left.isLive = left.size ∧
        left.compact =
          if left.arrivals.length ≤ 2 * left.size then left
          else { left with arrivals := left.arrivals.filter left.isLive } := by
  intro queues
  obtain ⟨-, line, represents, -⟩ := answers_represent represents_empty acts
  refine ⟨represents.inStep, ?_, ?_⟩
  · rw [next_answers]
    exact Nat.zero_add _
  · intro act left leaves
    obtain ⟨kept, holds, tracks⟩ := uncompacted_tracked represents leaves
    refine ⟨perform_of_uncompacted leaves, countP_isLive holds tracks, ?_⟩
    rw [compact, dropStale_eq holds tracks]

end FrameLink.Host.Queues
