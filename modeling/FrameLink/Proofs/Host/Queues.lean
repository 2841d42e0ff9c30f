import Mathlib
import FrameLink.Host.Queues
/-!
The queues of all clients stand for one line of messages, each with its place in the order of all
arrivals. Every operation is described by what it does to that line; the list of arrivals may hold
stale entries besides, but never more of them than there are messages.
-/

namespace FrameLink.Host.Queues

variable {α : Type}

abbrev Placed (α : Type) := Nat × Envelope α

def isOf (client : ClientId) (item : Placed α) : Bool := item.2.client == client

def arrivalOf (item : Placed α) : Nat × ClientId := (item.1, item.2.client)

theorem isOf_self (item : Placed α) : isOf item.2.client item = true := by simp [isOf]

theorem isOf_iff {client : ClientId} {item : Placed α} :
    isOf client item = true ↔ item.2.client = client := by simp [isOf]

theorem isOf_other {client other : ClientId} (different : client ≠ other) {item : Placed α}
    (own : isOf client item = true) : isOf other item = false := by
  rw [isOf_iff] at own
  simp [isOf, own, different]

/-! ## Lines -/

theorem filter_eraseP_own (client : ClientId) (line : List (Placed α)) :
    (line.eraseP (isOf client)).filter (isOf client) = (line.filter (isOf client)).tail := by
  induction line with
  | nil => rfl
  | cons item line ih =>
    by_cases own : isOf client item = true
    · simp [own]
    · simp [own, ih]

theorem filter_eraseP_other {client other : ClientId} (different : client ≠ other)
    (line : List (Placed α)) :
    (line.eraseP (isOf client)).filter (isOf other) = line.filter (isOf other) := by
  induction line with
  | nil => rfl
  | cons item line ih =>
    by_cases own : isOf client item = true
    · simp [own, isOf_other different own]
    · simp [own, List.filter_cons, ih]

theorem filter_purged_own (client : ClientId) (line : List (Placed α)) :
    (line.filter fun item => !isOf client item).filter (isOf client) = [] := by
  simp [List.filter_filter]

theorem filter_purged_other {client other : ClientId} (different : client ≠ other)
    (line : List (Placed α)) :
    (line.filter fun item => !isOf client item).filter (isOf other) = line.filter (isOf other) := by
  rw [List.filter_filter]
  apply List.filter_congr
  intro item _
  by_cases own : isOf client item = true
  · simp [own, isOf_other different own]
  · simp [own]

theorem length_purged (client : ClientId) (line : List (Placed α)) :
    (line.filter fun item => !isOf client item).length =
      line.length - (line.filter (isOf client)).length := by
  have parts := List.length_eq_length_filter_add (l := line) (isOf client)
  omega

/-! ## One client's queue -/

@[simp] theorem ofClient_put (client other : ClientId) (queue : List (Placed α))
    (queues : Queues α) :
    (queues.put client queue).ofClient other =
      if other = client then queue else queues.ofClient other := by
  simp only [put, ofClient]
  by_cases same : other = client
  · subst same
    have absent : (queues.queues.filter fun entry => entry.1 != other).find?
        (fun entry => entry.1 == other) = none := by
      simp [List.find?_eq_none]
    cases queue with
    | nil => simp [absent]
    | cons item queue => simp [absent]
  · have kept : (queues.queues.filter fun entry => entry.1 != client).find?
        (fun entry => entry.1 == other) = queues.queues.find? fun entry => entry.1 == other := by
      rw [List.find?_filter]
      congr 1
      funext entry
      by_cases found : entry.1 = other
      · simp [found, same]
      · simp [found]
    cases queue with
    | nil => simp [kept, same]
    | cons item queue =>
      simp [kept, same, Ne.symm same]

theorem occupied_put (client : ClientId) (queue : List (Placed α)) {queues : Queues α}
    (occupied : ∀ entry ∈ queues.queues, entry.2 ≠ []) :
    ∀ entry ∈ (queues.put client queue).queues, entry.2 ≠ [] := by
  intro entry member
  cases queue with
  | nil =>
    simp only [put, List.isEmpty_nil, if_true, List.mem_filter] at member
    exact occupied entry member.1
  | cons item queue =>
    simp only [put, List.isEmpty_cons, Bool.false_eq_true, if_false, List.mem_append,
      List.mem_filter, List.mem_singleton] at member
    rcases member with kept | rfl
    · exact occupied entry kept.1
    · simp

/-! ## Representation -/

/-- The clients' queues and the size are those of the line. -/
structure Holds (queues : Queues α) (line : List (Placed α)) : Prop where
  contents : ∀ client, queues.ofClient client = line.filter (isOf client)
  occupied : ∀ entry ∈ queues.queues, entry.2 ≠ []
  ascending : line.Pairwise fun a b => a.1 < b.1
  size : queues.size = line.length

/-- Every message has its arrival. An arrival without a message is older than all messages of its
client. -/
structure Tracks (queues : Queues α) (line : List (Placed α)) : Prop where
  inOrder : queues.arrivals.Pairwise fun a b => a.1 < b.1
  below : ∀ arrival ∈ queues.arrivals, arrival.1 < queues.next
  covers : ∀ item ∈ line, arrivalOf item ∈ queues.arrivals
  stale : ∀ arrival ∈ queues.arrivals, arrival ∉ line.map arrivalOf →
    ∀ item ∈ line, item.2.client = arrival.2 → arrival.1 < item.1

structure Represents (queues : Queues α) (line : List (Placed α)) : Prop
    extends Holds queues line, Tracks queues line where
  bounded : queues.arrivals.length ≤ 2 * line.length

theorem represents_empty : Represents ({} : Queues α) [] where
  contents client := by simp [ofClient]
  occupied := by simp
  ascending := .nil
  size := rfl
  inOrder := .nil
  below := by simp
  covers := by simp
  stale := by simp
  bounded := by simp

theorem front?_eq {queues : Queues α} {line : List (Placed α)} (holds : Holds queues line)
    (client : ClientId) : queues.front? client = (line.find? (isOf client)).map (·.1) := by
  rw [front?, holds.contents, List.head?_filter]

theorem find?_first {line : List (Placed α)} (ascending : line.Pairwise fun a b => a.1 < b.1)
    {client : ClientId} {first : Placed α} (found : line.find? (isOf client) = some first) :
    ∀ item ∈ line, item.2.client = client → first.1 ≤ item.1 := by
  intro item member own
  obtain ⟨_, before, after, rfl, none⟩ := List.find?_eq_some_iff_append.mp found
  rw [List.pairwise_append] at ascending
  rcases List.mem_append.mp member with early | late
  · have := none item early
    simp [isOf, own] at this
  · rcases List.mem_cons.mp late with rfl | late
    · exact le_refl _
    · exact (List.rel_of_pairwise_cons ascending.2.1 late).le

theorem Tracks.shrink {queues : Queues α} {line left : List (Placed α)}
    (tracks : Tracks queues line) (sub : left.Sublist line)
    (older : ∀ gone ∈ line, gone ∉ left → ∀ item ∈ left, item.2.client = gone.2.client →
      gone.1 < item.1) : Tracks queues left where
  inOrder := tracks.inOrder
  below := tracks.below
  covers item member := tracks.covers item (sub.subset member)
  stale arrival member absent item kept own := by
    by_cases live : arrival ∈ line.map arrivalOf
    · obtain ⟨gone, present, rfl⟩ := List.mem_map.mp live
      refine older gone present (fun still => absent (List.mem_map_of_mem still)) item kept own
    · exact tracks.stale arrival member live item (sub.subset kept) own

theorem Tracks.takeFirst {queues : Queues α} {line : List (Placed α)} (tracks : Tracks queues line)
    (ascending : line.Pairwise fun a b => a.1 < b.1) (client : ClientId) :
    Tracks queues (line.eraseP (isOf client)) := by
  refine tracks.shrink List.eraseP_sublist ?_
  intro gone present absent item kept own
  cases found : line.find? (isOf client) with
  | none =>
    rw [List.eraseP_of_forall_not (by simpa using List.find?_eq_none.mp found)] at absent
    exact absurd present absent
  | some first =>
    obtain ⟨mine, before, after, rfl, none⟩ := List.find?_eq_some_iff_append.mp found
    have erased : (before ++ first :: after).eraseP (isOf client) = before ++ after := by
      rw [List.eraseP_append_right _ (by simpa using none)]
      simp [mine]
    rw [erased] at absent kept
    have same : gone = first := by
      rcases List.mem_append.mp present with early | late
      · exact absurd (List.mem_append_left _ early) absent
      · rcases List.mem_cons.mp late with same | late
        · exact same
        · exact absurd (List.mem_append_right _ late) absent
    subst same
    rw [List.pairwise_append] at ascending
    rcases List.mem_append.mp kept with early | late
    · have other := none item early
      simp [isOf, own, isOf_iff.mp mine] at other
    · exact List.rel_of_pairwise_cons ascending.2.1 late

theorem Tracks.purge {queues : Queues α} {line : List (Placed α)} (tracks : Tracks queues line)
    (client : ClientId) : Tracks queues (line.filter fun item => !isOf client item) := by
  refine tracks.shrink List.filter_sublist ?_
  intro gone present absent item kept own
  have mine : isOf client gone = true := by
    by_contra other
    exact absent (List.mem_filter.mpr ⟨present, by simpa using other⟩)
  have other := (List.mem_filter.mp kept).2
  simp [isOf, own, isOf_iff.mp mine] at other

/-! ## Stale arrivals -/

/-- The arrivals from the oldest message of their client on are exactly those of messages. -/
theorem keeps_iff_live {queues : Queues α} {line : List (Placed α)} (holds : Holds queues line)
    (tracks : Tracks queues line) {arrival : Nat × ClientId} (member : arrival ∈ queues.arrivals) :
    (queues.front? arrival.2).any (· ≤ arrival.1) = true ↔ arrival ∈ line.map arrivalOf := by
  rw [front?_eq holds]
  constructor
  · intro keeps
    by_contra absent
    cases found : line.find? (isOf arrival.2) with
    | none => simp [found] at keeps
    | some first =>
      have younger := tracks.stale arrival member absent first (List.mem_of_find?_eq_some found)
        (isOf_iff.mp (List.find?_some found))
      simp only [found, Option.map_some, Option.any_some, decide_eq_true_eq] at keeps
      omega
  · intro live
    obtain ⟨item, present, rfl⟩ := List.mem_map.mp live
    have found := List.find?_isSome.mpr ⟨item, present, isOf_self item⟩
    obtain ⟨first, found⟩ := Option.isSome_iff_exists.mp found
    have oldest := find?_first holds.ascending found item present rfl
    simp [arrivalOf, found, oldest]

theorem dropStale_arrivals {queues : Queues α} {line : List (Placed α)}
    (holds : Holds queues line) (tracks : Tracks queues line) :
    queues.dropStale.arrivals = line.map arrivalOf := by
  have ascending : (line.map arrivalOf).Pairwise fun a b => a.1 < b.1 := by
    rw [List.pairwise_map]
    exact holds.ascending
  have kept : queues.dropStale.arrivals.Pairwise fun a b => a.1 < b.1 :=
    tracks.inOrder.sublist List.filter_sublist
  refine List.Perm.eq_of_pairwise (fun a b _ _ less more => absurd less (lt_asymm more)) kept
    ascending ?_
  refine (List.perm_ext_iff_of_nodup (kept.imp fun less same => ?_)
    (ascending.imp fun less same => ?_)).mpr ?_
  · exact absurd less (by simp [same])
  · exact absurd less (by simp [same])
  · intro arrival
    constructor
    · intro member
      obtain ⟨present, keeps⟩ := List.mem_filter.mp member
      exact (keeps_iff_live holds tracks present).mp keeps
    · intro live
      obtain ⟨item, present, rfl⟩ := List.mem_map.mp live
      have tracked := tracks.covers item present
      exact List.mem_filter.mpr ⟨tracked, (keeps_iff_live holds tracks tracked).mpr live⟩

theorem compact_represents {queues : Queues α} {line : List (Placed α)}
    (holds : Holds queues line) (tracks : Tracks queues line) :
    Represents queues.compact line := by
  unfold compact
  split
  next few => exact { holds, tracks with bounded := by rw [← holds.size]; exact few }
  next many =>
    have arrivals := dropStale_arrivals holds tracks
    have sub : queues.dropStale.arrivals.Sublist queues.arrivals := List.filter_sublist
    exact {
      contents := holds.contents
      occupied := holds.occupied
      ascending := holds.ascending
      size := holds.size
      toTracks := {
        inOrder := tracks.inOrder.sublist sub
        below := fun arrival member => tracks.below arrival (sub.subset member)
        covers := fun item member => by rw [arrivals]; exact List.mem_map_of_mem member
        stale := fun arrival member absent => absurd (arrivals ▸ member) absent }
      bounded := by rw [arrivals, List.length_map]; omega }

theorem settle_nil {queues : Queues α} (holds : Holds queues []) :
    queues.settle.arrivals = [] := by
  simp [settle, front?_eq holds]

theorem settle_cons {queues : Queues α} {item : Placed α} {line : List (Placed α)}
    (holds : Holds queues (item :: line)) (tracks : Tracks queues (item :: line)) :
    ∃ skipped rest, queues.arrivals = skipped ++ arrivalOf item :: rest ∧
      queues.settle.arrivals = arrivalOf item :: rest := by
  obtain ⟨skipped, rest, parts⟩ :=
    List.append_of_mem (tracks.covers item (List.mem_cons_self ..))
  refine ⟨skipped, rest, parts, ?_⟩
  have inOrder := tracks.inOrder
  rw [parts, List.pairwise_append] at inOrder
  have early : ∀ arrival ∈ skipped,
      (queues.front? arrival.2 != some arrival.1) = true := by
    intro arrival member
    have before := inOrder.2.2 arrival member (arrivalOf item) (List.mem_cons_self ..)
    cases found : (item :: line).find? (isOf arrival.2) with
    | none => simp [front?_eq holds, found]
    | some first =>
      have least : item.1 ≤ first.1 := by
        rcases List.mem_cons.mp (List.mem_of_find?_eq_some found) with rfl | later
        · exact le_refl _
        · exact (List.rel_of_pairwise_cons holds.ascending later).le
      have apart : first.1 ≠ arrival.1 := by
        simp only [arrivalOf] at before
        omega
      simp [front?_eq holds, found, apart]
  have live : queues.front? item.2.client = some item.1 := by
    simp [front?_eq holds, isOf_self]
  simp only [settle, parts]
  rw [List.dropWhile_append_of_pos early]
  simp [arrivalOf, live]

theorem Tracks.fewer {queues : Queues α} {line : List (Placed α)} (tracks : Tracks queues line)
    {arrivals : List (Nat × ClientId)} (sub : arrivals.Sublist queues.arrivals)
    {left : List (Placed α)} (covers : ∀ item ∈ left, arrivalOf item ∈ arrivals)
    (stale : ∀ arrival ∈ arrivals, arrival ∈ line.map arrivalOf → arrival ∈ left.map arrivalOf)
    (included : left.Sublist line) : Tracks { queues with arrivals } left where
  inOrder := tracks.inOrder.sublist sub
  below arrival member := tracks.below arrival (sub.subset member)
  covers := covers
  stale arrival member absent item kept :=
    tracks.stale arrival (sub.subset member) (fun live => absent (stale arrival member live)) item
      (included.subset kept)

theorem settle_tracks {queues : Queues α} {line : List (Placed α)} (holds : Holds queues line)
    (tracks : Tracks queues line) : Tracks queues.settle line := by
  refine tracks.fewer (List.dropWhile_sublist _) ?_ (fun _ _ live => live) (List.Sublist.refl _)
  cases line with
  | nil => simp
  | cons item line =>
    obtain ⟨skipped, rest, parts, settled⟩ := settle_cons holds tracks
    intro other member
    change arrivalOf other ∈ queues.settle.arrivals
    rw [settled]
    have tracked := tracks.covers other member
    rw [parts] at tracked
    rcases List.mem_append.mp tracked with early | late
    · have inOrder := tracks.inOrder
      rw [parts, List.pairwise_append] at inOrder
      have before := inOrder.2.2 _ early (arrivalOf item) (List.mem_cons_self ..)
      have least : item.1 ≤ other.1 := by
        rcases List.mem_cons.mp member with rfl | later
        · exact le_refl _
        · exact (List.rel_of_pairwise_cons holds.ascending later).le
      simp only [arrivalOf] at before
      omega
    · exact late

theorem next_tracks {queues : Queues α} {item : Placed α} {line : List (Placed α)}
    {rest : List (Nat × ClientId)} (holds : Holds queues (item :: line))
    (tracks : Tracks queues (item :: line)) (foremost : queues.arrivals = arrivalOf item :: rest) :
    Tracks { queues with arrivals := rest } line := by
  have inOrder := tracks.inOrder
  rw [foremost] at inOrder
  refine tracks.fewer (by rw [foremost]; exact List.sublist_cons_self ..) ?_ ?_
    (List.sublist_cons_self ..)
  · intro other member
    have tracked := tracks.covers other (List.mem_cons_of_mem _ member)
    rw [foremost] at tracked
    rcases List.mem_cons.mp tracked with same | later
    · have later := List.rel_of_pairwise_cons holds.ascending member
      have place := congrArg Prod.fst same
      simp only [arrivalOf] at place
      omega
    · exact later
  · intro arrival member live
    have later := List.rel_of_pairwise_cons inOrder member
    simp only [List.map_cons, List.mem_cons] at live
    rcases live with rfl | live
    · exact absurd later (lt_irrefl _)
    · exact live

/-! ## Operations -/

theorem push_represents {queues : Queues α} {line : List (Placed α)}
    (represents : Represents queues line) (envelope : Envelope α) :
    Represents (queues.push envelope) (line ++ [(queues.next, envelope)]) := by
  have early : ∀ item ∈ line, item.1 < queues.next := fun item member =>
    represents.below _ (represents.covers item member)
  constructor
  · constructor
    · intro client
      change (queues.put envelope.client _).ofClient client = _
      rw [ofClient_put, List.filter_append]
      by_cases own : client = envelope.client
      · simp [own, represents.contents, isOf]
      · simp [own, represents.contents, isOf, Ne.symm own]
    · exact occupied_put _ _ represents.occupied
    · rw [List.pairwise_append]
      refine ⟨represents.ascending, List.pairwise_singleton _ _, ?_⟩
      intro item member last same
      rw [List.mem_singleton.mp same]
      exact early item member
    · simp [push, represents.size]
  · constructor
    · change (queues.arrivals ++ [_]).Pairwise _
      rw [List.pairwise_append]
      refine ⟨represents.inOrder, List.pairwise_singleton _ _, ?_⟩
      intro arrival member last same
      rw [List.mem_singleton.mp same]
      exact represents.below arrival member
    · intro arrival member
      change arrival.1 < queues.next + 1
      rcases List.mem_append.mp member with old | new
      · have := represents.below arrival old
        omega
      · rw [List.mem_singleton.mp new]
        exact Nat.lt_succ_self _
    · intro item member
      change arrivalOf item ∈ queues.arrivals ++ [(queues.next, envelope.client)]
      rcases List.mem_append.mp member with old | new
      · exact List.mem_append_left _ (represents.covers item old)
      · rw [List.mem_singleton.mp new]
        exact List.mem_append_right _ (List.mem_singleton.mpr rfl)
    · intro arrival member absent item present own
      simp only [List.map_append, List.map_cons, List.map_nil, List.mem_append, not_or] at absent
      rcases List.mem_append.mp member with old | new
      · rcases List.mem_append.mp present with there | last
        · exact represents.stale arrival old absent.1 item there own
        · rw [List.mem_singleton.mp last]
          exact represents.below arrival old
      · exact absurd new absent.2
  · change (queues.arrivals ++ [_]).length ≤ _
    have := represents.bounded
    simp only [List.length_append, List.length_singleton]
    omega

theorem popFrom_none {queues : Queues α} {line : List (Placed α)} (holds : Holds queues line)
    {client : ClientId} (absent : line.find? (isOf client) = none) :
    queues.popFrom client = (none, queues) := by
  have empty : queues.ofClient client = [] := by
    rw [holds.contents, List.filter_eq_nil_iff]
    exact List.find?_eq_none.mp absent
  simp [popFrom, empty]

theorem Holds.takeFirst {queues : Queues α} {line : List (Placed α)} (holds : Holds queues line)
    {client : ClientId} {first : Placed α} {rest : List (Placed α)}
    (own : queues.ofClient client = first :: rest) :
    Holds { queues.put client rest with size := queues.size - 1 } (line.eraseP (isOf client)) := by
  have queue : line.filter (isOf client) = first :: rest := by rw [← holds.contents, own]
  have present : first ∈ line.filter (isOf client) := by
    rw [queue]
    exact List.mem_cons_self ..
  obtain ⟨member, mine⟩ := List.mem_filter.mp present
  constructor
  · intro other
    change (queues.put client rest).ofClient other = _
    rw [ofClient_put]
    by_cases same : other = client
    · subst same
      rw [if_pos rfl, filter_eraseP_own, queue, List.tail_cons]
    · rw [if_neg same, filter_eraseP_other (Ne.symm same), holds.contents]
  · exact occupied_put client rest holds.occupied
  · exact holds.ascending.sublist List.eraseP_sublist
  · change queues.size - 1 = _
    rw [List.length_eraseP_of_mem member mine, holds.size]

/-- The first message of a client leaves the line; its arrival may have gone before. -/
theorem popFrom_some {queues : Queues α} {line : List (Placed α)} (holds : Holds queues line)
    {client : ClientId} {first : Placed α} (found : line.find? (isOf client) = some first)
    (tracks : Tracks queues (line.eraseP (isOf client))) :
    (queues.popFrom client).1 = some first.2 ∧
      Represents (queues.popFrom client).2 (line.eraseP (isOf client)) := by
  have head : (line.filter (isOf client)).head? = some first := by
    rw [List.head?_filter, found]
  obtain ⟨rest, queue⟩ := List.head?_eq_some_iff.mp head
  have own : queues.ofClient client = first :: rest := by rw [holds.contents, queue]
  have popped : queues.popFrom client =
      (some first.2, compact { queues.put client rest with size := queues.size - 1 }) := by
    simp only [popFrom, own]
  rw [popped]
  exact ⟨rfl, compact_represents (holds.takeFirst own) { tracks with }⟩

theorem popFrom_represents {queues : Queues α} {line : List (Placed α)}
    (represents : Represents queues line) (client : ClientId) :
    (queues.popFrom client).1 = (line.find? (isOf client)).map (·.2) ∧
      Represents (queues.popFrom client).2 (line.eraseP (isOf client)) := by
  cases found : line.find? (isOf client) with
  | none =>
    rw [popFrom_none represents.toHolds found,
      List.eraseP_of_forall_not (by simpa using List.find?_eq_none.mp found)]
    exact ⟨rfl, represents⟩
  | some first =>
    exact popFrom_some represents.toHolds found
      (represents.toTracks.takeFirst represents.ascending client)

theorem settle_represents {queues : Queues α} {line : List (Placed α)}
    (represents : Represents queues line) : Represents queues.settle line where
  contents := represents.contents
  occupied := represents.occupied
  ascending := represents.ascending
  size := represents.size
  toTracks := settle_tracks represents.toHolds represents.toTracks
  bounded := (List.dropWhile_sublist _).length_le.trans represents.bounded

theorem pop_represents {queues : Queues α} {line : List (Placed α)}
    (represents : Represents queues line) :
    (queues.pop).1 = line.head?.map (·.2) ∧ Represents (queues.pop).2 line.tail := by
  have settled := settle_represents represents
  cases line with
  | nil =>
    have none := settle_nil represents.toHolds
    simp only [pop, none]
    exact ⟨rfl, settled⟩
  | cons item line =>
    obtain ⟨_, rest, _, arrivals⟩ := settle_cons represents.toHolds represents.toTracks
    have tracks := next_tracks settled.toHolds settled.toTracks arrivals
    have found : (item :: line).find? (isOf item.2.client) = some item := by simp [isOf_self]
    have erased : (item :: line).eraseP (isOf item.2.client) = line := by simp [isOf_self]
    have holds : Holds { queues.settle with arrivals := rest } (item :: line) :=
      { settled.toHolds with }
    have popped := popFrom_some holds found (by rw [erased]; exact tracks)
    rw [erased] at popped
    simp only [pop, arrivals, arrivalOf]
    exact popped

theorem peek_represents {queues : Queues α} {line : List (Placed α)}
    (represents : Represents queues line) :
    (queues.peek).1 = line.head?.map (·.2) ∧ Represents (queues.peek).2 line := by
  have settled := settle_represents represents
  cases line with
  | nil =>
    have none := settle_nil represents.toHolds
    simp only [peek, none]
    exact ⟨rfl, settled⟩
  | cons item line =>
    obtain ⟨_, rest, _, arrivals⟩ := settle_cons represents.toHolds represents.toTracks
    simp only [peek, arrivals, arrivalOf]
    refine ⟨?_, settled⟩
    rw [settled.contents, List.head?_filter]
    simp [isOf_self]

theorem Holds.purge {queues : Queues α} {line : List (Placed α)} (holds : Holds queues line)
    (client : ClientId) :
    Holds { queues.put client [] with size := queues.size - (queues.ofClient client).length }
      (line.filter fun item => !isOf client item) := by
  constructor
  · intro other
    change (queues.put client []).ofClient other = _
    rw [ofClient_put]
    by_cases same : other = client
    · subst same
      rw [if_pos rfl, filter_purged_own]
    · rw [if_neg same, filter_purged_other (Ne.symm same), holds.contents]
  · exact occupied_put client [] holds.occupied
  · exact holds.ascending.sublist List.filter_sublist
  · change queues.size - (queues.ofClient client).length = _
    rw [length_purged, holds.size, holds.contents]

theorem purge_represents {queues : Queues α} {line : List (Placed α)}
    (represents : Represents queues line) (client : ClientId) :
    (queues.purge client).1 = line.countP (isOf client) ∧
      Represents (queues.purge client).2 (line.filter fun item => !isOf client item) := by
  have count : (queues.ofClient client).length = line.countP (isOf client) := by
    rw [represents.contents, List.countP_eq_length_filter]
  exact ⟨count, compact_represents (represents.toHolds.purge client)
    { represents.toTracks.purge client with }⟩

theorem isEmpty_represents {queues : Queues α} {line : List (Placed α)}
    (holds : Holds queues line) : queues.isEmpty = line.isEmpty := by
  cases line <;> simp [isEmpty, holds.size]

theorem hasFrom_represents {queues : Queues α} {line : List (Placed α)}
    (holds : Holds queues line) (client : ClientId) :
    queues.hasFrom client = line.any (isOf client) := by
  have contents := holds.contents client
  rw [ofClient] at contents
  cases found : queues.queues.find? fun entry => entry.1 == client with
  | none =>
    have absent : queues.hasFrom client = false := by
      simpa [hasFrom] using List.find?_eq_none.mp found
    rw [found] at contents
    have none := List.filter_eq_nil_iff.mp contents.symm
    rw [absent, eq_comm, List.any_eq_false]
    exact none
  | some entry =>
    have member := List.mem_of_find?_eq_some found
    have named : (entry.1 == client) = true := by simpa using List.find?_some found
    have present : queues.hasFrom client = true := List.any_eq_true.mpr ⟨entry, member, named⟩
    have occupied := holds.occupied entry member
    rw [found] at contents
    obtain ⟨item, queued⟩ := List.exists_mem_of_ne_nil _ occupied
    have inLine : item ∈ line.filter (isOf client) := contents ▸ queued
    rw [present, eq_comm, List.any_eq_true]
    exact ⟨item, List.mem_filter.mp inLine⟩

end FrameLink.Host.Queues
