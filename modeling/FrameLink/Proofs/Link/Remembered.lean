import Mathlib
import FrameLink.Proofs.Link.Origins
/-!
Which numbers are remembered once their requests have stopped waiting, in whatever order numbers are
registered, withdrawn, answered, expire and are given up all at once: never one that a request waits for,
and an expired one for as long as fewer others expire after it than can be remembered.
-/

namespace FrameLink.Link

open Wait

variable {α : Type} {pending : Pending} {seen : List Correlation} {id other : Correlation}

/-- An exchange, with the ticket of the next request. -/
structure Desk (α : Type) where
  exchange : Exchange α := {}
  tickets : Ticket := 0

inductive Desk.Move (α : Type) where
  | registers (id : Correlation)
  | forgets (id : Correlation)
  | expires (id : Correlation)
  | resolves (id : Correlation) (body : α)
  /-- the caller with this ticket lets go of its receipt -/
  | releases (ticket : Ticket)
  | abandons

def Desk.Move.registered? : Desk.Move α → Option Correlation
  | .registers id => some id
  | _ => none

namespace Pending

def awaited (pending : Pending) : List Correlation := pending.live.map (·.1)

theorem find?_eq_none_iff : pending.find? id = none ↔ id ∉ pending.awaited := by
  simp only [find?, awaited, Option.map_eq_none_iff, List.find?_eq_none, List.mem_map, beq_iff_eq,
    not_exists, not_and]

theorem awaited_erase : (pending.erase id).awaited = pending.awaited.filter (· != id) := by
  rw [awaited, erase, awaited, List.filter_map]
  rfl

theorem awaited_register (ticket : Ticket) :
    (pending.register id ticket).awaited = pending.awaited.filter (· != id) ++ [id] := by
  rw [← awaited_erase, awaited, register, List.map_append, List.map_singleton]
  rfl

/-- The number that a move makes expire: one that a request waits for. -/
def expiring? (pending : Pending) : Desk.Move α → Option Correlation
  | .expires id => if id ∈ pending.awaited then some id else none
  | _ => none

def next (ticket : Ticket) (pending : Pending) : Desk.Move α → Pending
  | .registers id => pending.register id ticket
  | .forgets id => pending.erase id
  | .expires id => pending.expire id
  | .resolves id _ => if id ∈ pending.awaited then pending.erase id else (pending.recognise id).2
  | .releases _ => pending
  | .abandons => {}

/-- No number is remembered twice, too many are not, and none that a request waits for. -/
structure Orderly (seen : List Correlation) (pending : Pending) : Prop where
  known : ∀ id, id ∈ pending.awaited ∨ id ∈ pending.expired → id ∈ seen
  apart : pending.awaited.Disjoint pending.expired
  once : pending.expired.Nodup
  bounded : pending.expired.length ≤ expiredCapacity

namespace Orderly

theorem empty : Orderly seen {} where
  known id := by simp [awaited]
  apart := by simp [awaited]
  once := List.nodup_nil
  bounded := Nat.zero_le _

theorem less {left : Pending} (orderly : pending.Orderly seen)
    (awaited : left.awaited.Sublist pending.awaited)
    (expired : left.expired.Sublist pending.expired) : left.Orderly seen where
  known id := fun member =>
    orderly.known id (member.imp (fun here => awaited.subset here) (fun here => expired.subset here))
  apart := fun _ here there => orderly.apart (awaited.subset here) (expired.subset there)
  once := orderly.once.sublist expired
  bounded := expired.length_le.trans orderly.bounded

theorem erase (orderly : pending.Orderly seen) (id : Correlation) :
    (pending.erase id).Orderly seen := by
  refine orderly.less ?_ (List.Sublist.refl _)
  rw [awaited_erase]
  exact List.filter_sublist

theorem recognise (orderly : pending.Orderly seen) (id : Correlation) :
    (pending.recognise id).2.Orderly seen := by
  unfold Pending.recognise
  split
  · exact orderly.less (List.Sublist.refl _) List.erase_sublist
  · exact orderly

theorem register (orderly : pending.Orderly seen) (ticket : Ticket) (fresh : id ∉ seen) :
    (pending.register id ticket).Orderly (seen ++ [id]) where
  known other member := by
    rw [awaited_register, List.mem_append, List.mem_filter, List.mem_singleton] at member
    rw [List.mem_append, List.mem_singleton]
    rcases member with (⟨old, _⟩ | new) | late
    · exact .inl (orderly.known other (.inl old))
    · exact .inr new
    · exact .inl (orderly.known other (.inr late))
  apart other here late := by
    rw [awaited_register, List.mem_append, List.mem_filter, List.mem_singleton] at here
    rcases here with ⟨old, _⟩ | rfl
    · exact orderly.apart old late
    · exact fresh (orderly.known other (.inr late))
  once := orderly.once
  bounded := orderly.bounded

theorem expire (orderly : pending.Orderly seen) (id : Correlation) :
    (pending.expire id).Orderly seen := by
  cases found : pending.find? id with
  | none =>
    rw [Pending.expire, found]
    exact orderly
  | some ticket =>
    have waits : id ∈ pending.awaited := by
      by_contra absent
      rw [← find?_eq_none_iff, found] at absent
      cases absent
    rw [expire_of_found found]
    generalize kept : (if pending.expired.length = expiredCapacity then pending.expired.drop 1
      else pending.expired) = left
    have fewer : left.Sublist pending.expired ∧ left.length < expiredCapacity := by
      have bounded := orderly.bounded
      subst kept
      split
      next full =>
        refine ⟨List.drop_sublist .., ?_⟩
        rw [List.length_drop, full]
        decide
      next room => exact ⟨List.Sublist.refl _, Nat.lt_of_le_of_ne bounded room⟩
    have absent : id ∉ left := fun late => orderly.apart waits (fewer.1.subset late)
    refine ⟨?_, ?_, ?_, ?_⟩
    · intro other member
      change other ∈ (pending.erase id).awaited ∨ other ∈ left ++ [id] at member
      rw [awaited_erase, List.mem_filter, List.mem_append, List.mem_singleton] at member
      rcases member with ⟨old, _⟩ | late | rfl
      · exact orderly.known other (.inl old)
      · exact orderly.known other (.inr (fewer.1.subset late))
      · exact orderly.known other (.inl waits)
    · intro other here late
      change other ∈ (pending.erase id).awaited at here
      change other ∈ left ++ [id] at late
      rw [awaited_erase, List.mem_filter, bne_iff_ne] at here
      rcases List.mem_append.mp late with old | new
      · exact orderly.apart here.1 (fewer.1.subset old)
      · exact here.2 (List.mem_singleton.mp new)
    · exact (orderly.once.sublist fewer.1).append (List.nodup_singleton id)
        (List.disjoint_singleton.mpr absent)
    · change (left ++ [id]).length ≤ _
      rw [List.length_append]
      exact fewer.2

theorem next (orderly : pending.Orderly seen) (ticket : Ticket) (move : Desk.Move α)
    (fresh : ∀ id, move.registered? = some id → id ∉ seen) :
    (pending.next ticket move).Orderly (seen ++ move.registered?.toList) := by
  cases move with
  | registers id => exact orderly.register ticket (fresh id rfl)
  | forgets id => exact (List.append_nil seen).symm ▸ orderly.erase id
  | expires id => exact (List.append_nil seen).symm ▸ orderly.expire id
  | resolves id body =>
    rw [Pending.next, show (Desk.Move.resolves id body).registered?.toList = [] from rfl,
      List.append_nil]
    split
    · exact orderly.erase id
    · exact orderly.recognise id
  | releases ticket => exact (List.append_nil seen).symm ▸ orderly
  | abandons => exact .empty

end Orderly

/-- The number is remembered, and so many others at most have been since. -/
def Recent (id : Correlation) (count : Nat) (pending : Pending) : Prop :=
  ∃ older newer, pending.expired = older ++ id :: newer ∧ newer.length ≤ count

namespace Recent

variable {count : Nat}

theorem member (recent : pending.Recent id count) : id ∈ pending.expired := by
  obtain ⟨older, newer, same, _⟩ := recent
  simp [same]

theorem of_expired {left : Pending} (recent : pending.Recent id count)
    (same : left.expired = pending.expired) : left.Recent id count := by
  obtain ⟨older, newer, split, few⟩ := recent
  exact ⟨older, newer, same.trans split, few⟩

theorem expires (waits : id ∈ pending.awaited) : (pending.expire id).Recent id 0 := by
  cases found : pending.find? id with
  | none => exact absurd waits (find?_eq_none_iff.mp found)
  | some ticket =>
    rw [expire_of_found found]
    exact ⟨_, [], rfl, Nat.le_refl 0⟩

theorem expire (recent : pending.Recent id count) (few : count + 1 < expiredCapacity)
    (waits : other ∈ pending.awaited) : (pending.expire other).Recent id (count + 1) := by
  cases found : pending.find? other with
  | none => exact absurd waits (find?_eq_none_iff.mp found)
  | some ticket =>
    obtain ⟨older, newer, same, short⟩ := recent
    have longer : (newer ++ [other]).length ≤ count + 1 := by
      rw [List.length_append]
      exact Nat.succ_le_succ short
    rw [expire_of_found found, same]
    split
    next full =>
      cases older with
      | nil =>
        -- It would be the oldest of as many as can be remembered, so no room is made for it.
        rw [List.nil_append, List.length_cons] at full
        omega
      | cons first older => exact ⟨older, newer ++ [other], by simp, longer⟩
    next => exact ⟨older, newer ++ [other], by simp, longer⟩

theorem recognise (recent : pending.Recent id count) (apart : other ≠ id) :
    (pending.recognise other).2.Recent id count := by
  obtain ⟨older, newer, same, few⟩ := recent
  unfold Pending.recognise
  split
  next late =>
    by_cases before : other ∈ older
    · exact ⟨older.erase other, newer, by simp [same, List.erase_append_left _ before], few⟩
    · refine ⟨older, newer.erase other, ?_, List.erase_sublist.length_le.trans few⟩
      simp [same, List.erase_append_right _ before, Ne.symm apart]
  next => exact ⟨older, newer, same, few⟩

/-- No move but an answer to it and giving up all of them makes a recent number forgotten. -/
theorem next (recent : pending.Recent id count) (ticket : Ticket) {move : Desk.Move α}
    (few : count + (pending.expiring? move).toList.length < expiredCapacity)
    (unanswered : ∀ body, move ≠ .resolves id body) (kept : move ≠ .abandons) :
    (pending.next ticket move).Recent id (count + (pending.expiring? move).toList.length) := by
  cases move with
  | registers other | forgets other | releases other => exact recent.of_expired rfl
  | abandons => exact absurd rfl kept
  | expires other =>
    rw [Pending.next]
    by_cases waits : other ∈ pending.awaited
    · rw [expiring?, if_pos waits] at few ⊢
      exact recent.expire few waits
    · rw [expiring?, if_neg waits, Pending.expire, find?_eq_none_iff.mpr waits]
      exact recent
  | resolves other body =>
    have apart : other ≠ id := by
      rintro rfl
      exact unanswered body rfl
    rw [Pending.next]
    split
    · exact recent.of_expired rfl
    · exact recent.recognise apart

end Recent

end Pending

namespace Desk

variable {desk : Desk α} {moves : List (Move α)}

def step (desk : Desk α) : Move α → Desk α
  | .registers id => ⟨desk.exchange.register id desk.tickets, desk.tickets + 1⟩
  | .forgets id => { desk with exchange := desk.exchange.forget id }
  | .expires id => { desk with exchange := desk.exchange.expire id }
  | .resolves id body => { desk with exchange := (desk.exchange.resolve id body).2 }
  | .releases ticket => { desk with exchange := desk.exchange.release ticket }
  | .abandons => { desk with exchange := desk.exchange.abandon.2 }

def run (moves : List (Move α)) (desk : Desk α) : Desk α := moves.foldl step desk

/-- The numbers that expire in the course of some moves. -/
def expirations : List (Move α) → Desk α → List Correlation
  | [], _ => []
  | move :: rest, desk =>
    (desk.exchange.pending.expiring? move).toList ++ expirations rest (desk.step move)

theorem pending_step (desk : Desk α) (move : Move α) :
    (desk.step move).exchange.pending = desk.exchange.pending.next desk.tickets move := by
  cases move with
  | registers | forgets | expires | releases | abandons => rfl
  | resolves id body =>
    rw [step, Pending.next, Exchange.resolve]
    cases found : desk.exchange.pending.find? id with
    | none =>
      rw [if_neg (Pending.find?_eq_none_iff.mp found)]
      dsimp only
      by_cases late : id ∈ desk.exchange.pending.expired
      · simp only [Pending.recognise, if_pos late]
      · simp only [Pending.recognise, if_neg late]
    | some ticket =>
      have waits : id ∈ desk.exchange.pending.awaited := by
        by_contra absent
        cases found.symm.trans (Pending.find?_eq_none_iff.mpr absent)
      rw [if_pos waits]
      dsimp only
      split <;> rfl

theorem run_append (earlier later : List (Move α)) (desk : Desk α) :
    desk.run (earlier ++ later) = (desk.run earlier).run later := List.foldl_append

theorem orderly_step {move : Move α} (orderly : desk.exchange.pending.Orderly seen)
    (fresh : (seen ++ (move :: moves).filterMap Move.registered?).Nodup) :
    (desk.step move).exchange.pending.Orderly (seen ++ move.registered?.toList) ∧
      ((seen ++ move.registered?.toList) ++ moves.filterMap Move.registered?).Nodup := by
  have same : seen ++ (move :: moves).filterMap Move.registered? =
      (seen ++ move.registered?.toList) ++ moves.filterMap Move.registered? := by
    rw [List.filterMap_cons, List.append_assoc]
    cases move.registered? <;> rfl
  rw [same] at fresh
  refine ⟨?_, fresh⟩
  rw [pending_step]
  refine orderly.next desk.tickets move fun id registered before => ?_
  have distinct := (List.nodup_append.mp fresh).1
  rw [registered] at distinct
  exact (List.nodup_append.mp distinct).2.2 id before id (List.mem_singleton_self id) rfl

theorem orderly_run (orderly : desk.exchange.pending.Orderly seen)
    (fresh : (seen ++ moves.filterMap Move.registered?).Nodup) :
    (desk.run moves).exchange.pending.Orderly (seen ++ moves.filterMap Move.registered?) := by
  induction moves generalizing desk seen with
  | nil => exact (List.append_nil seen).symm ▸ orderly
  | cons move rest ih =>
    obtain ⟨after, distinct⟩ := orderly_step orderly fresh
    have last := ih after distinct
    rw [List.append_assoc] at last
    have same : move.registered?.toList ++ rest.filterMap Move.registered? =
        (move :: rest).filterMap Move.registered? := by
      rw [List.filterMap_cons]
      cases move.registered? <;> rfl
    rwa [same] at last

theorem recent_run {count : Nat} (recent : desk.exchange.pending.Recent id count)
    (few : count + (desk.expirations moves).length < Pending.expiredCapacity)
    (unanswered : ∀ body, .resolves id body ∉ moves) (kept : .abandons ∉ moves) :
    ∃ since, (desk.run moves).exchange.pending.Recent id since := by
  induction moves generalizing desk count with
  | nil => exact ⟨count, recent⟩
  | cons move rest ih =>
    rw [expirations, List.length_append] at few
    have still : (desk.step move).exchange.pending.Recent id
        (count + (desk.exchange.pending.expiring? move).toList.length) := by
      rw [pending_step]
      refine recent.next desk.tickets (by omega) ?_ ?_
      · rintro body rfl
        exact unanswered body List.mem_cons_self
      · rintro rfl
        exact kept List.mem_cons_self
    exact ih still (by omega) (fun body => unanswered body ∘ List.mem_cons_of_mem move)
      (kept ∘ List.mem_cons_of_mem move)

/-- Whatever is done about numbers that are each registered once: no number is remembered that a request
waits for, none twice, and no more than can be. A number whose request has expired is recognised in a
late response, which then goes nowhere, as long as fewer others have expired since than can be
remembered, no response to it has come and requests were not given up all at once. A response to a
number that was never registered is handed back as it is. -/
theorem late_responses_recognised (moves : List (Move α))
    (once : (moves.filterMap Move.registered?).Nodup) :
    let exchange := (run moves {}).exchange
    exchange.pending.awaited.Disjoint exchange.pending.expired ∧
    exchange.pending.expired.Nodup ∧
    exchange.pending.expired.length ≤ Pending.expiredCapacity ∧
    (∀ earlier later id, moves = earlier ++ .expires id :: later →
      id ∈ (run earlier {}).exchange.pending.awaited →
      (((run earlier {}).step (.expires id)).expirations later).length < Pending.expiredCapacity →
      (∀ body, .resolves id body ∉ later) → .abandons ∉ later →
      ∀ body, (exchange.resolve id body).1 = .expired ∧
        (exchange.resolve id body).2.inbox = exchange.inbox) ∧
    ∀ id ∉ moves.filterMap Move.registered?, ∀ body,
      exchange.resolve id body = (.unclaimed body, exchange) := by
  intro exchange
  have start : ({} : Desk α).exchange.pending.Orderly [] := .empty
  have orderly : exchange.pending.Orderly (moves.filterMap Move.registered?) := orderly_run start once
  refine ⟨orderly.apart, orderly.once, orderly.bounded, ?_, ?_⟩
  · intro earlier later id split waits few unanswered kept body
    have recent : ((run earlier {}).step (.expires id)).exchange.pending.Recent id 0 := by
      rw [pending_step]
      exact .expires waits
    obtain ⟨since, last⟩ := recent_run recent (by rwa [Nat.zero_add]) unanswered kept
    have remembered : id ∈ exchange.pending.expired := by
      change id ∈ (run moves {}).exchange.pending.expired
      rw [split, run_append]
      exact last.member
    have absent : exchange.pending.find? id = none :=
      Pending.find?_eq_none_iff.mpr fun here => orderly.apart here remembered
    refine ⟨?_, exchange.resolve_inbox id body⟩
    simp [Exchange.resolve, absent, Pending.recognise, remembered]
  · intro id unseen body
    apply Exchange.resolve_unknown
    have absent : exchange.pending.find? id = none :=
      Pending.find?_eq_none_iff.mpr fun here => unseen (orderly.known id (.inl here))
    have forgotten : id ∉ exchange.pending.expired := fun late => unseen (orderly.known id (.inr late))
    simp [Exchange.knows, absent, forgotten]

/-- Four requests go out. The first two run out of time, the second is answered late, the third when its
caller is gone, and the fourth was never sent. -/
theorem first_number_remembered :
    let sent : List (Move Bytes) := [.registers ⟨1⟩, .registers ⟨2⟩, .registers ⟨3⟩, .registers ⟨4⟩]
    let later : List (Move Bytes) := [.expires ⟨2⟩, .releases 2, .resolves ⟨2⟩ [9], .resolves ⟨3⟩ [8],
      .forgets ⟨4⟩, .expires ⟨4⟩]
    let exchange := (run (sent ++ .expires ⟨1⟩ :: later) {}).exchange
    exchange.pending.expired = [⟨1⟩] ∧ (exchange.resolve ⟨1⟩ [7]).1 = .expired ∧
      exchange.resolve ⟨5⟩ [7] = (.unclaimed [7], exchange) := by
  intro sent later exchange
  have once : ((sent ++ .expires ⟨1⟩ :: later).filterMap Move.registered?).Nodup := by decide
  obtain ⟨_, _, _, late, unknown⟩ := late_responses_recognised _ once
  refine ⟨by decide, ?_, unknown ⟨5⟩ (by decide) [7]⟩
  refine (late sent later ⟨1⟩ rfl (by decide) (by decide) ?_ ?_ [7]).1
  · intro body
    simp [later]
  · simp [later]

end Desk

end FrameLink.Link
