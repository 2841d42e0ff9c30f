import Mathlib
import FrameLink.Link.Pending
/-!
What the numbers of a connection went through, newest first, and what becomes of the next frame that
carries one of them. All is told by what was noted alone.
-/

namespace FrameLink.Link

open Wait

/-- What bears on the frames of a connection, with bodies of type `α`. -/
inductive Note (α : Type) where
  /-- a number was drawn, and went out with a message that expects no answer -/
  | sent (id : Correlation)
  /-- a number was drawn, and nothing went out -/
  | spent (id : Correlation)
  /-- a request went out, and a call began to wait for its answer -/
  | requested (id : Correlation) (ticket : Ticket)
  /-- the pump took a message that could be decoded -/
  | frame (id : Correlation) (body : α)
  /-- the pump took the end of a socket -/
  | shut
  /-- the call that waited for this number was dropped -/
  | cancelled (id : Correlation)
  /-- the call that waited for this number ran out of time -/
  | timedOut (id : Correlation)
deriving DecidableEq

/-- Whether a number is no longer expected after the note, whatever was before. -/
def Note.settles {α : Type} (id : Correlation) : Note α → Bool
  | .requested other _ | .frame other _ | .timedOut other => other = id
  | .shut => true
  | _ => false

inductive Standing where
  | absent
  /-- by a call that waits -/
  | waiting (ticket : Ticket)
  /-- by nobody any more, since the call was dropped -/
  | forsaken (ticket : Ticket)
deriving DecidableEq

namespace Standing

def forsake : Standing → Standing
  | .waiting ticket => .forsaken ticket
  | standing => standing

def ticket? : Standing → Option Ticket
  | .absent => none
  | .waiting ticket | .forsaken ticket => some ticket

@[simp] theorem ticket?_forsake (standing : Standing) : standing.forsake.ticket? = standing.ticket? := by
  cases standing <;> rfl

theorem forsake_ne_waiting (standing : Standing) (ticket : Ticket) :
    standing.forsake ≠ .waiting ticket := by
  cases standing <;> simp [forsake]

end Standing

inductive Fate where
  /-- it goes to the call with this ticket -/
  | handed (ticket : Ticket)
  | dropped
  /-- it goes to the inbox -/
  | queued
deriving DecidableEq

namespace Past

variable {α : Type}

def issued : List (Note α) → List Correlation
  | [] => []
  | .sent id :: past => id :: issued past
  | .spent id :: past => id :: issued past
  | .requested id _ :: past => id :: issued past
  | _ :: past => issued past

/-- A number is expected from its request on, until a frame carries it, a socket ends or its call runs
out of time. -/
def standing (id : Correlation) : List (Note α) → Standing
  | [] => .absent
  | .requested other ticket :: past => if other = id then .waiting ticket else standing id past
  | .frame other _ :: past => if other = id then .absent else standing id past
  | .shut :: _ => .absent
  | .cancelled other :: past =>
    if other = id then (standing id past).forsake else standing id past
  | .timedOut other :: past => if other = id then .absent else standing id past
  | _ :: past => standing id past

/-- The numbers that timed out, oldest first, as many as are remembered. A frame that carries one is
the last for it, and no number outlives a socket. -/
def remembered : List (Note α) → List Correlation
  | [] => []
  | .timedOut id :: past =>
    (if (remembered past).length = Pending.expiredCapacity then (remembered past).drop 1
      else remembered past) ++ [id]
  | .frame id _ :: past => (remembered past).erase id
  | .shut :: _ => []
  | _ :: past => remembered past

def fate (id : Correlation) (past : List (Note α)) : Fate :=
  match standing id past with
  | .waiting ticket => .handed ticket
  | .forsaken _ => .dropped
  | .absent => if id ∈ remembered past then .dropped else .queued

/-- The bodies that were to go to a call, newest first. -/
def handed : List (Note α) → List (Ticket × α)
  | [] => []
  | .frame id body :: past =>
    match fate id past with
    | .handed ticket => (ticket, body) :: handed past
    | _ => handed past
  | _ :: past => handed past

/-- The bodies that were to go to the inbox, oldest first. -/
def queued : List (Note α) → List α
  | [] => []
  | .frame id body :: past =>
    match fate id past with
    | .queued => queued past ++ [body]
    | _ => queued past
  | _ :: past => queued past

def requesters (past : List (Note α)) : List Ticket :=
  past.filterMap fun
    | .requested _ ticket => some ticket
    | _ => none

/-- The body is that of the first frame with the number that was taken after the request went out. -/
def FirstAnswer (past : List (Note α)) (id : Correlation) (ticket : Ticket) (body : α) : Prop :=
  ∃ after between before, past = after ++ .frame id body :: (between ++ .requested id ticket :: before) ∧
    (∀ other, .frame id other ∉ between) ∧ .shut ∉ between

/-! ## Requests and their numbers -/

variable {past : List (Note α)} {id : Correlation} {ticket other : Ticket}

theorem mem_requesters : ticket ∈ requesters past ↔ ∃ id, .requested id ticket ∈ past := by
  simp only [requesters, List.mem_filterMap]
  constructor
  · rintro ⟨note, member, same⟩
    cases note <;> simp at same
    next id _ => exact ⟨id, same ▸ member⟩
  · rintro ⟨id, member⟩
    exact ⟨_, member, rfl⟩

theorem issued_of_requested (member : .requested id ticket ∈ past) : id ∈ issued past := by
  induction past with
  | nil => cases member
  | cons note past ih =>
    rcases List.mem_cons.mp member with rfl | older
    · exact List.mem_cons_self ..
    · have earlier := ih older
      cases note <;> simp [issued, earlier]

theorem issued_of_sent (member : .sent id ∈ past) : id ∈ issued past := by
  induction past with
  | nil => cases member
  | cons note past ih =>
    rcases List.mem_cons.mp member with rfl | older
    · exact List.mem_cons_self ..
    · have earlier := ih older
      cases note <;> simp [issued, earlier]

theorem issued_cons (note : Note α) (past : List (Note α)) :
    issued (note :: past) = issued [note] ++ issued past := by
  cases note <;> rfl

theorem nodup_of_cons {note : Note α} (once : (issued (note :: past)).Nodup) :
    (issued past).Nodup := by
  rw [issued_cons] at once
  exact once.of_append_right

theorem request_unique (once : (issued past).Nodup) (one : .requested id ticket ∈ past)
    (two : .requested id other ∈ past) : ticket = other := by
  induction past with
  | nil => cases one
  | cons note past ih =>
    rcases List.mem_cons.mp one with rfl | older
    · rcases List.mem_cons.mp two with same | earlier
      · cases same
        rfl
      · exact absurd (issued_of_requested earlier) (List.nodup_cons.mp once).1
    · rcases List.mem_cons.mp two with rfl | earlier
      · exact absurd (issued_of_requested older) (List.nodup_cons.mp once).1
      · exact ih (nodup_of_cons once) older earlier

theorem not_requested_of_sent (once : (issued past).Nodup) (sent : .sent id ∈ past) :
    .requested id ticket ∉ past := by
  intro requested
  induction past with
  | nil => cases sent
  | cons note past ih =>
    rcases List.mem_cons.mp sent with rfl | older
    · rcases List.mem_cons.mp requested with same | earlier
      · cases same
      · exact absurd (issued_of_requested earlier) (List.nodup_cons.mp once).1
    · rcases List.mem_cons.mp requested with rfl | earlier
      · exact absurd (issued_of_sent older) (List.nodup_cons.mp once).1
      · exact ih (nodup_of_cons once) older earlier

theorem standing_since {since before : List (Note α)}
    (unsettled : ∀ note ∈ since, note.settles id = false) :
    (.cancelled id ∉ since ∧
      standing id (since ++ .requested id ticket :: before) = .waiting ticket) ∨
    (.cancelled id ∈ since ∧
      standing id (since ++ .requested id ticket :: before) = .forsaken ticket) := by
  induction since with
  | nil => exact .inl ⟨List.not_mem_nil, if_pos rfl⟩
  | cons note since ih =>
    have later := ih fun other member => unsettled other (List.mem_cons_of_mem _ member)
    have here := unsettled note (List.mem_cons_self ..)
    cases note with
    | requested number _ | frame number _ | timedOut number =>
      have apart : number ≠ id := by simpa [Note.settles] using here
      simpa [standing, apart] using later
    | shut => cases here
    | sent | spent => simpa [standing] using later
    | cancelled number =>
      by_cases same : number = id
      · refine .inr ⟨by simp [same], ?_⟩
        rcases later with ⟨_, waits⟩ | ⟨_, gone⟩
        · simp [standing, same, waits, Standing.forsake]
        · simp [standing, same, gone, Standing.forsake]
      · simpa [standing, same, Ne.symm same] using later

theorem since_of_standing (stands : (standing id past).ticket? = some ticket) :
    ∃ since before, past = since ++ .requested id ticket :: before ∧
      ∀ note ∈ since, note.settles id = false := by
  induction past with
  | nil => cases stands
  | cons note past ih =>
    have further : (standing id past).ticket? = some ticket → note.settles id = false →
        ∃ since before, note :: past = since ++ .requested id ticket :: before ∧
          ∀ note ∈ since, note.settles id = false := by
      intro earlier here
      obtain ⟨since, before, rfl, unsettled⟩ := ih earlier
      refine ⟨note :: since, before, rfl, fun other member => ?_⟩
      rcases List.mem_cons.mp member with rfl | older
      · exact here
      · exact unsettled other older
    cases note with
    | requested number held =>
      by_cases same : number = id
      · simp only [standing, if_pos same, Standing.ticket?, Option.some.injEq] at stands
        exact ⟨[], past, by rw [same, stands]; rfl, by simp⟩
      · simp only [standing, if_neg same] at stands
        exact further stands (by simp [Note.settles, same])
    | frame number | timedOut number =>
      by_cases same : number = id
      · simp [standing, same, Standing.ticket?] at stands
      · simp only [standing, if_neg same] at stands
        exact further stands (by simp [Note.settles, same])
    | cancelled number =>
      refine further ?_ rfl
      by_cases same : number = id
      · simpa [standing, same] using stands
      · simpa [standing, same] using stands
    | shut => cases stands
    | sent | spent => exact further stands rfl

theorem requested_of_standing (stands : (standing id past).ticket? = some ticket) :
    .requested id ticket ∈ past := by
  obtain ⟨since, before, rfl, _⟩ := since_of_standing stands
  exact List.mem_append_right _ (List.mem_cons_self ..)

theorem requested_of_waiting (waits : standing id past = .waiting ticket) :
    .requested id ticket ∈ past :=
  requested_of_standing (by rw [waits]; rfl)

theorem requested_of_forsaken (gone : standing id past = .forsaken ticket) :
    .requested id ticket ∈ past :=
  requested_of_standing (by rw [gone]; rfl)

theorem absent_of_unrequested (never : ∀ ticket, .requested id ticket ∉ past) :
    standing id past = .absent := by
  cases stands : standing id past with
  | absent => rfl
  | waiting ticket => exact absurd (requested_of_waiting stands) (never ticket)
  | forsaken ticket => exact absurd (requested_of_forsaken stands) (never ticket)

/-- A number is forsaken exactly if its call was dropped before anything settled it. -/
theorem forsaken_iff : standing id past = .forsaken ticket ↔
    ∃ since before, past = since ++ .requested id ticket :: before ∧
      (∀ note ∈ since, note.settles id = false) ∧ .cancelled id ∈ since := by
  constructor
  · intro gone
    obtain ⟨since, before, rfl, unsettled⟩ := since_of_standing (congrArg Standing.ticket? gone)
    refine ⟨since, before, rfl, unsettled, ?_⟩
    rcases standing_since unsettled with ⟨_, waits⟩ | ⟨dropped, _⟩
    · rw [gone] at waits
      cases waits
    · exact dropped
  · rintro ⟨since, before, rfl, unsettled, dropped⟩
    rcases standing_since unsettled with ⟨kept, _⟩ | ⟨_, gone⟩
    · exact absurd dropped kept
    · exact gone

/-! ## Answers -/

variable {body : α}

theorem FirstAnswer.later (answer : FirstAnswer past id ticket body) (note : Note α) :
    FirstAnswer (note :: past) id ticket body := by
  obtain ⟨after, between, before, rfl, first⟩ := answer
  exact ⟨note :: after, between, before, rfl, first⟩

theorem firstAnswer_of_waiting (waits : standing id past = .waiting ticket) (body : α) :
    FirstAnswer (.frame id body :: past) id ticket body := by
  obtain ⟨between, before, rfl, unsettled⟩ := since_of_standing (congrArg Standing.ticket? waits)
  refine ⟨[], between, before, rfl, fun other member => ?_, fun member => ?_⟩
  · simpa [Note.settles] using unsettled _ member
  · simpa [Note.settles] using unsettled _ member

theorem handed_of_mem {entry : Ticket × α} (member : entry ∈ handed past) (note : Note α) :
    entry ∈ handed (note :: past) := by
  cases note with
  | frame id body =>
    simp only [handed]
    split
    · exact List.mem_cons_of_mem _ member
    · exact member
  | _ => exact member

end Past

end FrameLink.Link
