import Mathlib
import FrameLink.Proofs.Link.Places
/-!
A ledger beside the session at one place: which payloads were accepted for it and how many sockets had
been up by then, and on which socket each of them went out. Nothing in it decides what the course does.
-/

namespace FrameLink.Link

open Session

/-- A payload that was accepted, and how many sockets of its session had been up by then. -/
structure Accepted where
  payload : Bytes
  sockets : Nat
  /-- whether the last of them still was -/
  up : Bool
deriving DecidableEq

/-- What became of the payloads that were accepted for one session, the first one first. -/
structure Ledger where
  waiting : List Accepted := []
  /-- with the socket on which each was written -/
  written : List (Nat × Accepted) := []
deriving DecidableEq

namespace Ledger

def accept (session : Session) (payloads : List Bytes) (ledger : Ledger) : Ledger :=
  { ledger with waiting := ledger.waiting ++
      payloads.map fun payload => ⟨payload, session.sockets, session.phase = .up⟩ }

/-- The oldest goes out, or is lost with its socket. -/
def happen (session : Session) (happening : Happening) (ledger : Ledger) : Ledger :=
  match happening, ledger.waiting with
  | .writes, oldest :: rest =>
    { waiting := rest, written := ledger.written ++ [(session.sockets, oldest)] }
  | .writeFails _, _ :: rest => { ledger with waiting := rest }
  | _, _ => ledger

/-- What is noted between two states of a session: what happened to it, else by how much its queue
grew. -/
def follow (happening : Option Happening) (session left : Session) (ledger : Ledger) : Ledger :=
  match happening with
  | some happening => ledger.happen session happening
  | none => ledger.accept session (left.outbound.drop session.outbound.length)

theorem follow_same (ledger : Ledger) (session : Session) :
    ledger.follow none session session = ledger := by
  unfold follow accept
  dsimp only
  rw [List.drop_length, List.map_nil, List.append_nil]

/-! ## The ledger and the session -/

/-- The ledger tells of the payloads that the session has. None was accepted after it was written, and
none tells of a socket that was not up yet. -/
structure Accounts (ledger : Ledger) (session : Session) : Prop where
  waiting : ledger.waiting.map (·.payload) = session.outbound
  written : (ledger.written.map fun entry => (entry.1, entry.2.payload)) = session.written
  known : ∀ accepted ∈ ledger.waiting, accepted.sockets ≤ session.sockets
  onward : ∀ entry ∈ ledger.written, entry.2.sockets ≤ entry.1 ∧ entry.1 ≤ session.sockets

variable {ledger : Ledger} {session left : Session} {happening : Happening} {events : List Event}
  {fits : Bytes → Prop}

theorem accounts_new (new : session.IsNew) : Accounts {} session := by
  refine ⟨new.outbound.symm, new.written.symm, ?_, ?_⟩ <;>
    exact fun _ member => absurd member List.not_mem_nil

theorem Accounts.accept (accounts : ledger.Accounts session) (grows : session.Grows fits left) :
    (ledger.follow none session left).Accounts left := by
  obtain ⟨more, held, _, rfl⟩ := grows
  unfold follow Ledger.accept
  dsimp only
  rw [List.drop_left]
  refine ⟨?_, accounts.written, fun accepted member => ?_, accounts.onward⟩
  · rw [List.map_append, accounts.waiting, List.map_map]
    congr 1
    exact List.map_id' more
  · rcases List.mem_append.mp member with old | new
    · exact accounts.known accepted old
    · obtain ⟨payload, _, rfl⟩ := List.mem_map.mp new
      exact Nat.le_refl _

theorem Accounts.part (accounts : ledger.Accounts session) : ledger.Accounts session.part := by
  unfold Session.part
  split <;> exact ⟨accounts.waiting, accounts.written, accounts.known, accounts.onward⟩

theorem Accounts.oldest (accounts : ledger.Accounts session) {payload : Bytes} {rest : List Bytes}
    (queued : session.outbound = payload :: rest) :
    ∃ accepted others, ledger.waiting = accepted :: others ∧ accepted.payload = payload ∧
      others.map (·.payload) = rest := by
  have waiting := accounts.waiting
  rw [queued] at waiting
  exact List.map_eq_cons_iff.mp waiting

theorem Accounts.happen (accounts : ledger.Accounts session)
    (turn : Turn session happening left events) :
    (ledger.follow (some happening) session left).Accounts left := by
  cases turn with
  | writes payload rest up queued =>
    obtain ⟨accepted, others, waiting, same, kept⟩ := accounts.oldest queued
    have known := accounts.known
    rw [waiting] at known
    simp only [follow, Ledger.happen, waiting]
    refine ⟨kept, ?_, fun other member => known other (List.mem_cons_of_mem _ member),
      fun entry member => ?_⟩
    · rw [List.map_append, accounts.written, List.map_singleton, same]
    · rcases List.mem_append.mp member with old | new
      · exact accounts.onward entry old
      · rw [List.mem_singleton.mp new]
        exact ⟨known accepted (List.mem_cons_self ..), Nat.le_refl _⟩
  | writeFails message payload rest up queued =>
    obtain ⟨accepted, others, waiting, same, kept⟩ := accounts.oldest queued
    have known := accounts.known
    rw [waiting] at known
    simp only [follow, Ledger.happen, waiting]
    have lost : Accounts { ledger with waiting := others } { session with outbound := rest } :=
      ⟨kept, accounts.written, fun other member => known other (List.mem_cons_of_mem _ member),
        accounts.onward⟩
    exact lost.part
  | refused | fails | ends => exact accounts.part
  | peerCloses | leaves =>
    have closing : Accounts ledger { session with readiness := .closing } :=
      ⟨accounts.waiting, accounts.written, accounts.known, accounts.onward⟩
    exact closing.part
  | receives | control => exact accounts
  | opens =>
    refine ⟨accounts.waiting, accounts.written, fun accepted member => ?_, fun entry member => ?_⟩
    · exact Nat.le_succ_of_le (accounts.known accepted member)
    · have onward := accounts.onward entry member
      exact ⟨onward.1, Nat.le_succ_of_le onward.2⟩
  | restOver | stops =>
    exact ⟨accounts.waiting, accounts.written, accounts.known, accounts.onward⟩

theorem Accounts.follow {happening : Option Happening} (accounts : ledger.Accounts session)
    (goes : session.Goes fits happening left) : (ledger.follow happening session left).Accounts left := by
  cases goes with
  | grows left grows => exact accounts.accept grows
  | turns happening left events turn => exact accounts.happen turn

theorem follow_written {happening : Option Happening} (ledger : Ledger)
    (goes : session.Goes fits happening left) :
    ∃ more, (ledger.follow happening session left).written = ledger.written ++ more ∧
      ∀ entry ∈ more, session.phase = .up ∧ entry.2 ∈ ledger.waiting := by
  cases goes with
  | grows => exact ⟨[], (List.append_nil _).symm, by simp⟩
  | turns happening left events turn =>
    unfold follow happen
    dsimp only
    split
    next oldest rest waiting =>
      cases turn with
      | writes _ _ up => exact ⟨_, rfl, by simp [up, waiting]⟩
    next => exact ⟨[], (List.append_nil _).symm, by simp⟩
    next => exact ⟨[], (List.append_nil _).symm, by simp⟩

theorem follow_waiting {happening : Option Happening} (goes : session.Goes fits happening left)
    {accepted : Accepted} (member : accepted ∈ (ledger.follow happening session left).waiting) :
    accepted ∈ ledger.waiting ∨ fits accepted.payload := by
  cases goes with
  | grows left grows =>
    obtain ⟨more, held, fit, rfl⟩ := grows
    unfold follow accept at member
    dsimp only at member
    rw [List.drop_left] at member
    refine (List.mem_append.mp member).imp_right fun new => ?_
    obtain ⟨payload, fresh, rfl⟩ := List.mem_map.mp new
    exact fit payload fresh
  | turns happening left events turn =>
    refine .inl ?_
    unfold follow happen at member
    dsimp only at member
    split at member
    next waiting =>
      rw [waiting]
      exact List.mem_cons_of_mem _ member
    next waiting =>
      rw [waiting]
      exact List.mem_cons_of_mem _ member
    next => exact member

/-! ## Payloads of earlier sockets -/

/-- After so many sockets, nothing that was accepted while one of them was up is written any more. -/
structure Clear (sockets : Nat) (ledger : Ledger) (session : Session) : Prop where
  waiting : session.phase = .ended ∨
    ∀ accepted ∈ ledger.waiting, accepted.up = true → sockets < accepted.sockets
  written : ∀ entry ∈ ledger.written, entry.2.up = true → entry.2.sockets ≤ sockets →
    entry.1 ≤ sockets
  since : sockets ≤ session.sockets
  next : session.phase = .up → sockets < session.sockets

variable {sockets : Nat}

theorem Clear.accept (clear : ledger.Clear sockets session) (grows : session.Grows fits left) :
    (ledger.follow none session left).Clear sockets left := by
  obtain ⟨more, held, _, rfl⟩ := grows
  refine ⟨?_, clear.written, clear.since, clear.next⟩
  refine clear.waiting.imp_right fun later accepted member up => ?_
  rcases List.mem_append.mp member with old | new
  · exact later accepted old up
  · obtain ⟨payload, _, rfl⟩ := List.mem_map.mp new
    exact clear.next (of_decide_eq_true up)

theorem part_phase_ne (session : Session) : session.part.phase ≠ .up := by
  unfold Session.part
  split <;> simp

theorem part_sockets (session : Session) : session.part.sockets = session.sockets := by
  unfold Session.part
  split <;> rfl

theorem Clear.down (clear : ledger.Clear sockets session) (alive : session.phase ≠ .ended)
    (same : left.sockets = session.sockets) (down : left.phase ≠ .up) : ledger.Clear sockets left :=
  ⟨.inr (clear.waiting.resolve_left alive), clear.written, same ▸ clear.since,
    fun up => absurd up down⟩

theorem Clear.happen (clear : ledger.Clear sockets session) (accounts : ledger.Accounts session)
    (turn : Turn session happening left events) :
    (ledger.follow (some happening) session left).Clear sockets left := by
  cases turn with
  | writes payload rest up queued =>
    obtain ⟨oldest, others, waiting, _, _⟩ := accounts.oldest queued
    have later := clear.waiting.resolve_left (by simp [up])
    rw [waiting] at later
    simp only [follow, Ledger.happen, waiting]
    refine ⟨.inr fun other member => later other (List.mem_cons_of_mem _ member),
      fun entry member fresh early => ?_, clear.since, clear.next⟩
    rcases List.mem_append.mp member with old | new
    · exact clear.written entry old fresh early
    · rw [List.mem_singleton.mp new] at fresh early
      have after := later oldest (List.mem_cons_self ..) fresh
      exact absurd early (Nat.not_le_of_lt after)
  | writeFails message payload rest up queued =>
    obtain ⟨oldest, others, waiting, _, _⟩ := accounts.oldest queued
    have later := clear.waiting.resolve_left (by simp [up])
    rw [waiting] at later
    simp only [follow, Ledger.happen, waiting]
    have lost : Clear sockets { ledger with waiting := others } session :=
      ⟨.inr fun other member => later other (List.mem_cons_of_mem _ member), clear.written,
        clear.since, clear.next⟩
    exact lost.down (by simp [up]) (part_sockets _) (part_phase_ne _)
  | refused message dialing =>
    exact clear.down (by simp [dialing]) (part_sockets _) (part_phase_ne _)
  | peerCloses reason up | fails message up | ends up | leaves up =>
    exact clear.down (by simp [up]) (part_sockets _) (part_phase_ne _)
  | receives | control => exact clear
  | opens dialing =>
    have later := clear.waiting.resolve_left (by simp [dialing])
    exact ⟨.inr later, clear.written, Nat.le_succ_of_le clear.since,
      fun _ => Nat.lt_succ_of_le clear.since⟩
  | restOver resting => exact clear.down (by simp [resting]) rfl (by simp)
  | stops => exact ⟨.inl rfl, clear.written, clear.since, fun up => by cases up⟩

theorem Clear.follow {happening : Option Happening} (clear : ledger.Clear sockets session)
    (accounts : ledger.Accounts session) (goes : session.Goes fits happening left) :
    (ledger.follow happening session left).Clear sockets left := by
  cases goes with
  | grows left grows => exact clear.accept grows
  | turns happening left events turn => exact clear.happen accounts turn

end Ledger

namespace Connection

open Course

variable {α β : Type}

/-! ## Courses with a ledger -/

structure Watched (α : Type) where
  course : Course α
  ledger : Ledger := {}

namespace Watched

def session? (place : Nat) (watched : Watched α) : Option Session :=
  watched.course.connection.transport.sessions[place]?

variable [Wire α] [Wire β]

/-- The course makes a move where it can, and the ledger follows the session at the place. -/
def step (place : Nat) (watched : Watched α) (move : Move β) : Watched α :=
  match watched.course.step? move with
  | none => watched
  | some course =>
    match watched.session? place, course.connection.transport.sessions[place]? with
    | some session, some left =>
      ⟨course, watched.ledger.follow (happensAt place move) session left⟩
    | _, _ => ⟨course, watched.ledger⟩

def run (place : Nat) (moves : List (Move β)) (watched : Watched α) : Watched α :=
  moves.foldl (step place) watched

theorem run_append (place : Nat) (first second : List (Move β)) (watched : Watched α) :
    watched.run place (first ++ second) = (watched.run place first).run place second :=
  List.foldl_append

theorem step_course (place : Nat) (watched : Watched α) (move : Move β) :
    (watched.step place move).course = (watched.course.step? move).getD watched.course := by
  unfold step
  split
  next stays => rw [stays, Option.getD_none]
  next goes =>
    rw [goes, Option.getD_some]
    split <;> rfl

/-- The ledger decides nothing. -/
theorem run_course (place : Nat) (moves : List (Move β)) (watched : Watched α) :
    (watched.run place moves).course = watched.course.run moves := by
  induction moves generalizing watched with
  | nil => rfl
  | cons move moves ih =>
    have later := ih (watched.step place move)
    rw [step_course] at later
    exact later

theorem step_some (place : Nat) {watched : Watched α} {move : Move β} {next : Course α}
    (goes : watched.course.step? move = some next) :
    (watched.step place move).course = next ∧ (watched.step place move).ledger =
      match watched.session? place, next.connection.transport.sessions[place]? with
      | some session, some left => watched.ledger.follow (happensAt place move) session left
      | _, _ => watched.ledger := by
  unfold step
  rw [goes]
  dsimp only
  split <;> exact ⟨rfl, rfl⟩

theorem step_of_session {place : Nat} {watched : Watched α} {session : Session}
    (there : watched.session? place = some session) (move : Move β) :
    ∃ happening left, (watched.step place move).session? place = some left ∧
      session.Goes (Carries β watched.course.connection.counter.draw.1) happening left ∧
      (watched.step place move).ledger = watched.ledger.follow happening session left := by
  cases goes : watched.course.step? move with
  | none =>
    have stays : watched.step place move = watched := by
      unfold step
      rw [goes]
    refine ⟨none, session, ?_, .grows session (.refl session), ?_⟩
    · rw [stays]
      exact there
    · rw [stays, Ledger.follow_same]
  | some next =>
    obtain ⟨course, ledger⟩ := step_some place goes
    have befalls := step?_befalls goes place
    unfold session? at there ⊢
    rw [course]
    unfold session? at ledger
    rw [there] at befalls ledger
    cases found : next.connection.transport.sessions[place]? with
    | none =>
      rw [found] at befalls
      cases befalls
    | some left =>
      rw [found] at befalls ledger
      cases befalls with
      | goes session left went => exact ⟨_, left, rfl, went, ledger⟩

/-- Where there is no session yet, the ledger stays as it is, and a session that begins is new. -/
theorem step_of_absent {place : Nat} {watched : Watched α}
    (absent : watched.session? place = none) (move : Move β) :
    (watched.step place move).ledger = watched.ledger ∧
      ∀ session, (watched.step place move).session? place = some session → session.IsNew := by
  cases goes : watched.course.step? move with
  | none =>
    have stays : watched.step place move = watched := by
      unfold step
      rw [goes]
    rw [stays]
    refine ⟨rfl, fun session there => ?_⟩
    rw [absent] at there
    cases there
  | some next =>
    obtain ⟨course, ledger⟩ := step_some place goes
    have befalls := step?_befalls goes place
    unfold session? at absent ledger ⊢
    rw [course]
    rw [absent] at befalls ledger
    refine ⟨ledger, fun session there => ?_⟩
    rw [there] at befalls
    cases befalls with
    | begins session new => exact new

/-- The ledger tells of the session at its place; before there is one, it is empty. -/
def Accounts (place : Nat) (watched : Watched α) : Prop :=
  (watched.session? place = none → watched.ledger = {}) ∧
    ∀ session, watched.session? place = some session → watched.ledger.Accounts session

theorem Accounts.step {place : Nat} {watched : Watched α} (accounts : watched.Accounts place)
    (move : Move β) : (watched.step place move).Accounts place := by
  cases there : watched.session? place with
  | none =>
    obtain ⟨same, new⟩ := step_of_absent there move
    have empty := same.trans (accounts.1 there)
    refine ⟨fun _ => empty, fun session found => ?_⟩
    rw [empty]
    exact Ledger.accounts_new (new session found)
  | some session =>
    obtain ⟨happening, left, found, goes, ledger⟩ := step_of_session there move
    rw [Accounts, found, ledger]
    constructor
    · intro absent
      cases absent
    intro other same
    cases same
    exact (accounts.2 session there).follow goes

theorem Accounts.run {place : Nat} {watched : Watched α} (accounts : watched.Accounts place)
    (moves : List (Move β)) : (watched.run place moves).Accounts place := by
  induction moves generalizing watched with
  | nil => exact accounts
  | cons move moves ih => exact ih (accounts.step move)

/-- What holds of the ledger and the session at a place, and is kept by all that the session can do,
holds from then on. -/
theorem run_keeps {place : Nat} {keeps : Ledger → Session → Prop}
    (each : ∀ fits ledger session left happening, session.Goes fits happening left →
      keeps ledger session → keeps (ledger.follow happening session left) left)
    (moves : List (Move β)) {watched : Watched α} {session : Session}
    (there : watched.session? place = some session) (first : keeps watched.ledger session) :
    ∃ left, (watched.run place moves).session? place = some left ∧
      keeps (watched.run place moves).ledger left := by
  induction moves generalizing watched session with
  | nil => exact ⟨session, there, first⟩
  | cons move moves ih =>
    obtain ⟨happening, left, found, goes, ledger⟩ := step_of_session there move
    refine ih found ?_
    rw [ledger]
    exact each _ _ _ _ _ goes first

end Watched

end Connection

end FrameLink.Link
