import Mathlib
import FrameLink.Proofs.Link.Abandoned
import FrameLink.Proofs.Link.Ledger
/-!
Whether a payload that one socket was to carry goes out on a later one. The queue of a session outlives
its sockets, so it does when it was still waiting at the end of its socket and the session dials again.
The request that it belongs to has come back by then because the connection closed, and the connection
takes the answer for one that nobody asked for.
-/

namespace FrameLink.Link

namespace Session

theorem Turn.down {session left : Session} {happening : Happening} {events : List Event}
    (turn : Turn session happening left events) (up : session.phase = .up)
    (down : left.phase ≠ .up) :
    left.sockets = session.sockets ∧
      left.phase = if session.autoReconnect && session.held then .resting else .ended := by
  have parts : ∀ other : Session, other.part.sockets = other.sockets ∧
      other.part.phase = if other.autoReconnect && other.held then .resting else .ended := by
    intro other
    unfold part
    split <;> exact ⟨rfl, rfl⟩
  cases turn with
  | refused _ dialing | opens dialing => simp [dialing] at up
  | writes | receives | control => exact absurd up down
  | writeFails | peerCloses | fails | ends | leaves => exact parts _
  | restOver resting => simp [resting] at up
  | stops idle => simp [up] at idle

theorem Goes.down {fits : Bytes → Prop} {session left : Session} {happening : Option Happening}
    (goes : session.Goes fits happening left) (up : session.phase = .up) (down : left.phase ≠ .up) :
    left.sockets = session.sockets ∧
      left.phase = if session.autoReconnect && session.held then .resting else .ended := by
  cases goes with
  | grows left grows =>
    obtain ⟨more, held, _, rfl⟩ := grows
    exact absurd up down
  | turns happening left events turn => exact turn.down up down

theorem Goes.ended {fits : Bytes → Prop} {session left : Session} {happening : Option Happening}
    (goes : session.Goes fits happening left) (ended : session.phase = .ended) :
    left.phase = .ended := by
  cases goes with
  | grows left grows =>
    obtain ⟨more, held, _, rfl⟩ := grows
    exact ended
  | turns happening left events turn =>
    cases turn with
    | refused _ phase | opens phase | restOver phase => simp [ended] at phase
    | writes _ _ phase | writeFails _ _ _ phase => simp [ended] at phase
    | receives _ phase | control phase => simp [ended] at phase
    | peerCloses _ phase | fails _ phase | ends phase | leaves phase => simp [ended] at phase
    | stops => rfl

end Session

namespace Connection

open Course

variable {α β : Type} [Wire α] [Wire β]

namespace Watched

theorem step_happening {place : Nat} {watched : Watched α} {session : Session}
    {happening : Happening} {effect : Session.Effect}
    (there : watched.session? place = some session)
    (does : session.step? happening = some effect) :
    (watched.step place (.session place happening : Move β)).session? place =
        some effect.session ∧
      (watched.step place (.session place happening : Move β)).ledger =
        watched.ledger.happen session happening := by
  obtain ⟨next, goes, _, transport⟩ := step?_session (β := β) there does
  obtain ⟨course, ledger⟩ := step_some place goes
  have left : next.connection.transport.sessions[place]? = some effect.session := by
    unfold session? at there
    rw [transport, SocketTransport.getElem?_alter, there, Option.map_some, if_pos rfl]
  have own : happensAt place (.session place happening : Move β) = some happening := if_pos rfl
  rw [there, left, own] at ledger
  refine ⟨?_, ledger⟩
  unfold session?
  rw [course, left]

theorem written_of_waiting {place : Nat} {accepted : Accepted} (waiting : List Accepted)
    {watched : Watched α} {session : Session} (there : watched.session? place = some session)
    (up : session.phase = .up) (accounts : watched.ledger.Accounts session)
    (queue : watched.ledger.waiting = waiting) (member : accepted ∈ waiting) :
    ∃ (moves : List (Move β)) (more : List (Nat × Accepted)),
      (watched.run place moves).ledger.written = watched.ledger.written ++ more ∧
        (session.sockets, accepted) ∈ more := by
  induction waiting generalizing watched session with
  | nil => cases member
  | cons oldest rest ih =>
    have outbound := accounts.waiting
    rw [queue, List.map_cons] at outbound
    have writes : session.step? .writes = some
        { session := { session with
            outbound := rest.map (·.payload)
            written := session.written ++ [(session.sockets, oldest.payload)] } } := by
      simp only [Session.step?, up, ← outbound]
    obtain ⟨left, ledger⟩ := step_happening (β := β) there writes
    have noted : watched.ledger.happen session .writes =
        { waiting := rest, written := watched.ledger.written ++ [(session.sockets, oldest)] } := by
      simp only [Ledger.happen, queue]
    rw [noted] at ledger
    rcases List.mem_cons.mp member with rfl | later
    · refine ⟨[.session place .writes], [(session.sockets, accepted)], ?_,
        List.mem_singleton.mpr rfl⟩
      exact congrArg Ledger.written ledger
    · have still := accounts.happen (Session.turn_of_step? writes)
      rw [Ledger.follow, noted, ← ledger] at still
      obtain ⟨moves, more, written, last⟩ := ih left up still (by rw [ledger]) later
      refine ⟨.session place .writes :: moves, (session.sockets, oldest) :: more, ?_,
        List.mem_cons_of_mem _ last⟩
      refine Eq.trans written ?_
      rw [ledger, List.append_assoc]
      rfl

theorem written_of_dialing {place : Nat} {accepted : Accepted} {watched : Watched α}
    {session : Session} (there : watched.session? place = some session)
    (dialing : session.phase = .dialing) (accounts : watched.ledger.Accounts session)
    (member : accepted ∈ watched.ledger.waiting) :
    ∃ (moves : List (Move β)) (more : List (Nat × Accepted)),
      (watched.run place moves).ledger.written = watched.ledger.written ++ more ∧
        (session.sockets + 1, accepted) ∈ more := by
  obtain ⟨log, opens⟩ : ∃ log, session.step? .accepted = some
      { session := { session with
          phase := .up, readiness := .ready, sockets := session.sockets + 1 }
        events := [.opened], log } := by
    rw [Session.step?, if_pos dialing]
    exact ⟨_, rfl⟩
  obtain ⟨up, ledger⟩ := step_happening (β := β) there opens
  have same : watched.ledger.happen session .accepted = watched.ledger := rfl
  rw [same] at ledger
  have still := accounts.happen (Session.turn_of_step? opens)
  obtain ⟨moves, more, written, last⟩ := written_of_waiting (β := β) watched.ledger.waiting up rfl
    (by rw [ledger]; exact still) (by rw [ledger]) member
  refine ⟨.session place .accepted :: moves, more, Eq.trans written ?_, last⟩
  rw [ledger]

theorem written_of_resting {place : Nat} {accepted : Accepted} {watched : Watched α}
    {session : Session} (there : watched.session? place = some session)
    (resting : session.phase = .resting) (accounts : watched.ledger.Accounts session)
    (member : accepted ∈ watched.ledger.waiting) :
    ∃ (moves : List (Move β)) (more : List (Nat × Accepted)),
      (watched.run place moves).ledger.written = watched.ledger.written ++ more ∧
        (session.sockets + 1, accepted) ∈ more := by
  have rests : session.step? .restOver = some
      { session := { session with phase := .dialing, readiness := .connecting } } := by
    rw [Session.step?, if_pos resting]
  obtain ⟨dialing, ledger⟩ := step_happening (β := β) there rests
  have same : watched.ledger.happen session .restOver = watched.ledger := rfl
  rw [same] at ledger
  have still := accounts.happen (Session.turn_of_step? rests)
  obtain ⟨moves, more, written, last⟩ := written_of_dialing (β := β) dialing rfl
    (by rw [ledger]; exact still) (by rw [ledger]; exact member)
  refine ⟨.session place .restOver :: moves, more, Eq.trans written ?_, last⟩
  rw [ledger]

/-- As long as a session is not over, what waits can still be written. -/
theorem written_of_live {place : Nat} {accepted : Accepted} {watched : Watched α}
    {session : Session} (there : watched.session? place = some session)
    (live : session.phase ≠ .ended) (accounts : watched.ledger.Accounts session)
    (member : accepted ∈ watched.ledger.waiting) :
    ∃ (moves : List (Move β)) (socket : Nat) (more : List (Nat × Accepted)),
      (watched.run place moves).ledger.written = watched.ledger.written ++ more ∧
        (socket, accepted) ∈ more := by
  cases phase : session.phase with
  | up =>
    obtain ⟨moves, written⟩ := written_of_waiting (β := β) _ there phase accounts rfl member
    exact ⟨moves, _, written⟩
  | dialing =>
    obtain ⟨moves, written⟩ := written_of_dialing (β := β) there phase accounts member
    exact ⟨moves, _, written⟩
  | resting =>
    obtain ⟨moves, written⟩ := written_of_resting (β := β) there phase accounts member
    exact ⟨moves, _, written⟩
  | ended => exact absurd phase live

open Books Past Life in
theorem step_through {id : Correlation} {past : List (Note α)} (place : Nat) (move : Move β)
    {watched : Watched α} (tidy : Tidy past watched.course.life.books)
    (through : Through id past watched.course.life.books) (few : (issued past).length + 1 < 2 ^ 64) :
    ∃ after, (issued after).length ≤ (issued past).length + 1 ∧
      Tidy after (watched.step place move).course.life.books ∧
      Through id after (watched.step place move).course.life.books := by
  rw [step_course]
  cases step : watched.course.step? move with
  | none => exact ⟨past, Nat.le_succ _, tidy, through⟩
  | some next =>
    obtain ⟨deeds, one, lived⟩ := step?_lives step
    obtain ⟨after, short, tidy', through'⟩ := lives_through lived tidy through (by omega)
    exact ⟨after, by omega, tidy', through'⟩

open Books Past Life in
/-- A number that is through is not transmitted any more, unless a payload with it still waits. -/
theorem unwritten_of_through {place : Nat} {id : Correlation} {past : List (Note α)}
    (later : List (Move β)) {watched : Watched α} (accounts : watched.Accounts place)
    (tidy : Tidy past watched.course.life.books)
    (through : Through id past watched.course.life.books)
    (few : (issued past).length + later.length < 2 ^ 64)
    (idle : ∀ accepted ∈ watched.ledger.waiting, Carries β id accepted.payload →
      ∀ session, watched.session? place = some session → session.phase = .ended) :
    ∃ more, (watched.run place later).ledger.written = watched.ledger.written ++ more ∧
      ∀ entry ∈ more, ¬ Carries β id entry.2.payload := by
  induction later generalizing watched past with
  | nil => exact ⟨[], (List.append_nil _).symm, by simp⟩
  | cons move moves ih =>
    rw [List.length_cons] at few
    obtain ⟨after, short, tidy', through'⟩ := step_through place move tidy through (by omega)
    have onward := ih (accounts.step move) tidy' through' (by omega)
    cases there : watched.session? place with
    | none =>
      obtain ⟨same, _⟩ := step_of_absent there move
      rw [accounts.1 there] at same ⊢
      rw [same] at onward
      exact onward fun _ member => absurd member List.not_mem_nil
    | some session =>
      obtain ⟨happening, left, found, goes, ledger⟩ := step_of_session there move
      obtain ⟨first, written, old⟩ := Ledger.follow_written watched.ledger goes
      -- What is accepted now carries the number that is drawn next, which is another one.
      have fresh : watched.course.connection.counter.draw.1 ≠ id := by
        rintro rfl
        exact tidy.agrees.numbered.fresh (by omega) through.drawn
      obtain ⟨rest, same, silent⟩ := onward fun accepted member carries other its => by
        rw [ledger] at member
        rw [found] at its
        cases its
        rcases Ledger.follow_waiting goes member with before | drawn
        · exact goes.ended (idle accepted before carries session there)
        · exact absurd (drawn.number carries) fresh
      refine ⟨first ++ rest, ?_, fun entry member => ?_⟩
      · refine Eq.trans same ?_
        rw [ledger, written, List.append_assoc]
      · rcases List.mem_append.mp member with early | late
        · obtain ⟨up, waited⟩ := old entry early
          intro carries
          rw [idle entry.2 waited carries session there] at up
          cases up
        · exact silent entry late

theorem run_course_next {place : Nat} {watched : Watched α} {before : List (Move β)}
    {move : Move β} {next : Course α} (step : (watched.course.run before).step? move = some next) :
    (watched.run place (before ++ [move])).course = next := by
  rw [run_append]
  change ((watched.run place before).step place move).course = next
  rw [step_course, run_course, step, Option.getD_some]

/-- When a socket is gone, nothing that was accepted while a socket was up goes out on a later one,
exactly if the session is over or nothing of the kind waits. -/
theorem clear_iff {place : Nat} {watched : Watched α} {session : Session}
    (there : watched.session? place = some session)
    (down : session.phase = .resting ∨ session.phase = .ended)
    (accounts : watched.ledger.Accounts session) :
    (∀ later : List (Move β), ∀ entry ∈ (watched.run place later).ledger.written,
      entry.2.up = true → entry.2.sockets ≤ session.sockets → entry.1 ≤ session.sockets) ↔
    (session.phase = .resting → ∀ accepted ∈ watched.ledger.waiting, accepted.up = false) := by
  constructor
  · intro never resting accepted member
    cases fresh : accepted.up with
    | false => rfl
    | true =>
      obtain ⟨moves, more, written, last⟩ := written_of_resting (β := β) there resting accounts member
      have crossed := never moves (session.sockets + 1, accepted)
        (by rw [written]; exact List.mem_append_right _ last) fresh (accounts.known accepted member)
      exact absurd crossed (Nat.not_succ_le_self _)
  · intro none later entry member
    have clear : watched.ledger.Clear session.sockets session := by
      refine ⟨?_, fun entry member _ _ => (accounts.onward entry member).2, Nat.le_refl _, ?_⟩
      · refine down.symm.imp_right fun resting accepted member fresh => ?_
        rw [none resting accepted member] at fresh
        cases fresh
      · intro up
        rw [up] at down
        simp at down
    have each : ∀ (fits : Bytes → Prop) (ledger : Ledger) (other left : Session)
        (happening : Option Happening), other.Goes fits happening left →
        ledger.Accounts other ∧ ledger.Clear session.sockets other →
        (ledger.follow happening other left).Accounts left ∧
          (ledger.follow happening other left).Clear session.sockets left :=
      fun _ _ _ _ _ goes kept => ⟨kept.1.follow goes, kept.2.follow kept.1 goes⟩
    obtain ⟨last, _, _, still⟩ := run_keeps each later there ⟨accounts, clear⟩
    exact still.written entry member

def ofSettings (settings : ConnectSettings) : Watched α := { course := .ofSettings settings }

omit [Wire α] in
theorem accounts_start (settings : ConnectSettings) (place : Nat) :
    (ofSettings settings : Watched α).Accounts place :=
  ⟨fun _ => rfl, fun _ there => nomatch there⟩

end Watched

theorem Course.rests_iff {settings : ConnectSettings} {before : List (Move β)} {move : Move β}
    {next : Course α} (step : ((ofSettings settings).run before).step? move = some next)
    {place : Nat} {session left : Session}
    (there : ((ofSettings settings : Course α).run before).connection.transport.sessions[place]? =
      some session)
    (found : next.connection.transport.sessions[place]? = some left) (up : session.phase = .up)
    (down : left.phase ≠ .up) :
    left.sockets = session.sockets ∧ (left.phase = .resting ∨ left.phase = .ended) ∧
      (left.phase = .resting ↔ settings.autoReconnect = true ∧ session.held = true) := by
  have befalls := step?_befalls step place
  rw [there, found] at befalls
  cases befalls with
  | goes _ _ goes =>
  obtain ⟨same, phase⟩ := goes.down up down
  have again : session.autoReconnect = settings.autoReconnect :=
    ((run_sound settings before).each session (List.mem_of_getElem? there)).2.trans
      (run_autoReconnect settings before)
  rw [phase, ← again, ← Bool.and_eq_true]
  refine ⟨same, ?_⟩
  split
  next on => exact ⟨.inl rfl, iff_of_true rfl on⟩
  next off => exact ⟨.inr rfl, iff_of_false (by simp) off⟩

/-- When a socket ends, nothing that was accepted while a socket was up is ever written on a later one,
exactly if the session does not dial again or nothing of the kind is waiting. Once a request has come
back because the connection closed, nothing with its number goes out any more unless it is still waiting
for a session that is not over; and every frame that comes in with its number goes to the inbox. -/
theorem carried_to_later_sockets_iff (settings : ConnectSettings) (before : List (Move β))
    (move : Move β) (next : Course α)
    (step : ((ofSettings settings).run before).step? move = some next) :
    let course : Course α := (ofSettings settings).run before
    let ledger := fun (place : Nat) (moves : List (Move β)) =>
      ((Watched.ofSettings settings : Watched α).run place moves).ledger
    (∀ place session left, course.connection.transport.sessions[place]? = some session →
      next.connection.transport.sessions[place]? = some left →
      session.phase = .up → left.phase ≠ .up →
      (ledger place (before ++ [move])).Accounts left ∧
      ((∀ later, ∀ entry ∈ (ledger place (before ++ move :: later)).written,
          entry.2.up = true → entry.2.sockets ≤ session.sockets → entry.1 ≤ session.sockets) ↔
        (settings.autoReconnect = true → session.held = true →
          ∀ accepted ∈ (ledger place (before ++ [move])).waiting, accepted.up = false))) ∧
    (∀ call id, call ∈ course.connection.calls → call.purpose = .request id →
      next.finished = course.finished ++ [(call.ticket, .error .connectionClosed)] →
      (∀ place,
        ((∀ accepted ∈ (ledger place (before ++ [move])).waiting, Carries β id accepted.payload →
            ∀ session, next.connection.transport.sessions[place]? = some session →
              session.phase = .ended) →
          ∀ later, before.length + 1 + later.length < 2 ^ 64 →
            ∃ more, (ledger place (before ++ move :: later)).written =
                (ledger place (before ++ [move])).written ++ more ∧
              ∀ entry ∈ more, ¬ Carries β id entry.2.payload) ∧
        ∀ accepted ∈ (ledger place (before ++ [move])).waiting, ∀ session,
          next.connection.transport.sessions[place]? = some session →
          session.phase ≠ .ended → session.held = true →
            ∃ later socket more, (ledger place (before ++ move :: later)).written =
                (ledger place (before ++ [move])).written ++ more ∧ (socket, accepted) ∈ more) ∧
      ∀ later : List (Move β), before.length + 1 + later.length < 2 ^ 64 →
        ∀ channel data events body,
          (next.run later).connection.pump = some ⟨channel, .message data :: events⟩ →
          Frame.decode data (next.run later).connection.limit = .ok ⟨id, body⟩ →
          ∃ last, (next.run later).step? (.pumps : Move β) = some last ∧
            last.connection.exchange.inbox.queue =
              (next.run later).connection.exchange.inbox.queue ++ [body] ∧
            last.finished = (next.run later).finished) := by
  intro course ledger
  have now : ∀ place, ((Watched.ofSettings settings : Watched α).run place
      (before ++ [move])).course = next := fun place => Watched.run_course_next step
  have accounts := fun place =>
    (Watched.accounts_start (α := α) settings place).run (before ++ [move])
  have onward : ∀ place later, ledger place (before ++ move :: later) =
      (((Watched.ofSettings settings : Watched α).run place (before ++ [move])).run place
        later).ledger := by
    intro place later
    rw [← Watched.run_append, List.append_assoc]
    rfl
  have here : ∀ place session, next.connection.transport.sessions[place]? = some session →
      ((Watched.ofSettings settings : Watched α).run place (before ++ [move])).session? place =
        some session := by
    intro place session found
    unfold Watched.session?
    rw [now]
    exact found
  refine ⟨fun place session left there found up down => ?_, fun call id member purpose came => ?_⟩
  · have told := (accounts place).2 left (here place left found)
    obtain ⟨same, gone, rests⟩ := rests_iff step there found up down
    have clear := Watched.clear_iff (β := β) (here place left found) gone told
    rw [same, rests, and_imp] at clear
    simp only [onward]
    exact ⟨told, clear⟩
  · refine ⟨fun place => ⟨fun idle later few => ?_, fun accepted waits session found live _ => ?_⟩,
      fun later few channel data events body heard decoded => ?_⟩
    · obtain ⟨after, short, tidy, through⟩ :=
        through_after settings before step member purpose came (by omega)
      rw [← now place] at tidy through
      simp only [onward]
      refine Watched.unwritten_of_through later (accounts place) tidy through (by omega) ?_
      intro accepted waits carries session found
      refine idle accepted waits carries session ?_
      unfold Watched.session? at found
      rw [now] at found
      exact found
    · have told := (accounts place).2 session (here place session found)
      simp only [onward]
      exact Watched.written_of_live (here place session found) live told waits
    · obtain ⟨after, short, tidy, through⟩ :=
        through_after settings before step member purpose came (by omega)
      obtain ⟨deeds, one, lived⟩ := run_lives later next
      obtain ⟨last, _, _, still⟩ := lives_through lived tidy through (by omega)
      exact pumps_through still heard decoded

theorem Course.step?_eq_run {course : Course α} {move : Move β}
    (can : (course.step? move).isSome = true) : course.step? move = some (course.run [move]) := by
  obtain ⟨next, goes⟩ := Option.isSome_iff_exists.mp can
  rw [goes, run, List.foldl_cons, List.foldl_nil, goes, Option.getD_some]

/-- A connection is opened, and a request goes into the queue of its session. -/
def asked : List (Move Unit) := [.dials "127.0.0.1" 8167 false, .session 0 .accepted, .looks,
  .requests () (.ofSecs 1)]

/-- The session dials again, writes what waits, and the peer answers the request. -/
def reopened : List (Move Unit) := [.session 0 .restOver, .session 0 .accepted, .session 0 .writes,
  .session 0 (.receives [1, 0, 0, 0, 0, 0, 0, 0, 7]), .pumps]

/-- A request is written before its socket ends, and comes back then. Nothing is carried over to a later
socket, the request does not go out again, and what comes in with its number goes to the inbox. -/
theorem nothing_carried_over :
    (∀ later : List (Move Unit), ∀ entry ∈ ((Watched.ofSettings {} : Watched UInt8).run 0
        (asked ++ [.session 0 .writes] ++ .session 0 .ends :: later)).ledger.written,
      entry.2.up = true → entry.2.sockets ≤ 1 → entry.1 ≤ 1) ∧
    (∀ later : List (Move Unit), later.length < 2 ^ 63 → ∃ more,
      ((Watched.ofSettings {} : Watched UInt8).run 0 (asked ++ [.session 0 .writes, .session 0 .ends,
        .pumps, .pumps] ++ .attends 0 :: later)).ledger.written =
          [(1, ⟨[1, 0, 0, 0, 0, 0, 0, 0], 1, true⟩)] ++ more ∧
      ∀ entry ∈ more, ¬ Carries Unit ⟨1⟩ entry.2.payload) ∧
    ∃ last : Course UInt8, ((((ofSettings {} : Course UInt8).run (asked ++ [.session 0 .writes,
        .session 0 .ends, .pumps, .pumps])).run [(.attends 0 : Move Unit)]).run reopened).step?
          (.pumps : Move Unit) = some last ∧
      last.connection.exchange.inbox.queue = [7] := by
  have ends : (((ofSettings {} : Course UInt8).run (asked ++ [.session 0 .writes])).step?
      (.session 0 .ends : Move Unit)).isSome = true := by decide +kernel
  have comes : (((ofSettings {} : Course UInt8).run (asked ++ [.session 0 .writes, .session 0 .ends,
      .pumps, .pumps])).step? (.attends 0 : Move Unit)).isSome = true := by decide +kernel
  obtain ⟨first, _⟩ := carried_to_later_sockets_iff {} _ _ _ (step?_eq_run ends)
  obtain ⟨_, second⟩ := carried_to_later_sockets_iff {} _ _ _ (step?_eq_run comes)
  dsimp only at second
  obtain ⟨quiet, late⟩ := second ⟨0, .request ⟨1⟩, ⟨1000000000, by decide⟩, 1000000000⟩ ⟨1⟩
    (by decide +kernel) rfl (by decide +kernel)
  refine ⟨?_, fun later few => ?_, ?_⟩
  · obtain ⟨_, never⟩ := first 0 ⟨"ws://127.0.0.1:8167/sc2api", 0, true, .up, .ready, true, [], 1,
      [(1, [1, 0, 0, 0, 0, 0, 0, 0])]⟩ ⟨"ws://127.0.0.1:8167/sc2api", 0, true, .resting, .ready, true,
      [], 1, [(1, [1, 0, 0, 0, 0, 0, 0, 0])]⟩ (by decide +kernel) (by decide +kernel) rfl (by decide)
    exact never.mpr fun _ _ => by decide +kernel
  · have empty : ((Watched.ofSettings {} : Watched UInt8).run 0 (asked ++ [.session 0 .writes,
        .session 0 .ends, .pumps, .pumps] ++ [.attends 0])).ledger =
          ⟨[], [(1, ⟨[1, 0, 0, 0, 0, 0, 0, 0], 1, true⟩)]⟩ := by decide +kernel
    have silent := (quiet 0).1
    rw [empty] at silent
    refine silent (fun _ member => absurd member List.not_mem_nil) later ?_
    change 8 + 1 + later.length < 2 ^ 64
    omega
  · obtain ⟨last, pumped, queue, _⟩ := late reopened (by decide) 0 [1, 0, 0, 0, 0, 0, 0, 0, 7] [] 7
      (by decide +kernel) (by decide +kernel)
    refine ⟨last, pumped, queue.trans ?_⟩
    decide +kernel

/-- A request comes back because the connection closed, and nothing of it was written. Then it goes out
on the second socket, though it was accepted for the first, and its answer is received. -/
theorem request_carried_over :
    let closed : List (Move Unit) := asked ++
      [.session 0 (.fails "Connection reset without closing handshake"), .pumps, .pumps, .attends 0]
    let received : List (Move Unit) := closed ++ reopened ++
      [.pumps, .receives ⟨1000000000, by decide⟩]
    ((ofSettings {} : Course UInt8).run closed).finished = [(0, .error .connectionClosed)] ∧
      ((Watched.ofSettings {} : Watched UInt8).run 0 closed).ledger.written = [] ∧
      ((Watched.ofSettings {} : Watched UInt8).run 0 received).ledger.written =
        [(2, ⟨[1, 0, 0, 0, 0, 0, 0, 0], 1, true⟩)] ∧
      ((ofSettings {} : Course UInt8).run received).finished =
        [(0, .error .connectionClosed), (1, .ok 7)] := by
  decide +kernel

end Connection

end FrameLink.Link
