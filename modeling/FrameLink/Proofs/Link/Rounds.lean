import Mathlib
import FrameLink.Proofs.Link.BetweenSockets
import FrameLink.Proofs.Link.Places
/-!
What one session reports and what it writes, over all its sockets. The reports go in rounds, one for each
handshake that was completed. What is written was accepted for this session, and keeps its order.
-/

namespace FrameLink.Link

/-- What a happening reports. A stop is reported only if it takes a socket down. -/
def Happening.reports (up : Bool) : Happening → List Event
  | .accepted => [.opened]
  | .receives data => [.message data]
  | .writeFails message | .fails message => [.closed (some message)]
  | .peerCloses reason => [.closed reason]
  | .ends => [.closed none]
  | .noticesStop => if up then [.closed none] else []
  | .refused _ | .writes | .control | .restOver => []

def Happening.read? : Happening → Option Bytes
  | .receives data => some data
  | _ => none

def Event.message? : Event → Option Bytes
  | .message data => some data
  | _ => none

namespace Session

/-! ## Rounds -/

def begun (messages : List Bytes) : List Event := .opened :: messages.map .message

/-- A socket from its handshake to its end. -/
structure Round where
  messages : List Bytes
  reason : Option String

def Round.events (round : Round) : List Event := begun round.messages ++ [.closed round.reason]

/-- Whole rounds, and then the one that has not ended, if there is one. -/
def InRounds (events : List Event) (unfinished : Option (List Bytes)) : Prop :=
  ∃ rounds : List Round, events = rounds.flatMap Round.events ++ (unfinished.map begun).getD []

theorem inRounds_nil : InRounds [] none := ⟨[], rfl⟩

section InRounds

variable {events : List Event} {messages : List Bytes}

theorem InRounds.opens (goes : InRounds events none) : InRounds (events ++ [.opened]) (some []) := by
  obtain ⟨rounds, rfl⟩ := goes
  exact ⟨rounds, by simp [begun]⟩

theorem InRounds.hears (goes : InRounds events (some messages)) (data : Bytes) :
    InRounds (events ++ [.message data]) (some (messages ++ [data])) := by
  obtain ⟨rounds, rfl⟩ := goes
  exact ⟨rounds, by simp [begun]⟩

theorem InRounds.closes (goes : InRounds events (some messages)) (reason : Option String) :
    InRounds (events ++ [.closed reason]) none := by
  obtain ⟨rounds, rfl⟩ := goes
  refine ⟨rounds ++ [⟨messages, reason⟩], ?_⟩
  simp [Round.events]

theorem hear_begun (socket : Socket) (messages : List Bytes) :
    (begun messages).foldl Socket.hear socket = .up := by
  change (messages.map Event.message).foldl Socket.hear .up = .up
  induction messages with
  | nil => rfl
  | cons data messages ih => exact ih

theorem hear_rounds {socket : Socket} (down : socket ≠ .up) (rounds : List Round) :
    (rounds.flatMap Round.events).foldl Socket.hear socket ≠ .up := by
  induction rounds generalizing socket with
  | nil => exact down
  | cons round rounds ih =>
    rw [List.flatMap_cons, List.foldl_append]
    apply ih
    simp [Round.events, Socket.hear]

theorem InRounds.up_iff {unfinished : Option (List Bytes)} (goes : InRounds events unfinished) :
    events.foldl Socket.hear .never = .up ↔ unfinished.isSome = true := by
  obtain ⟨rounds, rfl⟩ := goes
  rw [List.foldl_append]
  cases unfinished with
  | none =>
    have down : Socket.never ≠ .up := by decide
    simpa using hear_rounds down rounds
  | some messages => simp [hear_begun]

end InRounds

namespace Story

def events (story : Story) : List Event := story.flatMap (·.2)

/-- Every happening reports what it should, where the socket is up or not as the reports before
tell. -/
inductive Faithful : Story → Prop
  | begins : Faithful []
  | goesOn (story : Story) (faithful : Faithful story) (happening : Happening) :
    Faithful (story ++ [(happening, happening.reports (story.socket = .up))])

theorem Faithful.messages {story : Story} (faithful : story.Faithful) :
    story.events.filterMap Event.message? = story.filterMap fun step => step.1.read? := by
  induction faithful with
  | begins => rfl
  | goesOn story faithful happening ih =>
    have one : (happening.reports (story.socket = .up)).filterMap Event.message? =
        happening.read?.toList := by
      cases happening <;> try rfl
      simp only [Happening.reports]
      split <;> rfl
    simp only [events] at ih
    simp only [events, List.flatMap_append, List.filterMap_append, List.flatMap_singleton, ih, one]
    cases read : happening.read? <;> simp [read]

end Story

/-! ## One step -/

variable {session after : Session} {happening : Happening} {story : Story}

theorem part_down (session : Session) : session.part.phase ≠ .up := by
  rcases part_phase session with ⟨phase, _⟩ | ⟨phase, _⟩ <;> simp [phase]

/-- The socket is up exactly if a round is unfinished. -/
def Narrated (session : Session) (story : Story) : Prop :=
  ∃ unfinished, InRounds story.events unfinished ∧ (unfinished.isSome = true ↔ session.phase = .up)

theorem Narrated.up_iff (narrated : Narrated session story) :
    session.phase = .up ↔ story.socket = .up := by
  obtain ⟨unfinished, goes, up⟩ := narrated
  exact up.symm.trans goes.up_iff.symm

theorem Narrated.same (narrated : Narrated session story)
    (phase : after.phase = .up ↔ session.phase = .up) :
    Narrated after (story ++ [(happening, [])]) := by
  obtain ⟨unfinished, goes, up⟩ := narrated
  refine ⟨unfinished, ?_, up.trans phase.symm⟩
  simpa [Story.events] using goes

theorem Narrated.opens (narrated : Narrated session story) (down : session.phase ≠ .up)
    (up : after.phase = .up) : Narrated after (story ++ [(happening, [.opened])]) := by
  obtain ⟨unfinished, goes, fits⟩ := narrated
  have none : unfinished = none := by simpa using mt fits.mp down
  subst none
  refine ⟨some [], ?_, by simp [up]⟩
  simpa [Story.events] using goes.opens

theorem Narrated.hears (narrated : Narrated session story) (up : session.phase = .up) (data : Bytes) :
    Narrated session (story ++ [(happening, [.message data])]) := by
  obtain ⟨unfinished, goes, fits⟩ := narrated
  obtain ⟨messages, rfl⟩ := Option.isSome_iff_exists.mp (fits.mpr up)
  refine ⟨some (messages ++ [data]), ?_, by simp [up]⟩
  simpa [Story.events] using goes.hears data

theorem Narrated.closes (narrated : Narrated session story) (up : session.phase = .up)
    (down : after.phase ≠ .up) (reason : Option String) :
    Narrated after (story ++ [(happening, [.closed reason])]) := by
  obtain ⟨unfinished, goes, fits⟩ := narrated
  obtain ⟨messages, rfl⟩ := Option.isSome_iff_exists.mp (fits.mpr up)
  refine ⟨none, ?_, by simp [down]⟩
  simpa [Story.events] using goes.closes reason

theorem Narrated.turn (narrated : Narrated session story) {events : List Event}
    (turn : Turn session happening after events) :
    Narrated after (story ++ [(happening, events)]) := by
  cases turn with
  | refused message dialing => exact narrated.same (by simp [part_down, dialing])
  | opens dialing => exact narrated.opens (by simp [dialing]) rfl
  | receives data up => exact narrated.hears up data
  | writes | control => exact narrated.same Iff.rfl
  | restOver resting => exact narrated.same (by simp [resting])
  | writeFails message payload rest up => exact narrated.closes up (part_down _) (some message)
  | peerCloses reason up => exact narrated.closes up (part_down _) reason
  | fails message up => exact narrated.closes up (part_down _) (some message)
  | ends up | leaves up => exact narrated.closes up (part_down _) none
  | stops idle =>
    refine narrated.same ?_
    rcases idle with dialing | resting
    · simp [dialing]
    · simp [resting]

theorem Turn.reports {events : List Event} (turn : Turn session happening after events) :
    events = happening.reports (session.phase = .up) := by
  cases turn with
  | leaves up => simp [Happening.reports, up]
  | stops idle =>
    have down : session.phase ≠ .up := by
      rcases idle with dialing | resting
      · simp [dialing]
      · simp [resting]
    simp [Happening.reports, down]
  | refused | opens | writes | writeFails | receives | control | peerCloses | fails | ends
  | restOver => rfl

/-- What was accepted is written in order, waits in order, or was lost. -/
def Ordered (session : Session) (accepted : List Bytes) : Prop :=
  (session.written.map (·.2) ++ session.outbound).Sublist accepted

theorem part_ordered {accepted : List Bytes} (ordered : session.Ordered accepted) :
    session.part.Ordered accepted := by
  unfold part
  split <;> exact ordered

theorem Ordered.turn {accepted : List Bytes} (ordered : session.Ordered accepted)
    {events : List Event} (turn : Turn session happening after events) :
    after.Ordered accepted := by
  cases turn with
  | writes payload rest up queued =>
    unfold Ordered at ordered ⊢
    simpa [queued] using ordered
  | writeFails message payload rest up queued =>
    apply part_ordered
    -- The payload that could not be written is gone.
    have fewer : (session.written.map (·.2) ++ rest).Sublist
        (session.written.map (·.2) ++ session.outbound) := by
      rw [queued]
      exact (List.Sublist.refl _).append (List.sublist_cons_self payload rest)
    exact fewer.trans ordered
  | refused | fails | ends | peerCloses | leaves => exact part_ordered ordered
  | opens | receives | control | restOver | stops => exact ordered

end Session

namespace SocketTransport

open Session

/-! ## The session at a place -/

def taken (place : Nat) (transport : SocketTransport) : Act → List Bytes
  | .send payload =>
    if transport.current = some place then
      match (transport.send payload).1 with
      | .ok () => [payload]
      | .error _ => []
    else []
  | _ => []

def accepted (place : Nat) : List Act → SocketTransport → List Bytes
  | [], _ => []
  | act :: acts, transport => taken place transport act ++ accepted place acts (transport.act act)

/-- What an act is to a session: what is told of it then, what is accepted for it, and what is left
of it. -/
inductive Chapter (session : Session) : Story → List Bytes → Session → Prop
  | held (held : Bool) : Chapter session [] [] { session with held }
  | takes (payload : Bytes) :
    Chapter session [] [payload] { session with outbound := session.outbound ++ [payload] }
  | turns (happening : Happening) (events : List Event) (after : Session)
    (turn : Turn session happening after events) :
    Chapter session [(happening, events)] [] after

variable {transport : SocketTransport} {place : Nat} {session : Session}

theorem stop_chapter (found : transport.sessions[place]? = some session) :
    ∃ held, transport.stop.sessions[place]? = some { session with held } := by
  unfold SocketTransport.stop
  split
  · exact ⟨session.held, found⟩
  next current _ =>
    change ∃ held, (transport.alter current _).sessions[place]? = some { session with held }
    rw [getElem?_alter, found, Option.map_some]
    split
    · exact ⟨false, rfl⟩
    · exact ⟨session.held, rfl⟩

theorem stop_length (transport : SocketTransport) :
    transport.stop.sessions.length = transport.sessions.length := by
  unfold SocketTransport.stop
  split
  · rfl
  · exact List.length_modify ..

theorem send_cases (transport : SocketTransport) (payload : Bytes) :
    (∃ fault, transport.send payload = (.error fault, transport)) ∨
      ∃ place session, transport.current = some place ∧
        transport.sessions[place]? = some session ∧
        transport.send payload = (.ok (), transport.alter place fun session =>
          { session with outbound := session.outbound ++ [payload] }) := by
  unfold send
  split
  next place session current found =>
    rw [session?_eq current] at found
    split
    · exact .inl ⟨_, rfl⟩
    · split
      · exact .inl ⟨_, rfl⟩
      · exact .inr ⟨place, session, current, found, rfl⟩
  · exact .inl ⟨_, rfl⟩

theorem send_chapter (found : transport.sessions[place]? = some session) (payload : Bytes) :
    ∃ after, (transport.send payload).2.sessions[place]? = some after ∧
      Chapter session [] (taken place transport (.send payload)) after := by
  rcases send_cases transport payload with ⟨fault, same⟩ | ⟨held, _, current, _, same⟩
  · refine ⟨session, by rw [same, found], ?_⟩
    simpa [taken, same] using Chapter.held session.held
  · rw [same, getElem?_alter, found, Option.map_some]
    by_cases here : held = place
    · rw [if_pos here]
      simpa [taken, same, current, here] using Chapter.takes payload
    · rw [if_neg here]
      refine ⟨session, rfl, ?_⟩
      simpa [taken, current, here] using Chapter.held session.held

theorem happen_chapter (found : transport.sessions[place]? = some session) (other : Nat)
    (happening : Happening) :
    ∃ after, (transport.act (.session other happening)).sessions[place]? = some after ∧
      Chapter session (told place transport (.session other happening)) [] after := by
  cases happens : transport.happen? other happening with
  | none =>
    have silent : told place transport (.session other happening) = [] := by
      by_cases here : other = place
      · subst here
        simp [told, happens]
      · simp [told, here]
    refine ⟨session, by simpa only [SocketTransport.act, happens] using found, ?_⟩
    exact silent ▸ Chapter.held session.held
  | some left =>
    obtain ⟨after, reports, log⟩ := left
    obtain ⟨old, effect, there, step, rfl, heard⟩ := happen?_some happens
    simp only [SocketTransport.act, happens, getElem?_alter, found, Option.map_some]
    by_cases here : other = place
    · subst here
      rw [found] at there
      cases there
      have adds : told other transport (.session other happening) =
          [(happening, effect.events)] := by
        simp [told, happens, heard, Function.comp_def]
      rw [if_pos rfl, adds]
      exact ⟨effect.session, rfl, .turns _ _ _ (turn_of_step? step)⟩
    · rw [if_neg here, told_of_other (by simp [here])]
      exact ⟨session, rfl, .held session.held⟩

theorem act_chapter (found : transport.sessions[place]? = some session) (act : Act) :
    ∃ after, (transport.act act).sessions[place]? = some after ∧
      Chapter session (told place transport act) (taken place transport act) after := by
  cases act with
  | start url channel =>
    obtain ⟨held, kept⟩ := stop_chapter found
    have within := (List.getElem?_eq_some_iff.mp kept).1
    exact ⟨_, (List.getElem?_append_left within).trans kept, .held held⟩
  | send payload => exact send_chapter found payload
  | stop =>
    obtain ⟨held, kept⟩ := stop_chapter found
    exact ⟨_, kept, .held held⟩
  | session other happening => exact happen_chapter found other happening

theorem act_vacant (vacant : transport.sessions[place]? = none) (act : Act) :
    told place transport act = [] ∧ taken place transport act = [] ∧
      ∀ session, (transport.act act).sessions[place]? = some session → session.IsNew := by
  have beyond : transport.sessions.length ≤ place := List.getElem?_eq_none_iff.mp vacant
  have stopped : transport.stop.sessions.length ≤ place := by
    rwa [stop_length]
  cases act with
  | start url channel =>
    refine ⟨rfl, rfl, fun session found => ?_⟩
    change (transport.stop.sessions ++ [_])[place]? = some session at found
    rw [List.getElem?_append_right stopped] at found
    rw [List.mem_singleton.mp (List.mem_of_getElem? found)]
    exact ⟨rfl, rfl, rfl, rfl⟩
  | send payload =>
    rcases send_cases transport payload with ⟨fault, same⟩ | ⟨held, other, current, found, same⟩
    · refine ⟨rfl, by simp [taken, same], fun session found => ?_⟩
      simp [SocketTransport.act, same, vacant] at found
    · have apart : held ≠ place := by
        rintro rfl
        simp [vacant] at found
      refine ⟨rfl, by simp [taken, current, apart], fun session there => ?_⟩
      simp [SocketTransport.act, same, getElem?_alter, vacant] at there
  | stop =>
    refine ⟨rfl, rfl, fun session found => ?_⟩
    change transport.stop.sessions[place]? = some session at found
    rw [List.getElem?_eq_none stopped] at found
    cases found
  | session other happening =>
    cases happens : transport.happen? other happening with
    | none =>
      refine ⟨?_, rfl, fun session found => ?_⟩
      · by_cases here : other = place
        · subst here
          simp [told, happens]
        · simp [told, here]
      · simp [SocketTransport.act, happens, vacant] at found
    | some left =>
      obtain ⟨after, reports, log⟩ := left
      obtain ⟨old, effect, there, step, rfl, heard⟩ := happen?_some happens
      have apart : other ≠ place := by
        rintro rfl
        simp [vacant] at there
      refine ⟨told_of_other (by simp [apart]), rfl, fun session found => ?_⟩
      simp [SocketTransport.act, happens, getElem?_alter, vacant] at found

/-! ## Runs -/

/-- What a session has told, what it was given and where it is agree. -/
structure Upholds (session : Session) (story : Story) (given : List Bytes) : Prop where
  faithful : story.Faithful
  narrated : session.Narrated story
  ordered : session.Ordered given

theorem upholds_new (new : session.IsNew) : Upholds session [] [] where
  faithful := .begins
  narrated := ⟨none, inRounds_nil, by simp [new.phase]⟩
  ordered := by simp [Ordered, new.written, new.outbound]

theorem Upholds.chapter {story added : Story} {given more : List Bytes} {after : Session}
    (upholds : Upholds session story given) (chapter : Chapter session added more after) :
    Upholds after (story ++ added) (given ++ more) := by
  cases chapter with
  | held held =>
    rw [List.append_nil, List.append_nil]
    exact ⟨upholds.faithful, upholds.narrated, upholds.ordered⟩
  | takes payload =>
    rw [List.append_nil]
    refine ⟨upholds.faithful, upholds.narrated, ?_⟩
    have longer := upholds.ordered.append (List.Sublist.refl [payload])
    rwa [List.append_assoc] at longer
  | turns happening events after turn =>
    rw [List.append_nil]
    refine ⟨?_, upholds.narrated.turn turn, upholds.ordered.turn turn⟩
    have reports := turn.reports
    simp only [upholds.narrated.up_iff] at reports
    exact reports ▸ .goesOn story upholds.faithful happening

theorem upholds_run (acts : List Act) {story : Story} {given : List Bytes}
    (found : transport.sessions[place]? = some session) (upholds : Upholds session story given) :
    ∃ after, (transport.run acts).sessions[place]? = some after ∧
      Upholds after (story ++ SocketTransport.story place acts transport)
        (given ++ accepted place acts transport) := by
  induction acts generalizing transport session story given with
  | nil => exact ⟨session, found, by simpa [SocketTransport.story, accepted] using upholds⟩
  | cons act acts ih =>
    obtain ⟨after, there, chapter⟩ := act_chapter found act
    obtain ⟨last, ends, kept⟩ := ih there (upholds.chapter chapter)
    refine ⟨last, ends, ?_⟩
    simpa only [SocketTransport.story, accepted, List.append_assoc] using kept

/-- A place stays silent until a session begins there, and that session upholds its story from then
on. -/
theorem upholds_from_vacant (acts : List Act) (vacant : transport.sessions[place]? = none) :
    ((transport.run acts).sessions[place]? = none →
      SocketTransport.story place acts transport = [] ∧ accepted place acts transport = []) ∧
    ∀ session, (transport.run acts).sessions[place]? = some session →
      Upholds session (SocketTransport.story place acts transport)
        (accepted place acts transport) := by
  induction acts generalizing transport with
  | nil => exact ⟨fun _ => ⟨rfl, rfl⟩, fun session found => by simp [run, vacant] at found⟩
  | cons act acts ih =>
    obtain ⟨silent, nothing, new⟩ := act_vacant vacant act
    simp only [SocketTransport.story, accepted, silent, nothing, List.nil_append]
    cases begins : (transport.act act).sessions[place]? with
    | none => exact ih begins
    | some session =>
      obtain ⟨last, ends, kept⟩ := upholds_run acts begins (upholds_new (new session begins))
      change ((transport.act act).run acts).sessions[place]? = some last at ends
      refine ⟨fun none => ?_, fun session found => ?_⟩
      · cases ends.symm.trans none
      · cases ends.symm.trans found
        exact kept

def written (place : Nat) (transport : SocketTransport) : List Bytes :=
  (transport.sessions[place]?.map fun session => session.written.map (·.2)).getD []

/-- Every session reports in rounds: each handshake that is completed, then one message for each that
is read, in the same order, then the end of the socket. At most the last round is unfinished, and it
is exactly while the socket is up. A dial that fails reports nothing. What the session writes on its
sockets was accepted for it, and is in the same order, each payload at most once. -/
theorem sessions_report_in_rounds (settings : ConnectSettings) (acts : List Act) (place : Nat) :
    let transport := (SocketTransport.ofSettings settings).run acts
    let story := SocketTransport.story place acts (.ofSettings settings)
    (∃ unfinished, InRounds story.events unfinished ∧
      (unfinished.isSome = true ↔
        ∃ session, transport.sessions[place]? = some session ∧ session.phase = .up)) ∧
    story.Faithful ∧
    story.events.filterMap Event.message? = story.filterMap (fun step => step.1.read?) ∧
    (written place transport).Sublist (accepted place acts (.ofSettings settings)) := by
  intro transport story
  have empty : (SocketTransport.ofSettings settings).sessions[place]? = none := rfl
  obtain ⟨silent, upholds⟩ := upholds_from_vacant acts empty
  simp only [written]
  cases found : transport.sessions[place]? with
  | none =>
    have nothing : story = [] := (silent found).1
    rw [nothing]
    exact ⟨⟨none, inRounds_nil, by simp⟩, .begins, rfl, List.nil_sublist _⟩
  | some session =>
    have kept := upholds session found
    obtain ⟨unfinished, goes, up⟩ := kept.narrated
    refine ⟨⟨unfinished, goes, ?_⟩, kept.faithful, kept.faithful.messages, ?_⟩
    · simpa using up
    · exact (List.sublist_append_left _ _).trans kept.ordered

end SocketTransport

end FrameLink.Link
