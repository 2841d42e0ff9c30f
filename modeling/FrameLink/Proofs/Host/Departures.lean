import FrameLink.Proofs.Host.Shutdown
import FrameLink.Proofs.Host.Uses
/-!
What is queued for clients that have left. The task of a socket takes back the registration first and
clears the queues later, and the application may queue requests in the name of any client. Still, where
departed clients are purged and no socket is on its way out, nothing that came from a socket is queued
for a client that is not registered.
-/

namespace FrameLink.Host

variable {α β : Type}

namespace Line

def ofClient (client : ClientId) (line : Line α) : Line α :=
  line.filter fun envelope => envelope.client == client

@[simp] theorem ofClient_append (client : ClientId) (one two : Line α) :
    ofClient client (one ++ two) = ofClient client one ++ ofClient client two :=
  List.filter_append ..

theorem ofClient_sublist (client : ClientId) {one two : Line α} (fewer : one.Sublist two) :
    (ofClient client one).Sublist (ofClient client two) := fewer.filter _

theorem ofClient_without (client : ClientId) (line : Line α) :
    ofClient client (line.without client) = [] := by
  simp [ofClient, without]

end Line

namespace Hosting

variable [Wire α] {hosting : Hosting α β} {happening : Happening} {socket socket' : Socket}
  {exchange : Exchange α β} {board : Switchboard}

omit [Wire α] in
theorem accept?_some {remote : Inet.Endpoint} {after : Hosting α β}
    (accepted : hosting.accept? remote = some after) :
    ∃ socket, after = { hosting with sockets := hosting.sockets ++ [socket] } := by
  unfold accept? at accepted
  split at accepted <;> cases accepted
  exact ⟨_, rfl⟩

theorem Occurs.spared (occurs : Occurs hosting socket happening exchange board socket')
    (sound : hosting.Sound)
    (spares : ¬(happening = .clears ∧ hosting.settings.purgeOnDisconnect = true)) :
    exchange.Sound ∧
      exchange.requests.queue.messages =
        hosting.requests ++ brought hosting.settings.maxFrameBytes.toNat socket.id happening ∧
      exchange.responses.messages = hosting.responses := by
  obtain ⟨requestsSound, responsesSound, requests, responses⟩ := occurs.lines sound
  have kept {γ : Type} (line : Line γ) : line.filter
      (stays hosting.settings.purgeOnDisconnect (Hosting.parted socket.id happening)) = line := by
    cases happening with
    | clears =>
      have keeps : hosting.settings.purgeOnDisconnect = false := by simpa using spares
      rw [keeps, filter_keeps]
    | _ => exact filter_stays_nil _ line
  rw [kept] at requests responses
  exact ⟨⟨requestsSound, responsesSound⟩, requests, responses⟩

theorem Occurs.brings (occurs : Occurs hosting socket happening exchange board socket')
    {limit : Nat} {envelope : Envelope α}
    (brings : envelope ∈ brought limit socket.id happening) :
    envelope.client = socket.id ∧ socket'.stage = .serving := by
  cases occurs with
  | queues serving | discards serving =>
    refine ⟨?_, serving⟩
    unfold brought at brings
    dsimp only at brings
    split at brings
    · rw [List.mem_singleton.mp brings]
    · cases brings
  | _ => cases brings

/-- Only a client whose queues are cleared comes to its end after it was served. -/
theorem Occurs.stays (occurs : Occurs hosting socket happening exchange board socket')
    (spares : happening ≠ .clears) :
    (socket.stage = .serving → socket'.stage = .serving ∨ socket'.stage = .leaving) ∧
      (socket.stage = .leaving → socket'.stage = .leaving) := by
  cases occurs with
  | registers opening | turnedAway opening | givesUp opening => simp [opening]
  | queues serving | discards serving | control serving | leaves serving => simp [serving]
  | clears => exact absurd rfl spares
  | sends | sendFails => exact ⟨.inl, id⟩

end Hosting

namespace Service

variable {service : Service α β}

/-- The requests that the application queues itself with a move. -/
def Move.queued : Move α β → Line α
  | .uses (.queuesRequest envelope) => [envelope]
  | _ => []

def Settled (service : Service α β) : Prop :=
  ∀ socket ∈ service.hosting.sockets, socket.stage ≠ .leaving

/-! ## One move -/

theorem dropResponses_eq (place requests : Nat) (socket : Socket) (service : Service α β) :
    ∃ log, service.dropResponses place requests socket =
      { hosting := service.hosting.become place
          { service.hosting.server.exchange with
            responses := (service.hosting.server.exchange.responses.purge socket.id).2 }
          { service.hosting.server.board with log } { socket with stage := .ended }
        halfway := service.halfway.filter fun entry => entry.1 != place } := by
  unfold dropResponses
  dsimp only
  split <;> exact ⟨_, rfl⟩

variable [Wire α] [Wire β]

inductive Advances (service : Service α β) : Move α β → Service α β → Prop
  | draws {move : Move α β} {server : Server α β} (drawn : service.hosting.server.Draws server) :
    Advances service move (service.withServer server)
  | queues (envelope : Envelope α) :
    Advances service (.uses (.queuesRequest envelope))
      (service.withServer (service.hosting.server.use (.queuesRequest envelope)))
  | closes {move : Move α β} (endpoint : Inet.Endpoint)
      (stopped : service.hosting.server.listener = .stopped) :
    Advances service move (service.withServer (service.hosting.server.closeClients endpoint).2)
  | accepts {move : Move α β} {remote : Inet.Endpoint} {hosting : Hosting α β}
      (accepted : service.hosting.accept? remote = some hosting) :
    Advances service move { service with hosting }
  | occurs {move : Move α β} {place : Nat} {happening : Happening} {socket socket' : Socket}
      {exchange : Exchange α β} {board : Switchboard}
      (found : service.hosting.sockets[place]? = some socket)
      (occurs : service.hosting.Occurs socket happening exchange board socket')
      (spares : ¬(happening = .clears ∧ service.hosting.settings.purgeOnDisconnect = true)) :
    Advances service move
      { service with hosting := service.hosting.become place exchange board socket' }
  | dropsRequests {move : Move α β} {place : Nat} {socket : Socket}
      (found : service.hosting.sockets[place]? = some socket) (leaving : socket.stage = .leaving)
      (whole : service.halfway.lookup place = none) :
    Advances service move (service.dropRequests place socket.id)
  | dropsResponses {move : Move α β} {place requests : Nat} {socket : Socket}
      {log : List Log.Event} (found : service.hosting.sockets[place]? = some socket)
      (leaving : socket.stage = .leaving)
      (half : service.halfway.lookup place = some requests) :
    Advances service move
      { hosting := service.hosting.become place
          { service.hosting.server.exchange with
            responses := (service.hosting.server.exchange.responses.purge socket.id).2 }
          { service.hosting.server.board with log } { socket with stage := .ended }
        halfway := service.halfway.filter fun entry => entry.1 != place }

variable {move : Move α β} {after : Service α β}

theorem purge?_advances {place : Nat} (step : service.purge? place = some after) :
    Advances service move after := by
  unfold purge? at step
  simp only [Option.bind_eq_bind, Option.bind_eq_some_iff] at step
  obtain ⟨socket, found, step⟩ := step
  split at step
  next leaving =>
    split at step <;> cases step
    next whole => exact .dropsRequests found leaving whole
    next requests half =>
      obtain ⟨log, same⟩ := dropResponses_eq place requests socket service
      rw [same]
      exact .dropsResponses found leaving half
  next => cases step

theorem step?_advances (sound : service.hosting.Sound) (step : service.step? move = some after) :
    Advances service move after := by
  have shared : service.hosting.server.exchange.Sound := ⟨sound.requests, sound.responses⟩
  cases move with
  | listens bound =>
    cases step
    exact .draws (Server.listen_draws shared _ _)
  | accepts remote =>
    simp only [step?, Option.bind_eq_bind, Option.bind_eq_some_iff] at step
    obtain ⟨hosting, accepted, step⟩ := step
    cases step
    exact .accepts accepted
  | socket place happening =>
    unfold step? at step
    dsimp only at step
    split at step
    next => exact purge?_advances step
    next spares =>
      simp only [Option.bind_eq_bind, Option.bind_eq_some_iff] at step
      obtain ⟨hosting, happened, step⟩ := step
      cases step
      obtain ⟨socket, found, exchange, board, socket', occurs, rfl⟩ :=
        Hosting.step_occurs happened
      exact .occurs found occurs spares
  | uses use =>
    cases step
    by_cases queues : ∃ envelope, use = .queuesRequest envelope
    · obtain ⟨envelope, rfl⟩ := queues
      exact .queues envelope
    · exact .draws (Server.use_draws shared use (not_exists.mp queues))
  | stops =>
    unfold step? at step
    dsimp only at step
    split at step <;> cases step
    exact .draws (Server.stopListening_draws shared)
  | closes endpoint =>
    unfold step? at step
    dsimp only at step
    split at step <;> cases step
    next stopped => exact .closes endpoint stopped

namespace Advances

theorem sound (advances : Advances service move after) (sound : service.hosting.Sound) :
    after.hosting.Sound := by
  cases advances with
  | draws drawn => exact ⟨drawn.sound.requests, drawn.sound.responses⟩
  | queues envelope => exact ⟨sound.requests.push envelope, sound.responses⟩
  | closes endpoint =>
    have same := Hosting.closeClients_exchange endpoint service.hosting.server
    constructor
    · exact same ▸ sound.requests
    · exact same ▸ sound.responses
  | accepts accepted =>
    obtain ⟨socket, rfl⟩ := Hosting.accept?_some accepted
    exact ⟨sound.requests, sound.responses⟩
  | occurs found occurs spares =>
    obtain ⟨kept, _⟩ := occurs.spared sound spares
    exact ⟨kept.requests, kept.responses⟩
  | dropsRequests => exact ⟨sound.requests.purge _, sound.responses⟩
  | dropsResponses => exact ⟨sound.requests, sound.responses.purge _⟩

theorem settings (advances : Advances service move after) :
    after.hosting.settings = service.hosting.settings := by
  cases advances with
  | accepts accepted =>
    obtain ⟨socket, rfl⟩ := Hosting.accept?_some accepted
    rfl
  | _ => rfl

theorem ids (advances : Advances service move after) :
    service.hosting.sockets.map (·.id) <+: after.hosting.sockets.map (·.id) := by
  cases advances with
  | accepts accepted =>
    obtain ⟨socket, rfl⟩ := Hosting.accept?_some accepted
    simp
  | occurs found occurs =>
    rw [Hosting.become_sockets, Hosting.ids_set found occurs.id_eq]
  | dropsResponses found =>
    rw [Hosting.become_sockets, Hosting.ids_set found (by rfl)]
  | draws | queues | closes | dropsRequests => exact List.prefix_refl _

theorem wired (advances : Advances service move after) (wired : service.hosting.Wired)
    (numbered : service.hosting.Numbered) (running : service.hosting.server.listener ≠ .stopped) :
    after.hosting.Wired := by
  cases advances with
  | draws drawn => exact wired.congr rfl drawn.board.registry drawn.board.next drawn.board.unread
  | queues | dropsRequests => exact wired.congr rfl rfl rfl fun _ => id
  | closes endpoint stopped => exact absurd stopped running
  | accepts accepted => exact wired.accept accepted
  | occurs found occurs => exact occurs.wired wired numbered found
  | dropsResponses found leaving =>
    exact wired.adjust numbered found rfl rfl (fun _ => id) rfl rfl (by simp [leaving]) (by simp)
      fun _ => rfl

theorem stopped (advances : Advances service move after)
    (stopped : service.hosting.server.listener = .stopped) :
    after.hosting.server.listener = .stopped := by
  cases advances with
  | draws drawn => exact drawn.stopped stopped
  | closes endpoint =>
    change (service.hosting.server.closeClients endpoint).2.listener = .stopped
    rw [Server.closeClients_listener, stopped]
  | accepts accepted =>
    obtain ⟨socket, rfl⟩ := Hosting.accept?_some accepted
    exact stopped
  | queues | occurs | dropsRequests | dropsResponses => exact stopped

end Advances

/-! ## The requests of a client -/

/-- A client that is registered, or about to be cleared of its requests. -/
def Standing (client : ClientId) (service : Service α β) : Prop :=
  ∃ (place : Nat) (socket : Socket), service.hosting.sockets[place]? = some socket ∧
    socket.id = client ∧ (socket.stage = .serving ∨
      socket.stage = .leaving ∧ service.halfway.lookup place = none)

/-- Only the sockets of clients that have left are halfway through. -/
def Halved (service : Service α β) : Prop :=
  ∀ place requests, service.halfway.lookup place = some requests →
    ∃ socket, service.hosting.sockets[place]? = some socket ∧ socket.stage = .leaving

omit [Wire α] [Wire β] in
theorem Halved.whole (halved : service.Halved) {place : Nat} {socket : Socket}
    (found : service.hosting.sockets[place]? = some socket) (stays : socket.stage ≠ .leaving) :
    service.halfway.lookup place = none := by
  by_contra half
  obtain ⟨requests, half⟩ := Option.ne_none_iff_exists'.mp half
  obtain ⟨same, again, leaving⟩ := halved place requests half
  obtain rfl := Option.some.inj (found.symm.trans again)
  exact stays leaving

omit [Wire α] [Wire β] in
theorem Standing.mono {client : ClientId} (standing : service.Standing client)
    (sockets : ∀ (place : Nat) (socket : Socket), service.hosting.sockets[place]? = some socket →
      after.hosting.sockets[place]? = some socket)
    (halfway : after.halfway = service.halfway) : after.Standing client := by
  obtain ⟨place, socket, found, stands⟩ := standing
  exact ⟨place, socket, sockets place socket found, halfway ▸ stands⟩

omit [Wire α] [Wire β] in
theorem lookup_filter (place other : Nat) (entries : List (Nat × Nat)) :
    (entries.filter fun entry => entry.1 != place).lookup other =
      if other = place then none else entries.lookup other := by
  induction entries with
  | nil => simp
  | cons entry rest ih =>
    obtain ⟨key, count⟩ := entry
    by_cases same : key = place
    · subst same
      rw [List.filter_cons_of_neg (by simp), ih, List.lookup_cons]
      by_cases here : other = key
      · rw [if_pos here, if_pos here]
      · rw [if_neg here, if_neg here, beq_eq_false_iff_ne.mpr here]
    · rw [List.filter_cons_of_pos (by simp [same]), List.lookup_cons, ih, List.lookup_cons]
      by_cases here : other = key
      · simp [here, same]
      · rw [beq_eq_false_iff_ne.mpr here]

namespace Advances

omit [Wire α] [Wire β] in
theorem accepted_sockets {hosting after : Hosting α β} {remote : Inet.Endpoint}
    (accepted : hosting.accept? remote = some after) (place : Nat) (socket : Socket)
    (found : hosting.sockets[place]? = some socket) : after.sockets[place]? = some socket := by
  obtain ⟨last, rfl⟩ := Hosting.accept?_some accepted
  have inside := (List.getElem?_eq_some_iff.mp found).1
  rw [List.getElem?_append_left inside, found]

theorem halved (advances : Advances service move after)
    (purges : service.hosting.settings.purgeOnDisconnect = true) (halved : service.Halved) :
    after.Halved := by
  intro other requests half
  cases advances with
  | draws | queues | closes => exact halved other requests half
  | accepts accepted =>
    obtain ⟨socket, found, leaving⟩ := halved other requests half
    exact ⟨socket, accepted_sockets accepted other socket found, leaving⟩
  | @occurs _ place happening socket socket' exchange board found occurs spares =>
    obtain ⟨before, there, leaving⟩ := halved other requests half
    rw [Hosting.become_sockets, List.getElem?_set]
    split
    next here =>
      subst here
      obtain rfl := Option.some.inj (found.symm.trans there)
      have stays := occurs.stays fun clears => spares ⟨clears, purges⟩
      exact ⟨socket', if_pos (List.getElem?_eq_some_iff.mp found).1, stays.2 leaving⟩
    next => exact ⟨before, there, leaving⟩
  | @dropsRequests _ place socket found leaving whole =>
    change List.lookup other ((place, _) :: service.halfway) = some requests at half
    rw [List.lookup_cons] at half
    by_cases here : other = place
    · subst here
      exact ⟨socket, found, leaving⟩
    · simp only [beq_eq_false_iff_ne.mpr here] at half
      exact halved other requests half
  | @dropsResponses _ place count socket log found leaving _ =>
    dsimp only at half
    rw [lookup_filter] at half
    by_cases here : other = place
    · rw [if_pos here] at half
      cases half
    · rw [if_neg here] at half
      obtain ⟨before, there, leaving⟩ := halved other requests half
      rw [Hosting.become_sockets, List.getElem?_set_ne (Ne.symm here)]
      exact ⟨before, there, leaving⟩

/-- A client stands until its requests are dropped. -/
theorem standing (advances : Advances service move after)
    (purges : service.hosting.settings.purgeOnDisconnect = true) (sound : service.hosting.Sound)
    (halved : service.Halved) {client : ClientId} (standing : service.Standing client) :
    after.Standing client ∨ after.hosting.requests.ofClient client = [] := by
  cases advances with
  | draws | queues | closes => exact .inl standing
  | accepts accepted => exact .inl (standing.mono (accepted_sockets accepted) rfl)
  | @occurs _ place happening socket socket' exchange board found occurs spares =>
    left
    obtain ⟨other, before, there, own, stands⟩ := standing
    by_cases here : place = other
    · subst here
      obtain rfl := Option.some.inj (found.symm.trans there)
      have inside := (List.getElem?_eq_some_iff.mp found).1
      have stays := occurs.stays fun clears => spares ⟨clears, purges⟩
      refine ⟨place, socket', ?_, occurs.id_eq.trans own, ?_⟩
      · rw [Hosting.become_sockets, List.getElem?_set_self inside]
      rcases stands with serving | ⟨leaving, whole⟩
      · have whole := halved.whole found (by simp [serving])
        exact (stays.1 serving).imp id fun leaving => ⟨leaving, whole⟩
      · exact .inr ⟨stays.2 leaving, whole⟩
    · refine ⟨other, before, ?_, own, stands⟩
      rw [Hosting.become_sockets, List.getElem?_set_ne here]
      exact there
  | @dropsRequests _ place socket found leaving whole =>
    -- The client no longer stands, although its socket has not ended yet.
    by_cases own : client = socket.id
    · right
      subst own
      change Line.ofClient socket.id (Queues.messages (Queues.purge socket.id _).2) = []
      rw [sound.requests.messages_purge]
      exact Line.ofClient_without _ _
    · left
      obtain ⟨other, before, there, its, stands⟩ := standing
      have apart : other ≠ place := by
        rintro rfl
        obtain rfl := Option.some.inj (found.symm.trans there)
        exact own its.symm
      refine ⟨other, before, there, its, stands.imp id fun ⟨leaving, whole⟩ => ⟨leaving, ?_⟩⟩
      change List.lookup other ((place, _) :: service.halfway) = none
      rw [List.lookup_cons]
      simp only [beq_eq_false_iff_ne.mpr apart]
      exact whole
  | @dropsResponses _ place count socket log found leaving half =>
    left
    obtain ⟨other, before, there, its, stands⟩ := standing
    have apart : other ≠ place := by
      rintro rfl
      obtain rfl := Option.some.inj (found.symm.trans there)
      rcases stands with serving | ⟨_, whole⟩
      · rw [serving] at leaving
        cases leaving
      · rw [whole] at half
        cases half
    refine ⟨other, before, ?_, its, stands.imp id fun ⟨leaving, whole⟩ => ⟨leaving, ?_⟩⟩
    · rw [Hosting.become_sockets, List.getElem?_set_ne (Ne.symm apart)]
      exact there
    · rw [lookup_filter, if_neg apart, whole]

/-- What is new for a client that does not stand was queued by the application. -/
theorem requests (advances : Advances service move after) (sound : service.hosting.Sound)
    (client : ClientId) :
    after.Standing client ∨ (after.hosting.requests.ofClient client).Sublist
      (service.hosting.requests.ofClient client ++ move.queued.ofClient client) := by
  have old : service.hosting.requests.Sublist (service.hosting.requests ++ move.queued) :=
    List.sublist_append_left _ _
  rw [← Line.ofClient_append]
  cases advances with
  | draws drawn => exact .inr (Line.ofClient_sublist client (drawn.requests.trans old))
  | queues envelope =>
    right
    change (Line.ofClient client (Queues.messages (Queues.push envelope _))).Sublist _
    rw [sound.requests.messages_push]
    exact List.Sublist.refl _
  | closes endpoint =>
    have same : (service.withServer
        (service.hosting.server.closeClients endpoint).2).hosting.requests =
        service.hosting.requests := by
      unfold Hosting.requests withServer
      dsimp only
      rw [Hosting.closeClients_exchange]
    exact .inr (Line.ofClient_sublist client (same ▸ old))
  | accepts accepted =>
    obtain ⟨socket, rfl⟩ := Hosting.accept?_some accepted
    exact .inr (Line.ofClient_sublist client old)
  | @occurs _ place happening socket socket' exchange board found occurs spares =>
    obtain ⟨_, requests, _⟩ := occurs.spared sound spares
    change _ ∨ (Line.ofClient client exchange.requests.queue.messages).Sublist _
    rw [requests, Line.ofClient_append]
    by_cases brings : Line.ofClient client (Hosting.brought (α := α)
        service.hosting.settings.maxFrameBytes.toNat socket.id happening) = []
    · rw [brings, List.append_nil]
      exact .inr (Line.ofClient_sublist client old)
    · left
      obtain ⟨envelope, brings⟩ := List.exists_mem_of_ne_nil _ brings
      obtain ⟨brings, own⟩ := List.mem_filter.mp brings
      obtain ⟨its, serving⟩ := occurs.brings brings
      refine ⟨place, socket', ?_, ?_, .inl serving⟩
      · rw [Hosting.become_sockets,
          List.getElem?_set_self (List.getElem?_eq_some_iff.mp found).1]
      · exact occurs.id_eq.trans (its.symm.trans (eq_of_beq own))
  | dropsRequests =>
    right
    change (Line.ofClient client (Queues.messages (Queues.purge _ _).2)).Sublist _
    rw [sound.requests.messages_purge]
    exact Line.ofClient_sublist client (List.filter_sublist.trans old)
  | dropsResponses => exact .inr (Line.ofClient_sublist client old)

end Advances

/-! ## A run -/

theorem run_append_singleton (moves : List (Move α β)) (move : Move α β)
    (service : Service α β) :
    service.run (moves ++ [move]) =
      ((service.run moves).step? move).getD (service.run moves) := by
  simp [run]

variable (settings : ServeSettings)

theorem run_sound (moves : List (Move α β)) :
    ((ofSettings settings).run moves).hosting.Sound ∧
      ((ofSettings settings).run moves).hosting.settings = settings := by
  induction moves using List.reverseRecOn with
  | nil => exact ⟨⟨Queues.sound_empty, Queues.sound_empty⟩, rfl⟩
  | append_singleton moves move ih =>
    rw [run_append_singleton]
    obtain ⟨sound, same⟩ := ih
    cases step : ((ofSettings settings).run moves).step? move with
    | none => exact ⟨sound, same⟩
    | some after =>
      have advances := step?_advances sound step
      exact ⟨advances.sound sound, advances.settings.trans same⟩

/-- As long as the server has not stopped listening the registry tells who is served. -/
theorem run_wired (moves : List (Move α β))
    (numbered : ((ofSettings settings).run moves).hosting.Numbered)
    (running : ((ofSettings settings).run moves).hosting.server.listener ≠ .stopped) :
    ((ofSettings settings).run moves).hosting.Wired := by
  induction moves using List.reverseRecOn with
  | nil =>
    constructor
    · simp [run, ofSettings]
    · intro client channel
      simp [run, ofSettings, Switchboard.channelOf, Registry.find?]
    · intro channel _
      rfl
    all_goals simp [run, ofSettings]
  | append_singleton moves move ih =>
    rw [run_append_singleton] at numbered running ⊢
    cases step : ((ofSettings settings).run moves).step? move with
    | none =>
      rw [step] at numbered running
      exact ih numbered running
    | some after =>
      rw [step] at numbered running
      have advances := step?_advances (run_sound settings moves).1 step
      -- Sockets keep their numbers, so those that differ in the end differed before.
      have first : ((ofSettings settings).run moves).hosting.Numbered :=
        advances.ids.sublist.nodup numbered
      have open' := mt advances.stopped running
      exact advances.wired (ih first open') first open'

/-- At some point nothing of a client was queued, and since then nothing but what the application
queued itself. -/
def OwnOnly (start : Service α β) (moves : List (Move α β)) (client : ClientId) : Prop :=
  ∃ earlier later, earlier ++ later = moves ∧
    (start.run earlier).hosting.requests.ofClient client = [] ∧
    ((start.run moves).hosting.requests.ofClient client).Sublist
      (Line.ofClient client (later.flatMap Move.queued))

theorem OwnOnly.append {start : Service α β} {moves : List (Move α β)} {client : ClientId}
    (own : OwnOnly start moves client) (move : Move α β)
    (few : ((start.run (moves ++ [move])).hosting.requests.ofClient client).Sublist
      ((start.run moves).hosting.requests.ofClient client ++ move.queued.ofClient client)) :
    OwnOnly start (moves ++ [move]) client := by
  obtain ⟨earlier, later, rfl, empty, since⟩ := own
  refine ⟨earlier, later ++ [move], by simp, empty, ?_⟩
  rw [List.flatMap_append, Line.ofClient_append, List.flatMap_singleton]
  exact few.trans (since.append_right _)

theorem run_standing (purges : settings.purgeOnDisconnect = true) (moves : List (Move α β)) :
    ((ofSettings settings).run moves).Halved ∧ ∀ client,
      ((ofSettings settings).run moves).Standing client ∨
        OwnOnly (ofSettings settings) moves client := by
  -- From the right, since the point at which nothing was queued lies among the moves so far.
  induction moves using List.reverseRecOn with
  | nil =>
    refine ⟨?_, fun client => .inr ⟨[], [], rfl, rfl, List.Sublist.refl _⟩⟩
    intro place requests half
    cases half
  | append_singleton moves move ih =>
    obtain ⟨halved, stands⟩ := ih
    obtain ⟨sound, same⟩ := run_sound settings moves
    have run := run_append_singleton moves move (ofSettings settings)
    cases step : ((ofSettings settings).run moves).step? move with
    | none =>
      rw [step, Option.getD_none] at run
      refine ⟨run ▸ halved, fun client => ?_⟩
      refine (stands client).imp (run ▸ id) fun own => own.append move ?_
      rw [run]
      exact List.sublist_append_left _ _
    | some after =>
      rw [step, Option.getD_some] at run
      have advances := step?_advances sound step
      rw [← same] at purges
      refine ⟨run ▸ advances.halved purges halved, fun client => ?_⟩
      rcases stands client with standing | own
      · refine (advances.standing purges sound halved standing).imp (run ▸ id) fun empty => ?_
        rw [← run] at empty
        exact ⟨moves ++ [move], [], by simp, empty, by rw [empty]; exact List.nil_sublist _⟩
      · refine (advances.requests sound client).imp (run ▸ id) fun few => own.append move ?_
        rwa [run]

omit [Wire α] [Wire β] in
theorem Standing.registered {client : ClientId} (standing : service.Standing client)
    (wired : service.hosting.Wired) (settled : service.Settled) :
    ∃ endpoint ∈ service.hosting.server.board.clients, endpoint.id = client := by
  obtain ⟨place, socket, found, own, stands⟩ := standing
  have member := List.mem_of_getElem? found
  have serving : socket.stage = .serving :=
    stands.resolve_right fun leaving => settled socket member leaving.1
  obtain ⟨channel, its⟩ := Option.ne_none_iff_exists'.mp
    fun none => (wired.unserved socket member none).2 serving
  have listed := (wired.listed client channel).mpr ⟨socket, member, own, serving, its⟩
  unfold Switchboard.channelOf at listed
  unfold Switchboard.clients
  cases running : service.hosting.server.board.registry with
  | none => exact absurd running wired.running
  | some registry =>
    rw [running, Option.bind_some, Option.map_eq_some_iff] at listed
    obtain ⟨endpoint, known, _⟩ := listed
    refine ⟨endpoint, List.mem_of_find?_eq_some known, ?_⟩
    unfold Registry.find? at known
    simpa using List.find?_some known

/-! ## The end of a socket -/

/-- What becomes of the queues when they are cleared of the client of a socket. -/
def Clears (place : Nat) (socket : Socket) (service next : Service α β) : Prop :=
  match service.hosting.settings.purgeOnDisconnect, service.halfway.lookup place with
  | false, _ =>
    next.hosting.requests = service.hosting.requests ∧
      next.hosting.responses = service.hosting.responses ∧
      next.hosting.sockets[place]? = some { socket with stage := .ended }
  | true, none =>
    next.hosting.requests = service.hosting.requests.without socket.id ∧
      next.hosting.responses = service.hosting.responses ∧
      next.hosting.sockets = service.hosting.sockets ∧ next.halfway.lookup place ≠ none
  | true, some _ =>
    next.hosting.requests = service.hosting.requests ∧
      next.hosting.responses = service.hosting.responses.without socket.id ∧
      next.hosting.sockets[place]? = some { socket with stage := .ended }

omit [Wire β] in
theorem clears_once {place : Nat} {socket : Socket} {hosting : Hosting α β}
    (found : hosting.sockets[place]? = some socket) (leaving : socket.stage = .leaving) :
    hosting.step? place .clears =
      some ((hosting.clear socket.id).put place { socket with stage := .ended }) := by
  simp only [Hosting.step?, found, Option.bind_eq_bind, Option.bind_some, leaving]
  rfl

/-- A client that has left can always be cleared. -/
theorem clears_step? {place : Nat} {socket : Socket} (sound : service.hosting.Sound)
    (found : service.hosting.sockets[place]? = some socket) (leaving : socket.stage = .leaving) :
    ∃ next, service.step? (.socket place .clears) = some next ∧
      Clears place socket service next := by
  have inside := (List.getElem?_eq_some_iff.mp found).1
  unfold step? Clears
  dsimp only
  cases purges : service.hosting.settings.purgeOnDisconnect with
  | false =>
    obtain ⟨log, same⟩ := Hosting.clear_exchange socket.id service.hosting
    rw [clears_once found leaving, same, purges]
    refine ⟨_, rfl, rfl, rfl, ?_⟩
    exact List.getElem?_set_self inside
  | true =>
    rw [if_pos ⟨rfl, rfl⟩]
    unfold purge?
    rw [found, Option.bind_eq_bind, Option.bind_some, if_pos leaving]
    cases half : service.halfway.lookup place with
    | none =>
      refine ⟨_, rfl, sound.requests.messages_purge _, rfl, rfl, ?_⟩
      change List.lookup place ((place, _) :: service.halfway) ≠ none
      simp
    | some requests =>
      obtain ⟨log, same⟩ := dropResponses_eq place requests socket service
      refine ⟨_, rfl, ?_⟩
      rw [same]
      exact ⟨rfl, sound.responses.messages_purge _, List.getElem?_set_self inside⟩

/-- With nothing in between, the two steps make one. -/
theorem clears_twice {place : Nat} {socket : Socket}
    (purges : service.hosting.settings.purgeOnDisconnect = true)
    (found : service.hosting.sockets[place]? = some socket) (leaving : socket.stage = .leaving)
    (whole : service.halfway.lookup place = none) :
    ((service.step? (.socket place .clears)).bind (·.step? (.socket place .clears))) =
      (service.hosting.step? place .clears).map fun hosting => { service with hosting } := by
  have first : service.step? (.socket place .clears) =
      some (service.dropRequests place socket.id) := by
    unfold step? purge?
    dsimp only
    rw [if_pos ⟨rfl, purges⟩, found, Option.bind_eq_bind, Option.bind_some, if_pos leaving, whole]
    rfl
  have second : (service.dropRequests place socket.id).step? (.socket place .clears) =
      some ((service.dropRequests place socket.id).dropResponses place
        (service.hosting.server.exchange.requests.queue.purge socket.id).1 socket) := by
    have dropped : (service.dropRequests place socket.id).hosting.sockets[place]? = some socket :=
      found
    have half : (service.dropRequests place socket.id).halfway.lookup place =
        some (service.hosting.server.exchange.requests.queue.purge socket.id).1 := by
      change List.lookup place ((place, _) :: service.halfway) = _
      rw [List.lookup_cons_self]
      rfl
    unfold step? purge?
    dsimp only
    rw [if_pos ⟨rfl, purges⟩, dropped, Option.bind_eq_bind, Option.bind_some, if_pos leaving, half]
    rfl
  have kept : (service.dropRequests place socket.id).halfway.filter (·.1 != place) =
      service.halfway := by
    change ((place, _) :: service.halfway).filter _ = _
    rw [List.filter_cons_of_neg (by simp), List.filter_eq_self]
    intro entry member
    have apart := List.lookup_eq_none_iff.mp whole entry member
    simpa [bne, BEq.comm] using apart
  rw [first, Option.bind_some, second, clears_once found leaving, Option.map_some]
  unfold dropResponses Hosting.clear
  dsimp only
  rw [kept, if_pos purges]
  split
  next any =>
    rw [if_pos (by exact any)]
    rfl
  next nothing =>
    rw [if_neg (by exact nothing)]
    rfl

/-- A server listens, and with it anything may happen at its sockets and be done by its application,
in any order; its sockets have numbers of their own. Where departed clients are purged and no client
is on its way out, a client for which requests are queued is registered, or the application has queued
all of them itself. Whatever happens at a socket adds the request that it brings and takes nothing out
of the queues, but for the clearing of a client that has left. The clearing can always go on; where
departed clients are purged it takes out the requests and then the responses of that client, leaves
those of the others in their order, and the socket has ended. Where they are not, nothing is taken
out. -/
theorem queued_requests_registered (settings : ServeSettings) (moves : List (Move α β)) :
    let start : Service α β := ofSettings settings
    let after := start.run moves
    after.hosting.Numbered →
      (settings.purgeOnDisconnect = true → after.hosting.server.isListening = true →
        after.Settled → ∀ client,
          (∃ endpoint ∈ after.hosting.server.board.clients, endpoint.id = client) ∨
            OwnOnly start moves client) ∧
      ∀ (place : Nat) (socket : Socket), after.hosting.sockets[place]? = some socket →
        (∀ happening next, ¬(happening = .clears ∧ settings.purgeOnDisconnect = true) →
          after.step? (.socket place happening) = some next →
          next.hosting.requests = after.hosting.requests ++
              Hosting.brought settings.maxFrameBytes.toNat socket.id happening ∧
            next.hosting.responses = after.hosting.responses) ∧
        (socket.stage = .leaving → ∃ next,
          after.step? (.socket place .clears) = some next ∧ Clears place socket after next) := by
  intro start after numbered
  obtain ⟨sound, same⟩ := run_sound (α := α) (β := β) settings moves
  refine ⟨?_, ?_⟩
  · intro purges listening settled client
    have running : after.hosting.server.listener ≠ .stopped := by
      intro stopped
      simp [Server.isListening, stopped] at listening
    have wired := run_wired settings moves numbered running
    exact ((run_standing settings purges moves).2 client).imp_left fun standing =>
      standing.registered wired settled
  · intro place socket found
    refine ⟨?_, clears_step? sound found⟩
    intro happening next spares step
    rw [← same] at spares ⊢
    unfold step? at step
    dsimp only at step
    rw [if_neg spares] at step
    simp only [Option.bind_eq_bind, Option.bind_eq_some_iff] at step
    obtain ⟨hosting, happened, step⟩ := step
    cases step
    obtain ⟨socket, there, exchange, board, socket', occurs, rfl⟩ := Hosting.step_occurs happened
    obtain rfl := Option.some.inj (found.symm.trans there)
    exact (occurs.spared sound spares).2

/-- Two clients send requests and one leaves; while it is cleared, the application queues a request in
its name. -/
def departure : List (Move Bytes Bytes) :=
  let body : Bytes := [7, 0, 0, 0, 0, 0, 0, 0, 1, 0, 0, 0, 0, 0, 0, 0, 42]
  [.listens (.ok ⟨.loopback, 8167⟩), .accepts ⟨.loopback, 50000⟩, .accepts ⟨.loopback, 50001⟩,
    .socket 0 (.asks Settings.defaultPath), .socket 1 (.asks Settings.defaultPath),
    .socket 0 (.receives body), .socket 1 (.receives body),
    .uses (.queuesResponse ⟨.ofNat 1, ⟨7⟩, [43]⟩), .socket 0 (.ends .peerClosed),
    .socket 0 .clears, .uses (.queuesRequest ⟨.ofNat 1, ⟨9⟩, [44]⟩), .socket 0 .clears]

theorem request_in_name_of_departed :
    ((ofSettings {}).run departure).hosting.requests =
        [⟨.ofNat 2, ⟨7⟩, [42]⟩, ⟨.ofNat 1, ⟨9⟩, [44]⟩] ∧
      ((ofSettings {}).run departure).hosting.responses = [] ∧
      ∀ client,
        (∃ endpoint ∈ ((ofSettings {}).run departure).hosting.server.board.clients,
          endpoint.id = client) ∨ OwnOnly (ofSettings {}) departure client := by
  obtain ⟨registered, _⟩ := queued_requests_registered {} departure
    (by unfold Hosting.Numbered; decide +kernel)
  have settled : ((ofSettings {}).run departure).Settled := by
    unfold Settled
    decide +kernel
  exact ⟨by decide +kernel, by decide +kernel, registered rfl (by decide +kernel) settled⟩

end Service

end FrameLink.Host
