import FrameLink.Proofs.Host.Sockets
import FrameLink.Wire.Compound
/-!
What is left in the queues of a host that shuts down. The shutdown itself touches no queue, but every
socket that is served then ends, and the task of a socket that ends clears what is queued for its
client, as it does for any client that leaves.
-/

namespace FrameLink.Host

variable {α β : Type}

def stays (purges : Bool) (departed : List ClientId) (envelope : Envelope α) : Bool :=
  !purges || !decide (envelope.client ∈ departed)

/-- What is left of one list of messages: those that stay, and what is left of those that arrived. -/
def Line.Left (purges : Bool) (departed : List ClientId) (arrived before after : Line α) : Prop :=
  ∃ extra : Line α, after = before.filter (stays purges departed) ++ extra ∧
    extra.Sublist arrived ∧ (purges = false → extra = arrived)

theorem filter_stays_append (purges : Bool) (first second : List ClientId) (line : Line α) :
    line.filter (stays purges (first ++ second)) =
      (line.filter (stays purges first)).filter (stays purges second) := by
  rw [List.filter_filter]
  apply List.filter_congr
  intro envelope _
  cases purges <;> simp [stays, Bool.and_comm]

theorem filter_stays_nil (purges : Bool) (line : Line α) :
    line.filter (stays purges []) = line := by
  simp [stays]

theorem filter_keeps (departed : List ClientId) (line : Line α) :
    line.filter (stays false departed) = line := by
  simp [stays]

theorem filter_departs (client : ClientId) (line : Line α) :
    line.filter (stays true [client]) = line.without client := by
  unfold Line.without
  apply List.filter_congr
  intro envelope _
  simp [stays, bne, beq_eq_decide]

namespace Line.Left

variable {purges : Bool}

theorem refl (line : Line α) : Left purges [] [] line line :=
  ⟨[], by rw [filter_stays_nil, List.append_nil], List.Sublist.refl _, fun _ => rfl⟩

theorem trans {first second : List ClientId} {early late before between after : Line α}
    (one : Left purges first early before between) (two : Left purges second late between after) :
    Left purges (first ++ second) (early ++ late) before after := by
  obtain ⟨some, rfl, few, all⟩ := one
  obtain ⟨more, rfl, fewer, every⟩ := two
  refine ⟨some.filter (stays purges second) ++ more, ?_, ?_, ?_⟩
  · rw [filter_stays_append, List.filter_append, List.append_assoc]
  · exact ((List.filter_sublist).trans few).append fewer
  · rintro rfl
    rw [filter_keeps, all rfl, every rfl]

end Line.Left

namespace Hosting

abbrev Event := Nat × Happening

variable [Wire α]

/-- A happening that cannot occur is passed over. -/
def go (event : Event) (hosting : Hosting α β) : Hosting α β :=
  (hosting.step? event.1 event.2).getD hosting

def proceed (events : List Event) (hosting : Hosting α β) : Hosting α β :=
  events.foldl (fun hosting event => hosting.go event) hosting

def brought (limit : Nat) (client : ClientId) : Happening → Line α
  | .receives data =>
    match Frame.decode data limit with
    | .ok frame => [⟨client, frame.correlation, frame.body⟩]
    | .error _ => []
  | _ => []

/-- The client whose task has come to its end with a happening. -/
def parted (client : ClientId) : Happening → List ClientId
  | .clears => [client]
  | _ => []

def tell {γ : Type} (of : ClientId → Happening → List γ) (event : Event) (hosting : Hosting α β) :
    List γ :=
  match hosting.step? event.1 event.2, hosting.sockets[event.1]? with
  | some _, some socket => of socket.id event.2
  | _, _ => []

def tellAll {γ : Type} (of : ClientId → Happening → List γ) :
    List Event → Hosting α β → List γ
  | [], _ => []
  | event :: rest, hosting => hosting.tell of event ++ tellAll of rest (hosting.go event)

/-! ## One step -/

/-- What a host has queued after some requests arrived and some clients departed. -/
structure Left (arrived : Line α) (departed : List ClientId) (before after : Hosting α β) :
    Prop where
  sound : after.Sound
  settings : after.settings = before.settings
  requests : Line.Left before.settings.purgeOnDisconnect departed arrived before.requests
    after.requests
  responses : after.responses =
    before.responses.filter (stays before.settings.purgeOnDisconnect departed)

omit [Wire α] in
theorem Left.same {before after : Hosting α β} (sound : before.Sound)
    (exchange : after.server.exchange = before.server.exchange)
    (settings : after.settings = before.settings) : Left [] [] before after where
  sound := ⟨exchange ▸ sound.requests, exchange ▸ sound.responses⟩
  settings := settings
  requests := by
    simp only [Hosting.requests, exchange]
    exact Line.Left.refl _
  responses := by simp only [Hosting.responses, exchange, filter_stays_nil]

omit [Wire α] in
theorem Left.trans {early late : Line α} {first second : List ClientId}
    {before between after : Hosting α β} (one : Left early first before between)
    (two : Left late second between after) :
    Left (early ++ late) (first ++ second) before after where
  sound := two.sound
  settings := two.settings.trans one.settings
  requests := by
    have more := two.requests
    rw [one.settings] at more
    exact one.requests.trans more
  responses := by
    rw [two.responses, one.responses, one.settings, filter_stays_append]

/-- What occurs at a socket leaves the queues as they are, but for the request that is brought and
for what the client whose task ends had queued. -/
theorem Occurs.lines {happening : Happening} {hosting : Hosting α β} {socket socket' : Socket}
    {exchange : Exchange α β} {board : Switchboard}
    (occurs : Occurs hosting socket happening exchange board socket') (sound : hosting.Sound) :
    exchange.requests.queue.Sound ∧ exchange.responses.Sound ∧
      exchange.requests.queue.messages =
        hosting.requests.filter
            (stays hosting.settings.purgeOnDisconnect (parted socket.id happening)) ++
          brought hosting.settings.maxFrameBytes.toNat socket.id happening ∧
      exchange.responses.messages = hosting.responses.filter
        (stays hosting.settings.purgeOnDisconnect (parted socket.id happening)) := by
  cases occurs with
  | queues serving frame decoded =>
    simp only [brought, decoded, parted, filter_stays_nil]
    exact ⟨sound.requests.push _, sound.responses, sound.requests.messages_push _, rfl⟩
  | discards serving fault undecoded =>
    simp only [brought, undecoded, parted, filter_stays_nil, List.append_nil]
    exact ⟨sound.requests, sound.responses, rfl, rfl⟩
  | clears leaving =>
    simp only [brought, parted, List.append_nil]
    cases hosting.settings.purgeOnDisconnect with
    | false =>
      rw [filter_keeps, filter_keeps]
      exact ⟨sound.requests, sound.responses, rfl, rfl⟩
    | true =>
      rw [filter_departs, filter_departs]
      exact ⟨sound.requests.purge _, sound.responses.purge _, sound.requests.messages_purge _,
        sound.responses.messages_purge _⟩
  | registers | turnedAway | control | givesUp | leaves | sends | sendFails =>
    simp only [brought, parted, filter_stays_nil, List.append_nil]
    exact ⟨sound.requests, sound.responses, rfl, rfl⟩

theorem Occurs.left {place : Nat} {happening : Happening} {hosting : Hosting α β} {socket : Socket}
    {exchange : Exchange α β} {board : Switchboard} {socket' : Socket}
    (occurs : Occurs hosting socket happening exchange board socket') (sound : hosting.Sound) :
    Left (brought hosting.settings.maxFrameBytes.toNat socket.id happening)
      (parted socket.id happening) hosting (hosting.become place exchange board socket') := by
  obtain ⟨requestsSound, responsesSound, requests, responses⟩ := occurs.lines sound
  exact {
    sound := ⟨requestsSound, responsesSound⟩
    settings := rfl
    requests := ⟨_, requests, List.Sublist.refl _, fun _ => rfl⟩
    responses := responses }

theorem left_go (event : Event) {hosting : Hosting α β} (sound : hosting.Sound) :
    Left (hosting.tell (brought hosting.settings.maxFrameBytes.toNat) event)
      (hosting.tell parted event) hosting (hosting.go event) := by
  cases step : hosting.step? event.1 event.2 with
  | none =>
    simp only [tell, step, go, Option.getD_none]
    exact .same sound rfl rfl
  | some after =>
    obtain ⟨socket, found, exchange, board, socket', occurs, rfl⟩ := step_occurs step
    simp only [tell, step, found, go, Option.getD_some]
    exact occurs.left sound

/-! ## A run -/

theorem left_proceed (events : List Event) {hosting : Hosting α β} (sound : hosting.Sound) :
    Left (hosting.tellAll (brought hosting.settings.maxFrameBytes.toNat) events)
      (hosting.tellAll parted events) hosting (hosting.proceed events) := by
  induction events generalizing hosting with
  | nil => exact .same sound rfl rfl
  | cons event rest ih =>
    have first := left_go event sound
    have later := ih first.sound
    rw [first.settings] at later
    exact first.trans later

/-- Whether the client of a socket was registered, and its task has not come to its end. -/
def isServed (socket : Socket) : Prop := socket.stage = .serving ∨ socket.stage = .leaving

theorem Occurs.stage {happening : Happening} {hosting : Hosting α β} {socket : Socket}
    {exchange : Exchange α β} {board : Switchboard} {socket' : Socket}
    (occurs : Occurs hosting socket happening exchange board socket') :
    (socket.stage = .ended → socket'.stage = .ended) ∧
      (isServed socket → isServed socket' ∨ parted socket.id happening = [socket.id]) := by
  cases occurs with
  | registers opening | turnedAway opening | givesUp opening => simp [isServed, opening]
  | queues serving | discards serving | control serving | leaves serving =>
    simp [isServed, serving]
  | clears leaving => simp [leaving, parted]
  | sends | sendFails => exact ⟨id, .inl⟩

/-- Which sockets a host has after some clients departed. -/
structure Parted (departed : List ClientId) (before after : Hosting α β) : Prop where
  /-- a socket stays where it is, and ends only once -/
  kept : ∀ (place : Nat) (socket' : Socket), after.sockets[place]? = some socket' →
    ∃ socket, before.sockets[place]? = some socket ∧ socket.id = socket'.id ∧
      (socket'.stage ≠ .ended → socket.stage ≠ .ended)
  /-- a socket that is served stays so until its client has departed -/
  served : ∀ (place : Nat) (socket : Socket), before.sockets[place]? = some socket →
    isServed socket → socket.id ∈ departed ∨ ∃ socket',
      after.sockets[place]? = some socket' ∧ socket'.id = socket.id ∧ isServed socket'
  departs : ∀ client ∈ departed, ∃ (place : Nat) (socket : Socket),
    before.sockets[place]? = some socket ∧ socket.id = client ∧ socket.stage ≠ .ended

omit [Wire α] in
theorem Parted.same {before after : Hosting α β} (sockets : after.sockets = before.sockets) :
    Parted [] before after where
  kept place socket' found := ⟨socket', sockets ▸ found, rfl, id⟩
  served place socket found served := .inr ⟨socket, sockets ▸ found, rfl, served⟩
  departs client member := by simp at member

omit [Wire α] in
theorem Parted.trans {first second : List ClientId} {before between after : Hosting α β}
    (one : Parted first before between) (two : Parted second between after) :
    Parted (first ++ second) before after where
  kept place socket' found := by
    obtain ⟨middle, there, same, open'⟩ := two.kept place socket' found
    obtain ⟨socket, here, again, opened⟩ := one.kept place middle there
    exact ⟨socket, here, again.trans same, opened ∘ open'⟩
  served place socket found served := by
    rcases one.served place socket found served with gone | ⟨middle, there, same, still⟩
    · exact .inl (List.mem_append_left _ gone)
    rcases two.served place middle there still with gone | ⟨socket', last, again, stays⟩
    · exact .inl (List.mem_append_right _ (same ▸ gone))
    · exact .inr ⟨socket', last, again.trans same, stays⟩
  departs client member := by
    rcases List.mem_append.mp member with early | late
    · exact one.departs client early
    · obtain ⟨place, middle, there, own, open'⟩ := two.departs client late
      obtain ⟨socket, here, same, opened⟩ := one.kept place middle there
      exact ⟨place, socket, here, same.trans own, opened open'⟩

theorem Occurs.parted {place : Nat} {happening : Happening} {hosting : Hosting α β}
    {socket : Socket} {exchange : Exchange α β} {board : Switchboard} {socket' : Socket}
    (found : hosting.sockets[place]? = some socket)
    (occurs : Occurs hosting socket happening exchange board socket') :
    Parted (parted socket.id happening) hosting
      (hosting.become place exchange board socket') := by
  have inside := (List.getElem?_eq_some_iff.mp found).1
  have same := occurs.id_eq
  obtain ⟨ended, served⟩ := occurs.stage
  constructor
  · intro other after there
    rw [become_sockets, List.getElem?_set] at there
    split at there
    next here =>
      rw [Option.some.injEq] at there
      subst here there
      exact ⟨socket, found, same.symm, mt ended⟩
    next => exact ⟨after, there, rfl, id⟩
  · intro other before there serves
    rw [become_sockets, List.getElem?_set]
    split
    next here =>
      subst here
      rw [found, Option.some.injEq] at there
      subst there
      rcases served serves with still | gone
      · exact .inr ⟨socket', rfl, same, still⟩
      · exact .inl (by rw [gone]; exact List.mem_singleton.mpr rfl)
    next => exact .inr ⟨before, there, rfl, serves⟩
  · intro client member
    cases occurs with
    | clears leaving =>
      rw [Hosting.parted, List.mem_singleton] at member
      exact ⟨place, socket, found, member.symm, by simp [leaving]⟩
    | _ => simp [Hosting.parted] at member

theorem parted_go (event : Event) (hosting : Hosting α β) :
    Parted (hosting.tell parted event) hosting (hosting.go event) := by
  cases step : hosting.step? event.1 event.2 with
  | none =>
    simp only [tell, step, go, Option.getD_none]
    exact .same rfl
  | some after =>
    obtain ⟨socket, found, exchange, board, socket', occurs, rfl⟩ := step_occurs step
    simp only [tell, step, found, go, Option.getD_some]
    exact occurs.parted found

theorem parted_proceed (events : List Event) (hosting : Hosting α β) :
    Parted (hosting.tellAll parted events) hosting (hosting.proceed events) := by
  induction events generalizing hosting with
  | nil => exact .same rfl
  | cons event rest ih => exact (parted_go event hosting).trans (ih _)

/-! ## The shutdown -/

def signal (hosting : Hosting α β) : Hosting α β :=
  { hosting with server := hosting.server.stopListening }

def close (endpoint : Inet.Endpoint) (hosting : Hosting α β) : Hosting α β :=
  { hosting with server := (hosting.server.closeClients endpoint).2 }

/-- A shutdown, with what happens at the sockets before and after the channels are closed. -/
def shutDown (endpoint : Inet.Endpoint) (early late : List Event) (hosting : Hosting α β) :
    Hosting α β :=
  ((hosting.signal.proceed early).close endpoint).proceed late

def tellShutDown {γ : Type} (of : ClientId → Happening → List γ) (endpoint : Inet.Endpoint)
    (early late : List Event) (hosting : Hosting α β) : List γ :=
  hosting.signal.tellAll of early ++
    ((hosting.signal.proceed early).close endpoint).tellAll of late

omit [Wire α] in
/-- Nothing of what is queued goes with the clients that departed exactly when nothing is purged, or
nothing is queued for any of them. -/
theorem untouched_iff {hosting : Hosting α β} (sound : hosting.Sound) (purges : Bool)
    (departed : List ClientId) :
    hosting.requests.filter (stays purges departed) = hosting.requests ∧
        hosting.responses.filter (stays purges departed) = hosting.responses ↔
      purges = false ∨ ∀ client ∈ departed,
        hosting.server.exchange.requests.queue.hasFrom client = false ∧
          hosting.server.exchange.responses.hasFrom client = false := by
  simp only [sound.requests.hasFrom_eq_false_iff, sound.responses.hasFrom_eq_false_iff,
    List.filter_eq_self]
  cases purges with
  | false => simp [stays]
  | true =>
    simp only [stays, Bool.not_true, Bool.false_or, Bool.not_eq_true', decide_eq_false_iff_not,
      Bool.true_eq_false, false_or]
    constructor
    · rintro ⟨requests, responses⟩ client member
      refine ⟨?_, ?_⟩
      · rintro envelope queued rfl
        exact requests envelope queued member
      · rintro envelope queued rfl
        exact responses envelope queued member
    · intro apart
      exact ⟨fun envelope queued member => (apart _ member).1 envelope queued rfl,
        fun envelope queued member => (apart _ member).2 envelope queued rfl⟩

theorem shutDown_nil {hosting : Hosting α β} {endpoint : Inet.Endpoint}
    (listening : hosting.server.listener = .listening endpoint) (late : List Event) :
    hosting.shutDown endpoint [] late =
      { hosting with server := hosting.server.shutdown.2 }.proceed late := by
  simp only [Server.shutdown, listening]
  rfl

omit [Wire α] in
theorem closeClients_exchange (endpoint : Inet.Endpoint) (server : Server α β) :
    (server.closeClients endpoint).2.exchange = server.exchange := by
  obtain ⟨exchange, ⟨registry, channels, log⟩, _, _, _, _, _⟩ := server
  cases registry <;> rfl

theorem left_shutDown (endpoint : Inet.Endpoint) (early late : List Event) {hosting : Hosting α β}
    (sound : hosting.Sound) :
    Left (hosting.tellShutDown (brought hosting.settings.maxFrameBytes.toNat) endpoint early late)
      (hosting.tellShutDown parted endpoint early late) hosting
      (hosting.shutDown endpoint early late) := by
  have signalled : Left [] [] hosting hosting.signal := .same sound rfl rfl
  have first := left_proceed early signalled.sound
  have closed : Left [] [] (hosting.signal.proceed early)
      ((hosting.signal.proceed early).close endpoint) :=
    .same first.sound (closeClients_exchange _ _) rfl
  have last := left_proceed late closed.sound
  rw [closed.settings, first.settings] at last
  exact signalled.trans (first.trans (closed.trans last))

theorem parted_shutDown (endpoint : Inet.Endpoint) (early late : List Event)
    (hosting : Hosting α β) :
    Parted (hosting.tellShutDown parted endpoint early late) hosting
      (hosting.shutDown endpoint early late) := by
  have signalled : Parted [] hosting hosting.signal := .same rfl
  have closed : Parted [] (hosting.signal.proceed early)
      ((hosting.signal.proceed early).close endpoint) := .same rfl
  exact signalled.trans ((parted_proceed early _).trans (closed.trans (parted_proceed late _)))

/-- A listening host shuts down, and all its sockets come to their ends. Then the queues hold what
they held before, without the messages of the clients that departed if the settings say so, and the
requests that were still decoded. Those that were served when the shutdown began are among the clients
that departed. So the queues are as they were exactly if departed clients are not purged or had
nothing queued. -/
theorem queues_after_shutdown (hosting : Hosting α β) (endpoint : Inet.Endpoint)
    (listening : hosting.server.listener = .listening endpoint)
    (requests : hosting.server.exchange.requests.queue.Reached)
    (responses : hosting.server.exchange.responses.Reached) (early late : List Event)
    (ended : ∀ socket ∈ (hosting.shutDown endpoint early late).sockets, socket.stage = .ended) :
    let after := hosting.shutDown endpoint early late
    let purges := hosting.settings.purgeOnDisconnect
    let departed := hosting.tellShutDown parted endpoint early late
    let arrived := hosting.tellShutDown (brought hosting.settings.maxFrameBytes.toNat) endpoint
      early late
    (early = [] → after = { hosting with server := hosting.server.shutdown.2 }.proceed late) ∧
      (∀ socket ∈ hosting.sockets, isServed socket → socket.id ∈ departed) ∧
      (∀ client ∈ departed, ∃ socket ∈ hosting.sockets,
        socket.id = client ∧ socket.stage ≠ .ended) ∧
      ∃ extra : Line α, extra.Sublist arrived ∧ (purges = false → extra = arrived) ∧
        after.requests = hosting.requests.filter (stays purges departed) ++ extra ∧
        after.responses = hosting.responses.filter (stays purges departed) ∧
        (after.requests = hosting.requests ++ extra ∧ after.responses = hosting.responses ↔
          purges = false ∨ ∀ client ∈ departed,
            hosting.server.exchange.requests.queue.hasFrom client = false ∧
              hosting.server.exchange.responses.hasFrom client = false) := by
  intro after purges departed arrived
  have sound : hosting.Sound := ⟨.ofReached requests, .ofReached responses⟩
  have left : Left arrived departed hosting after := left_shutDown endpoint early late sound
  have parts : Parted departed hosting after := parted_shutDown endpoint early late hosting
  obtain ⟨extra, kept, few, all⟩ := left.requests
  refine ⟨?_, ?_, ?_, extra, few, all, kept, left.responses, ?_⟩
  · rintro rfl
    exact shutDown_nil listening late
  · intro socket member served
    obtain ⟨place, found⟩ := List.mem_iff_getElem?.mp member
    rcases parts.served place socket found served with gone | ⟨socket', there, _, still⟩
    · exact gone
    · have done := ended socket' (List.mem_of_getElem? there)
      simp [isServed, done] at still
  · intro client member
    obtain ⟨place, socket, found, own, standing⟩ := parts.departs client member
    exact ⟨socket, List.mem_of_getElem? found, own, standing⟩
  · rw [kept, left.responses, List.append_left_inj]
    apply untouched_iff sound

def queuedOnce : Hosting Bytes Bytes :=
  let listening : Hosting Bytes Bytes := { server := (Server.listen .ok {} {}).2 }
  ((listening.accept? ⟨.loopback, 50000⟩).getD listening).proceed
    [(0, .asks Settings.defaultPath),
      (0, .receives [7, 0, 0, 0, 0, 0, 0, 0, 1, 0, 0, 0, 0, 0, 0, 0, 42])]

/-- The client is still served when the host shuts down, and so its request does not stay. -/
theorem request_purged_by_shutdown :
    let ends : List Event := [(0, .ends .shutdown), (0, .clears)]
    let after := queuedOnce.shutDown ⟨.loopback, 8167⟩ [] ends
    queuedOnce.server.isListening ∧ (∀ socket ∈ after.sockets, socket.stage = .ended) ∧
      ∃ extra : Line Bytes, extra.Sublist [] ∧
        ¬(after.requests = queuedOnce.requests ++ extra ∧
          after.responses = queuedOnce.responses) := by
  intro ends after
  have ended : ∀ socket ∈ after.sockets, socket.stage = .ended := by decide +kernel
  have reached : queuedOnce.server.exchange.requests.queue.Reached :=
    ⟨[.push ⟨.ofNat 1, ⟨7⟩, [42]⟩], rfl⟩
  have empty : queuedOnce.server.exchange.responses.Reached := ⟨[], rfl⟩
  obtain ⟨_, served, _, extra, few, _, _, _, iff⟩ := queues_after_shutdown queuedOnce
    ⟨.loopback, 8167⟩ (by decide +kernel) reached empty [] ends ended
  have departs : ClientId.ofNat 1 ∈ queuedOnce.tellShutDown parted ⟨.loopback, 8167⟩ [] ends := by
    decide +kernel
  refine ⟨by decide +kernel, ended, extra, few, ?_⟩
  intro same
  rcases iff.mp same with keeps | apart
  · exact absurd keeps (by decide)
  · exact absurd (apart _ departs).1 (by decide +kernel)

/-- Before the shutdown one request is queued, and when all sockets have ended none is. -/
theorem nothing_left_after_shutdown :
    let after := queuedOnce.shutDown ⟨.loopback, 8167⟩ [] [(0, .ends .shutdown), (0, .clears)]
    queuedOnce.requests = [⟨.ofNat 1, ⟨7⟩, [42]⟩] ∧
      (∀ socket ∈ after.sockets, socket.stage = .ended) ∧ after.requests = [] := by
  decide +kernel

end Hosting

end FrameLink.Host
