import FrameLink.Proofs.Host.Turns
import FrameLink.Proofs.Wire.Thrift
/-!
What an application that echoes owes to its clients. Every message that has been decoded is queued as
a request, in the hands of the application or queued as a response until it is written to the channel
of the socket that it came from. So what is written to a channel is what was received at its socket,
in order and as far as the application has come.
-/

namespace FrameLink.Host

open Wait

variable {α β : Type}

namespace Turn

def hand : Turn α → Line α
  | .answering envelope | .sending envelope | .writing envelope _ _ => [envelope]
  | _ => []

def addressed (channel : Nat) : Turn α → List Bytes
  | .writing _ target bytes => if target = channel then [bytes] else []
  | _ => []

@[simp] theorem addressed_ready (channel : Nat) : (Turn.ready : Turn α).addressed channel = [] := rfl

/-- All that is to be written, oldest first. -/
def pipeline (turn : Turn α) (responses requests : Line α) : Line α :=
  turn.hand ++ responses ++ requests

end Turn

section Owing

variable [Wire α]

def Line.echoesTo (client : ClientId) (line : Line α) : List Bytes :=
  (line.filter fun envelope => envelope.client == client).map fun envelope =>
    Wire.encode envelope.frame

def decodable? (limit : Nat) (data : Bytes) : Option (Frame α) :=
  (Frame.decode data limit).toOption

variable (α) in
/-- The frames that were received at a socket, as they are written again. -/
def Socket.echoes (limit : Nat) (socket : Socket) : List Bytes :=
  (socket.received.filterMap (decodable? (α := α) limit)).map Wire.encode

theorem Line.echoesTo_append (client : ClientId) (line more : Line α) :
    Line.echoesTo client (line ++ more) = line.echoesTo client ++ more.echoesTo client := by
  simp [echoesTo]

theorem Line.echoesTo_without {client other : ClientId} (different : client ≠ other)
    (line : Line α) : Line.echoesTo client (line.without other) = line.echoesTo client := by
  unfold echoesTo Line.without
  rw [List.filter_filter]
  congr 1
  apply List.filter_congr
  intro envelope _
  by_cases own : envelope.client = client
  · simp [own, different]
  · simp [own]

theorem Line.echoesTo_cons (client : ClientId) (envelope : Envelope α) (line : Line α) :
    Line.echoesTo client (envelope :: line) =
      if envelope.client = client then Wire.encode envelope.frame :: line.echoesTo client
      else line.echoesTo client := by
  unfold echoesTo
  split
  next own => simp [own]
  next other => simp [other]

theorem Socket.echoes_receive (limit : Nat) (socket : Socket) (data : Bytes) :
    Socket.echoes α limit { socket with received := socket.received ++ [data] } =
      socket.echoes α limit ++
        ((decodable? (α := α) limit data).map Wire.encode).toList := by
  unfold echoes
  rw [List.filterMap_append, List.map_append]
  cases decoded : decodable? (α := α) limit data <;> simp [decoded]

/-- What was written to the channel of a socket, and what is still to be. -/
structure Owed (limit : Nat) (pipeline : Line α) (turn : Turn α) (isRead : Bool)
    (socket : Socket) (channel : Nat) (written : List Bytes) : Prop where
  /-- while the socket is served nothing is lost -/
  all : isRead = true → socket.stage = .serving →
    written ++ pipeline.echoesTo socket.id = socket.echoes α limit
  /-- afterwards only what is being written may still come -/
  last : isRead = true → socket.stage ≠ .serving →
    written ++ turn.addressed channel <+: socket.echoes α limit
  ever : written <+: socket.echoes α limit

theorem Owed.adjust {limit : Nat} {pipeline after : Line α} {turn : Turn α} {isRead reads : Bool}
    {socket socket' : Socket} {channel : Nat} {written : List Bytes}
    (owed : Owed limit pipeline turn isRead socket channel written)
    (still : reads = true → isRead = true)
    (served : socket'.stage = .serving ↔ socket.stage = .serving)
    (same : socket.stage = .serving →
      after.echoesTo socket'.id = pipeline.echoesTo socket.id)
    (echoes : socket'.echoes α limit = socket.echoes α limit) :
    Owed limit after turn reads socket' channel written where
  all reads serving := by
    rw [same (served.mp serving), echoes]
    exact owed.all (still reads) (served.mp serving)
  last reads left := by
    rw [echoes]
    exact owed.last (still reads) (mt served.mpr left)
  ever := echoes ▸ owed.ever

/-- Every request and response comes from a socket that has been served, and may be written. -/
def Known (limit : Nat) (sockets : List Socket) (line : Line α) : Prop :=
  ∀ envelope ∈ line, (∃ socket ∈ sockets, socket.id = envelope.client ∧ socket.channel ≠ none) ∧
    Wire.size envelope.frame ≤ limit

structure InHand (sockets : List Socket) (responses : Line α) (turn : Turn α) : Prop where
  alive : ∀ fault, turn ≠ .stopped fault
  own : ∀ envelope ∈ responses, turn = .responding envelope.client
  single : responses.length ≤ 1
  writing : ∀ response channel bytes, turn = .writing response channel bytes →
    bytes = Wire.encode response.frame ∧
      ∃ socket ∈ sockets, socket.id = response.client ∧ socket.channel = some channel

theorem InHand.nothing {sockets : List Socket} {responses : Line α} {turn : Turn α}
    (inHand : InHand sockets responses turn) (elsewhere : ∀ client, turn ≠ .responding client) :
    responses = [] := by
  cases responses with
  | nil => rfl
  | cons envelope rest => exact absurd (inHand.own envelope (List.mem_cons_self ..)) (elsewhere _)

theorem InHand.one {sockets : List Socket} {responses : Line α} {turn : Turn α}
    (inHand : InHand sockets responses turn) {client : ClientId} {response : Envelope α}
    (found : (responses.find? fun envelope => envelope.client == client) = some response) :
    responses = [response] := by
  obtain ⟨only, rfl⟩ := List.length_eq_one_iff.mp
    (le_antisymm inHand.single (List.length_pos_of_mem (List.mem_of_find?_eq_some found)))
  rw [List.mem_singleton.mp (List.mem_of_find?_eq_some found)]

def Extends (sockets more : List Socket) : Prop :=
  ∀ socket ∈ sockets, ∃ after ∈ more, after.id = socket.id ∧
    ∀ channel, socket.channel = some channel → after.channel = some channel

theorem Known.extend {limit : Nat} {sockets more : List Socket} {line : Line α}
    (known : Known limit sockets line) (extended : Extends sockets more) :
    Known limit more line := by
  intro envelope member
  obtain ⟨⟨socket, there, own, served⟩, fits⟩ := known envelope member
  obtain ⟨after, last, same, kept⟩ := extended socket there
  obtain ⟨channel, its⟩ := Option.ne_none_iff_exists'.mp served
  exact ⟨⟨after, last, same.trans own, by simp [kept channel its]⟩, fits⟩

theorem InHand.extend {sockets more : List Socket} {responses : Line α} {turn : Turn α}
    (inHand : InHand sockets responses turn) (extended : Extends sockets more) :
    InHand more responses turn where
  alive := inHand.alive
  own := inHand.own
  single := inHand.single
  writing response channel bytes same := by
    obtain ⟨encoded, socket, there, own, its⟩ := inHand.writing response channel bytes same
    obtain ⟨after, last, again, kept⟩ := extended socket there
    exact ⟨encoded, after, last, again.trans own, kept channel its⟩

theorem InHand.fewer {sockets : List Socket} {responses fewer : Line α} {turn : Turn α}
    (inHand : InHand sockets responses turn) (sub : fewer.Sublist responses) :
    InHand sockets fewer turn where
  alive := inHand.alive
  own envelope member := inHand.own envelope (sub.subset member)
  single := sub.length_le.trans inHand.single
  writing := inHand.writing

theorem InHand.silent (sockets : List Socket) {turn : Turn α}
    (alive : ∀ fault, turn ≠ .stopped fault)
    (silent : ∀ response channel bytes, turn ≠ .writing response channel bytes) :
    InHand sockets [] turn where
  alive := alive
  own envelope member := by simp at member
  single := Nat.zero_le _
  writing response channel bytes same := absurd same (silent _ _ _)

end Owing

theorem Turn.IsIdle.elsewhere {turn : Turn α} (idle : turn.IsIdle) (client : ClientId) :
    turn ≠ .responding client := by
  rintro rfl
  exact idle

theorem Turn.IsIdle.hand {turn : Turn α} (idle : turn.IsIdle) : turn.hand = [] := by
  cases turn <;> first | rfl | exact idle.elim

theorem Turn.IsIdle.addressed {turn : Turn α} (idle : turn.IsIdle) (channel : Nat) :
    turn.addressed channel = [] := by
  cases turn <;> first | rfl | exact idle.elim

namespace Echo

variable [Wire α] {host : Echo α} {requests responses : Line α} {channels : Channels}
  {turn : Turn α}

def pipeline (host : Echo α) : Line α :=
  host.turn.pipeline host.hosting.responses host.hosting.requests

/-- How a turn gets on with what is to be written: it keeps all of it, or is done with the oldest. -/
inductive Advances (host : Echo α) (rest : Line α) (channels : Channels) : Turn α → Prop
  | keeps (turn : Turn α) (same : rest = host.pipeline)
      (silent : ∀ channel, turn.addressed channel = [])
      (still : channels = host.hosting.server.board.channels) : Advances host rest channels turn
  | addresses (response : Envelope α) (channel : Nat) (same : rest = host.pipeline)
      (still : channels = host.hosting.server.board.channels)
      (known : host.hosting.server.board.channelOf response.client = some channel) :
    Advances host rest channels (.writing response channel (Wire.encode response.frame))
  | misses (response : Envelope α) (done : host.pipeline = response :: rest)
      (still : channels = host.hosting.server.board.channels)
      (unknown : host.hosting.server.board.channelOf response.client = none) :
    Advances host rest channels .ready
  | writes (response : Envelope α) (channel : Nat) (bytes : Bytes)
      (own : host.turn = .writing response channel bytes) (done : host.pipeline = response :: rest)
      (written : channels = (host.hosting.server.board.channels.write channel bytes).2) :
    Advances host rest channels .ready

/-- A turn goes on as long as what is to be written may be written and the registry runs. -/
theorem Goes.advances (goes : Goes host requests responses channels turn)
    (inHand : InHand host.hosting.sockets host.hosting.responses host.turn)
    (known : Known host.hosting.server.frameLimit host.hosting.sockets host.pipeline)
    (running : host.hosting.server.board.registry ≠ none) :
    Advances host (turn.pipeline responses requests) channels turn := by
  cases goes with
  | takes request rest idle first =>
    have empty := inHand.nothing idle.elsewhere
    refine .keeps _ ?_ (fun _ => rfl) rfl
    rw [pipeline, Turn.pipeline, Turn.pipeline, idle.hand, empty, first]
    rfl
  | waits turn idle still =>
    refine .keeps _ ?_ still.addressed rfl
    simp [pipeline, Turn.pipeline, idle.hand, still.hand]
  | responds request own =>
    have empty := inHand.nothing (by simp [own])
    refine .keeps _ ?_ (fun _ => rfl) rfl
    simp [pipeline, Turn.pipeline, own, empty, Turn.hand]
  | fetches client response own found =>
    have one := inHand.one found
    refine .keeps _ ?_ (fun _ => rfl) rfl
    rw [one] at found
    simp [pipeline, Turn.pipeline, own, Turn.hand, one, List.find?_some found]
  | finds client own absent =>
    refine .keeps _ ?_ (fun _ => rfl) rfl
    simp [pipeline, Turn.pipeline, own, Turn.hand]
  | addresses response channel own fits known =>
    refine .addresses response channel ?_ rfl known
    simp [pipeline, Turn.pipeline, own, Turn.hand]
  | misses response own unknown =>
    refine .misses response ?_ rfl unknown
    simp [pipeline, Turn.pipeline, own, Turn.hand]
  | fails response fault own reason =>
    rcases reason with large | ended
    · have fits := (known response (by simp [pipeline, Turn.pipeline, own, Turn.hand])).2
      exact absurd large (not_lt.mpr fits)
    · exact absurd ended running
  | writes response channel bytes own =>
    refine .writes response channel bytes own ?_ rfl
    simp [pipeline, Turn.pipeline, own, Turn.hand]

theorem Goes.inHand (goes : Goes host requests responses channels turn)
    (inHand : InHand host.hosting.sockets host.hosting.responses host.turn)
    (known : Known host.hosting.server.frameLimit host.hosting.sockets host.pipeline)
    (wired : host.hosting.Wired) : InHand host.hosting.sockets responses turn := by
  cases goes with
  | takes request rest idle first =>
    rw [inHand.nothing idle.elsewhere]
    exact .silent _ (by simp) (by simp)
  | waits turn idle still =>
    rw [inHand.nothing idle.elsewhere]
    refine .silent _ ?_ ?_
    · rintro fault rfl
      exact still
    · rintro response channel bytes rfl
      exact still
  | responds request own =>
    rw [inHand.nothing (by simp [own])]
    constructor
    · simp
    · intro envelope member
      rw [List.mem_singleton.mp member]
    · exact le_refl _
    · simp
  | fetches client response own found =>
    have one := inHand.one found
    rw [one] at found ⊢
    rw [List.eraseP_cons_of_pos (List.find?_some found)]
    exact .silent _ (by simp) (by simp)
  | finds client own absent =>
    have empty : host.hosting.responses = [] := by
      by_contra some
      obtain ⟨envelope, member⟩ := List.exists_mem_of_ne_nil _ some
      have mine := inHand.own envelope member
      rw [own, Turn.responding.injEq] at mine
      exact List.find?_eq_none.mp absent envelope member (by simp [mine])
    rw [empty]
    exact .silent _ (by simp) (by simp)
  | addresses response channel own fits known =>
    rw [inHand.nothing (by simp [own])]
    constructor
    · simp
    · simp
    · exact Nat.zero_le _
    · intro other target bytes same
      obtain ⟨rfl, rfl, rfl⟩ := same
      obtain ⟨socket, member, mine, _, its⟩ := (wired.listed _ _).mp known
      exact ⟨rfl, socket, member, mine, its⟩
  | misses response own unknown =>
    rw [inHand.nothing (by simp [own])]
    exact .silent _ (by simp) (by simp)
  | fails response fault own reason =>
    rcases reason with large | ended
    · have fits := (known response (by simp [pipeline, Turn.pipeline, own, Turn.hand])).2
      exact absurd large (not_lt.mpr fits)
    · exact absurd ended wired.running
  | writes response channel bytes own =>
    rw [inHand.nothing (by simp [own])]
    exact .silent _ (by simp) (by simp)

/-- What holds of a host at any time, with what has been written to each channel so far. -/
structure Sane (written : Nat → List Bytes) (host : Echo α) : Prop where
  sound : host.hosting.Sound
  takes : host.hosting.server.OnlyTakes
  limit : host.hosting.server.frameLimit = host.hosting.settings.maxFrameBytes.toNat
  wired : host.hosting.Wired
  inHand : InHand host.hosting.sockets host.hosting.responses host.turn
  known : Known host.hosting.server.frameLimit host.hosting.sockets host.pipeline
  unwritten : ∀ channel, host.hosting.server.board.channels.next ≤ channel → written channel = []
  owed : ∀ socket ∈ host.hosting.sockets, ∀ channel, socket.channel = some channel →
    Owed host.hosting.server.frameLimit host.pipeline host.turn
      (host.hosting.server.board.channels.isRead channel) socket channel (written channel)

theorem Advances.isRead_eq {rest : Line α} (advances : Advances host rest channels turn) :
    channels.next = host.hosting.server.board.channels.next ∧
      ∀ channel, channels.isRead channel = host.hosting.server.board.channels.isRead channel := by
  cases advances with
  | keeps turn same silent still => rw [still]; exact ⟨rfl, fun _ => rfl⟩
  | addresses response channel same still known => rw [still]; exact ⟨rfl, fun _ => rfl⟩
  | misses response done still unknown => rw [still]; exact ⟨rfl, fun _ => rfl⟩
  | writes response channel bytes own done written =>
    rw [written]
    refine ⟨rfl, fun other => ?_⟩
    rw [Channels.isRead_eq, Channels.isRead_eq, Channels.at?_write, Option.isSome_map]

theorem Advances.subset {rest : Line α} (advances : Advances host rest channels turn) :
    rest ⊆ host.pipeline := by
  cases advances with
  | keeps turn same | addresses response channel same => exact same ▸ List.Subset.refl _
  | misses response done | writes response channel bytes own done =>
    rw [done]
    exact List.subset_cons_self ..

theorem written_to_own {limit : Nat} {socket : Socket} {channel : Nat} {isRead : Bool}
    {written : List Bytes} {response : Envelope α} {bytes : Bytes} {rest : Line α}
    (owed : Owed limit host.pipeline host.turn isRead socket channel written)
    (own : host.turn = .writing response channel bytes) (done : host.pipeline = response :: rest)
    (encoded : bytes = Wire.encode response.frame) (mine : response.client = socket.id) :
    Owed limit rest .ready isRead socket channel
      (written ++ if channel = channel ∧ isRead = true then [bytes] else []) := by
  cases isRead with
  | false =>
    rw [if_neg (by simp), List.append_nil]
    exact ⟨by simp, by simp, owed.ever⟩
  | true =>
    rw [if_pos ⟨rfl, rfl⟩]
    have all : socket.stage = .serving →
        written ++ [bytes] ++ rest.echoesTo socket.id = socket.echoes α limit := by
      intro serving
      rw [← owed.all rfl serving, done, Line.echoesTo_cons, if_pos mine, encoded,
        List.append_assoc, List.singleton_append]
    have ever : written ++ [bytes] <+: socket.echoes α limit := by
      by_cases serving : socket.stage = .serving
      · exact ⟨_, all serving⟩
      · have last := owed.last rfl serving
        rwa [own, Turn.addressed, if_pos rfl] at last
    refine ⟨fun _ serving => all serving, ?_, ever⟩
    intro _ _
    rw [Turn.addressed_ready, List.append_nil]
    exact ever

/-- What is owed to a socket stays owed until it is written. -/
theorem Advances.owed {written : Nat → List Bytes} {rest : Line α}
    (advances : Advances host rest channels turn) (sane : Sane written host)
    (numbered : host.hosting.Numbered) {socket : Socket}
    (member : socket ∈ host.hosting.sockets) {channel : Nat}
    (its : socket.channel = some channel) :
    Owed host.hosting.server.frameLimit rest turn (channels.isRead channel) socket channel
      (written channel ++ Channels.appended channel host.hosting.server.board.channels channels) := by
  have owed := sane.owed socket member channel its
  rw [advances.isRead_eq.2]
  cases advances with
  | keeps turn same silent still =>
    rw [still, Channels.appended_same rfl, List.append_nil, same]
    refine ⟨owed.all, ?_, owed.ever⟩
    intro _ _
    rw [silent, List.append_nil]
    exact owed.ever
  | addresses response target same still known =>
    rw [still, Channels.appended_same rfl, List.append_nil, same]
    refine ⟨owed.all, ?_, owed.ever⟩
    intro _ left
    have other : target ≠ channel := by
      rintro rfl
      obtain ⟨served, there, _, serving, theirs⟩ := (sane.wired.listed _ _).mp known
      obtain rfl := sane.wired.apart served there socket member target theirs its
      exact left serving
    rw [Turn.addressed, if_neg other, List.append_nil]
    exact owed.ever
  | misses response done still unknown =>
    rw [still, Channels.appended_same rfl, List.append_nil]
    refine ⟨?_, ?_, owed.ever⟩
    · intro isRead serving
      have other : response.client ≠ socket.id := by
        rintro same
        rw [same, (sane.wired.listed _ _).mpr ⟨socket, member, rfl, serving, its⟩] at unknown
        cases unknown
      rw [← owed.all isRead serving, done, Line.echoesTo_cons, if_neg other]
    · intro _ _
      rw [Turn.addressed_ready, List.append_nil]
      exact owed.ever
  | writes response target bytes own done change =>
    obtain ⟨encoded, served, there, mine, theirs⟩ := sane.inHand.writing _ _ _ own
    rw [change, Channels.appended_write]
    by_cases same : channel = target
    · subst same
      obtain rfl := sane.wired.apart served there socket member channel theirs its
      refine written_to_own ?_ own done encoded mine.symm
      exact owed
    · have other : response.client ≠ socket.id := by
        intro one
        obtain rfl := List.inj_on_of_nodup_map numbered there member (mine.trans one)
        rw [its, Option.some.injEq] at theirs
        exact same theirs
      rw [if_neg (fun both => same both.1), List.append_nil]
      refine ⟨?_, ?_, owed.ever⟩
      · intro isRead serving
        rw [← owed.all isRead serving, done, Line.echoesTo_cons, if_neg other]
      · intro _ _
        rw [Turn.addressed_ready, List.append_nil]
        exact owed.ever

theorem Sane.proceeds {written : Nat → List Bytes} {after : Echo α} (sane : Sane written host)
    (numbered : host.hosting.Numbered) (proceeds : Proceeds host after) :
    Sane (fun channel => written channel ++ Channels.appended channel
      host.hosting.server.board.channels after.hosting.server.board.channels) after := by
  obtain ⟨keeps, goes⟩ := proceeds
  have advances := goes.advances sane.inHand sane.known sane.wired.running
  have inHand := goes.inHand sane.inHand sane.known sane.wired
  have next := advances.isRead_eq.1
  have unread : ∀ channel, host.hosting.server.board.channels.at? channel = none →
      after.hosting.server.board.channels.at? channel = none := by
    intro channel none
    have same := advances.isRead_eq.2 channel
    rwa [Channels.isRead_eq, Channels.isRead_eq, none, Option.isSome_none,
      Option.isSome_eq_false_iff, Option.isNone_iff_eq_none] at same
  constructor
  · exact keeps.sound
  · exact keeps.takes
  · rw [keeps.frameLimit, keeps.settings, sane.limit]
  · exact sane.wired.congr keeps.sockets keeps.registry next unread
  · rw [keeps.sockets]
    exact inHand
  · rw [keeps.sockets, keeps.frameLimit]
    exact fun envelope member => sane.known envelope (advances.subset member)
  · intro channel beyond
    rw [next] at beyond
    rw [sane.unwritten channel beyond, List.nil_append]
    exact Channels.appended_nil (.inl (unread channel (sane.wired.fresh channel beyond)))
  · intro socket member channel its
    rw [keeps.sockets] at member
    rw [keeps.frameLimit]
    exact advances.owed sane numbered member its

/-! ## Sockets -/

inductive Queued (hosting : Hosting α α) (socket : Socket) : Line α → Line α → Prop
  | same : Queued hosting socket hosting.requests hosting.responses
  | arrives (frame : Frame α) (serving : socket.stage = .serving)
      (fits : Wire.size frame ≤ hosting.settings.maxFrameBytes.toNat) :
    Queued hosting socket
      (hosting.requests ++ [⟨socket.id, frame.correlation, frame.body⟩]) hosting.responses
  | clears : Queued hosting socket (hosting.requests.without socket.id)
      (hosting.responses.without socket.id)

section Happenings

variable {hosting : Hosting α α} {happening : Happening} {socket socket' : Socket}
  {exchange : Exchange α α} {board : Switchboard}

theorem queued_of_occurs [Wire.Thrifty α]
    (occurs : hosting.Occurs socket happening exchange board socket') (sound : hosting.Sound) :
    exchange.requests.queue.Sound ∧ exchange.responses.Sound ∧
      Queued hosting socket exchange.requests.queue.messages exchange.responses.messages := by
  cases occurs with
  | queues serving frame decoded =>
    refine ⟨sound.requests.push _, sound.responses, ?_⟩
    have queued := sound.requests.messages_push ⟨socket.id, frame.correlation, frame.body⟩
    change Queued hosting socket (Queues.messages (Queues.push _ _)) _
    rw [queued]
    exact .arrives frame serving (Frame.size_le_of_decode decoded)
  | clears leaving =>
    cases purges : hosting.settings.purgeOnDisconnect with
    | false => exact ⟨sound.requests, sound.responses, .same⟩
    | true =>
      refine ⟨sound.requests.purge _, sound.responses.purge _, ?_⟩
      change Queued hosting socket (Queues.messages (Queues.purge _ _).2)
        (Queues.messages (Queues.purge _ _).2)
      rw [sound.requests.messages_purge, sound.responses.messages_purge]
      exact .clears
  | registers | turnedAway | discards | control | givesUp | leaves | sends | sendFails =>
    exact ⟨sound.requests, sound.responses, .same⟩

theorem Queued.echoesTo (queued : Queued hosting socket requests responses) (turn : Turn α)
    {client : ClientId} (other : client ≠ socket.id) :
    (turn.pipeline responses requests).echoesTo client =
      (turn.pipeline hosting.responses hosting.requests).echoesTo client := by
  unfold Turn.pipeline
  simp only [Line.echoesTo_append]
  cases queued with
  | same => rfl
  | arrives frame serving fits =>
    rw [Line.echoesTo_append, Line.echoesTo_cons, if_neg (Ne.symm other)]
    simp [Line.echoesTo]
  | clears => rw [Line.echoesTo_without other, Line.echoesTo_without other]

theorem Queued.responses_sublist (queued : Queued hosting socket requests responses) :
    responses.Sublist hosting.responses := by
  cases queued with
  | same | arrives => exact List.Sublist.refl _
  | clears => exact List.filter_sublist

theorem Queued.known (queued : Queued hosting socket requests responses) {turn : Turn α}
    {sockets : List Socket}
    (known : Known hosting.settings.maxFrameBytes.toNat sockets
      (turn.pipeline hosting.responses hosting.requests))
    (served : socket.stage = .serving → ∃ own ∈ sockets, own.id = socket.id ∧ own.channel ≠ none) :
    Known hosting.settings.maxFrameBytes.toNat sockets (turn.pipeline responses requests) := by
  unfold Turn.pipeline at known ⊢
  intro envelope member
  cases queued with
  | same => exact known envelope member
  | arrives frame serving fits =>
    rw [← List.append_assoc] at member
    rcases List.mem_append.mp member with old | new
    · exact known envelope old
    · rw [List.mem_singleton.mp new]
      exact ⟨served serving, fits⟩
  | clears =>
    apply known envelope
    have sub : (turn.hand ++ hosting.responses.without socket.id ++
        hosting.requests.without socket.id).Sublist
        (turn.hand ++ hosting.responses ++ hosting.requests) :=
      ((List.Sublist.refl _).append List.filter_sublist).append List.filter_sublist
    exact sub.subset member

end Happenings

/-- What is being written to a channel is the oldest that is owed to its socket. -/
theorem Sane.addressed_prefix {written : Nat → List Bytes} (sane : Sane written host)
    {socket : Socket} (member : socket ∈ host.hosting.sockets) {channel : Nat}
    (its : socket.channel = some channel) :
    host.turn.addressed channel <+: host.pipeline.echoesTo socket.id := by
  cases own : host.turn with
  | writing response target bytes =>
    by_cases same : target = channel
    · subst same
      obtain ⟨encoded, served, there, mine, theirs⟩ := sane.inHand.writing _ _ _ own
      obtain rfl := sane.wired.apart served there socket member target theirs its
      rw [Turn.addressed, if_pos rfl, pipeline, Turn.pipeline, own, Turn.hand, List.append_assoc,
        List.singleton_append, Line.echoesTo_cons, if_pos mine.symm, encoded]
      exact List.prefix_append _ _
    · rw [Turn.addressed, if_neg same]
      exact List.nil_prefix
  | ready | waiting | answering | responding | sending | stopped => exact List.nil_prefix

theorem Sane.nothing_for {written : Nat → List Bytes} (sane : Sane written host)
    (numbered : host.hosting.Numbered) {socket : Socket}
    (member : socket ∈ host.hosting.sockets) (unserved : socket.channel = none) :
    host.pipeline.echoesTo socket.id = [] := by
  unfold Line.echoesTo
  rw [List.map_eq_nil_iff, List.filter_eq_nil_iff]
  intro envelope queued own
  rw [beq_iff_eq] at own
  obtain ⟨⟨other, there, same, served⟩, _⟩ := sane.known envelope queued
  obtain rfl := List.inj_on_of_nodup_map numbered there member (same.trans own)
  exact served unserved

variable {place : Nat} {happening : Happening} {socket socket' : Socket}
  {exchange : Exchange α α} {board : Switchboard}

/-- A socket that has just been registered is owed nothing yet. -/
theorem Sane.owed_registered {written : Nat → List Bytes} (sane : Sane written host)
    (numbered : host.hosting.Numbered) (member : socket ∈ host.hosting.sockets)
    (opening : socket.stage = .opening) (isRead : Bool) :
    Owed host.hosting.server.frameLimit host.pipeline host.turn isRead
      { socket with stage := .serving, channel := some host.hosting.server.board.channels.next }
      host.hosting.server.board.channels.next
      (written host.hosting.server.board.channels.next) := by
  have unserved := sane.wired.opening socket member opening
  have nothing := sane.nothing_for numbered member unserved
  have silence : socket.echoes α host.hosting.server.frameLimit = [] := by
    rw [Socket.echoes, (sane.wired.unserved socket member unserved).1]
    rfl
  rw [sane.unwritten _ (le_refl _)]
  refine ⟨fun _ _ => ?_, fun _ left => absurd rfl left, List.nil_prefix⟩
  exact nothing.trans silence.symm

/-- A request that comes is echoed behind all that is owed already. -/
theorem Sane.owed_queued {written : Nat → List Bytes} (sane : Sane written host)
    (member : socket ∈ host.hosting.sockets) (serving : socket.stage = .serving) {data : Bytes}
    {frame : Frame α}
    (decoded : Frame.decode data host.hosting.settings.maxFrameBytes.toNat = .ok frame)
    {channel : Nat} (its : socket.channel = some channel) :
    Owed host.hosting.server.frameLimit
      (host.turn.pipeline host.hosting.responses
        (host.hosting.server.exchange.requests.queue.push
          ⟨socket.id, frame.correlation, frame.body⟩).messages) host.turn
      (host.hosting.server.board.channels.isRead channel)
      { socket with received := socket.received ++ [data] } channel (written channel) := by
  have owed := sane.owed socket member channel its
  have more : Socket.echoes α host.hosting.server.frameLimit
      { socket with received := socket.received ++ [data] } =
        socket.echoes α host.hosting.server.frameLimit ++ [Wire.encode frame] := by
    rw [Socket.echoes_receive, decodable?, sane.limit, decoded]
    rfl
  constructor
  · intro isRead _
    rw [more, ← owed.all isRead serving, List.append_assoc]
    congr 1
    have queued := sane.sound.requests.messages_push ⟨socket.id, frame.correlation, frame.body⟩
    change Line.echoesTo _ (_ ++ _ ++ Queues.messages (Queues.push _ _)) = _
    rw [queued, ← List.append_assoc, Line.echoesTo_append, Line.echoesTo_cons, if_pos rfl]
    rfl
  · intro _ left
    exact absurd serving left
  · rw [more]
    exact owed.ever.trans (List.prefix_append _ _)

/-- What a socket is owed after something has happened at it. -/
theorem Sane.owed_own {written : Nat → List Bytes} (sane : Sane written host)
    (numbered : host.hosting.Numbered) (found : host.hosting.sockets[place]? = some socket)
    (occurs : host.hosting.Occurs socket happening exchange board socket') {channel : Nat}
    (its : socket'.channel = some channel) :
    Owed host.hosting.server.frameLimit
      (host.turn.pipeline exchange.responses.messages exchange.requests.queue.messages) host.turn
      (board.channels.isRead channel) socket' channel (written channel) := by
  have member := List.mem_of_getElem? found
  cases occurs with
  | registers opening =>
    cases its
    exact sane.owed_registered numbered member opening _
  | turnedAway opening | givesUp opening =>
    rw [sane.wired.opening socket member opening] at its
    cases its
  | queues serving frame decoded => exact sane.owed_queued member serving decoded its
  | discards serving fault undecoded =>
    refine (sane.owed socket member channel its).adjust id ?_ ?_ ?_
    · exact Iff.rfl
    · exact fun _ => rfl
    · rw [Socket.echoes_receive, decodable?, sane.limit, undecoded]
      exact List.append_nil _
  | control => exact sane.owed socket member channel its
  | leaves serving =>
    have owed := sane.owed socket member channel its
    constructor
    · intro _ still
      cases still
    · intro isRead _
      change written channel ++ host.turn.addressed channel <+: socket.echoes α _
      rw [← owed.all isRead serving]
      exact (List.prefix_append_right_inj _).mpr (sane.addressed_prefix member its)
    · exact owed.ever
  | clears leaving =>
    refine (sane.owed socket member channel its).adjust id ?_ ?_ ?_
    · simp [leaving]
    · simp [leaving]
    · rfl
  | sends target =>
    refine (sane.owed socket member channel its).adjust ?_ ?_ ?_ ?_
    · rw [Channels.isRead_eq, Channels.isRead_eq, Channels.at?_read, Option.isSome_map]
      exact id
    · exact Iff.rfl
    · exact fun _ => rfl
    · rfl
  | sendFails target =>
    refine (sane.owed socket member channel its).adjust ?_ Iff.rfl (fun _ => rfl) rfl
    rw [Channels.isRead_eq, Channels.isRead_eq, Channels.at?_drop]
    split
    · simp
    · exact id

theorem Sane.occurs [Wire.Thrifty α] {written : Nat → List Bytes} (sane : Sane written host)
    (numbered : host.hosting.Numbered) (found : host.hosting.sockets[place]? = some socket)
    (occurs : host.hosting.Occurs socket happening exchange board socket') :
    Sane (fun channel => written channel ++ Channels.appended channel
        host.hosting.server.board.channels board.channels)
      { host with hosting := host.hosting.become place exchange board socket' } := by
  have member := List.mem_of_getElem? found
  have sockets := Hosting.mem_set_iff numbered found socket'
  obtain ⟨requestsSound, responsesSound, queued⟩ := queued_of_occurs occurs sane.sound
  have extended : Extends host.hosting.sockets (host.hosting.sockets.set place socket') := by
    intro other there
    by_cases own : other.id = socket.id
    · obtain rfl := List.inj_on_of_nodup_map numbered there member own
      exact ⟨socket', (sockets _).mpr (.inl rfl), occurs.id_eq,
        fun _ => occurs.kept sane.wired member⟩
    · exact ⟨other, (sockets _).mpr (.inr ⟨there, own⟩), rfl, fun _ its => its⟩
  have limit := sane.limit
  constructor
  · exact ⟨requestsSound, responsesSound⟩
  · exact sane.takes
  · exact limit
  · exact occurs.wired sane.wired numbered found
  · exact (sane.inHand.fewer queued.responses_sublist).extend extended
  · refine Known.extend ?_ extended
    change Known host.hosting.server.frameLimit _ _
    have known := sane.known
    rw [limit] at known ⊢
    apply queued.known known
    intro serving
    exact ⟨socket, member, rfl, fun none => (sane.wired.unserved socket member none).2 serving⟩
  · intro channel beyond
    rw [occurs.appended sane.wired, List.append_nil]
    exact sane.unwritten channel (occurs.next_le.trans beyond)
  · intro other there channel its
    dsimp only
    rw [occurs.appended sane.wired, List.append_nil]
    rcases (sockets other).mp there with rfl | ⟨old, different⟩
    · exact sane.owed_own numbered found occurs its
    · refine (sane.owed other old channel its).adjust ?_ Iff.rfl ?_ rfl
      · have apart : socket.channel ≠ some channel := by
          intro own
          exact different (congrArg Socket.id (sane.wired.apart other old socket member channel its
            own))
        have same := occurs.isRead_other sane.wired (sane.wired.given other old channel its) apart
        exact fun reads => same ▸ reads
      · intro _
        exact queued.echoesTo host.turn different

theorem Sane.accept {written : Nat → List Bytes} (sane : Sane written host)
    {remote : Inet.Endpoint} {hosting : Hosting α α}
    (accepted : host.hosting.accept? remote = some hosting) :
    Sane written { host with hosting } := by
  have wired := sane.wired.accept accepted
  unfold Hosting.accept? at accepted
  split at accepted <;> cases accepted
  have extended : Extends host.hosting.sockets (host.hosting.sockets ++
      [{ id := .ofNat (host.hosting.sockets.length + 1), remote }]) := by
    intro socket there
    exact ⟨socket, List.mem_append_left _ there, rfl, fun _ its => its⟩
  constructor
  · exact ⟨sane.sound.requests, sane.sound.responses⟩
  · exact sane.takes
  · exact sane.limit
  · exact wired
  · exact sane.inHand.extend extended
  · exact sane.known.extend extended
  · exact sane.unwritten
  · intro socket there channel its
    rcases List.mem_append.mp there with old | new
    · exact sane.owed socket old channel its
    · rw [List.mem_singleton.mp new] at its
      cases its

/-! ## A run -/

/-- What is written to a channel in the course of some moves. -/
def written (channel : Nat) : List Move → Echo α → List Bytes
  | [], _ => []
  | move :: rest, host =>
    let after := (host.step? move).getD host
    Channels.appended channel host.hosting.server.board.channels after.hosting.server.board.channels
      ++ written channel rest after

theorem Sane.step [Wire.Thrifty α] {before : Nat → List Bytes} (sane : Sane before host)
    (numbered : host.hosting.Numbered) {move : Move} {after : Echo α}
    (step : host.step? move = some after) :
    Sane (fun channel => before channel ++ Channels.appended channel
      host.hosting.server.board.channels after.hosting.server.board.channels) after := by
  cases move with
  | accepts remote =>
    simp only [step?, Option.bind_eq_bind, Option.bind_eq_some_iff] at step
    obtain ⟨hosting, accepted, step⟩ := step
    cases step
    have same : hosting.server = host.hosting.server := by
      unfold Hosting.accept? at accepted
      split at accepted <;> cases accepted
      rfl
    simp only [same, Channels.appended_same, List.append_nil]
    exact sane.accept accepted
  | socket place happening =>
    simp only [step?, Option.bind_eq_bind, Option.bind_eq_some_iff] at step
    obtain ⟨hosting, happened, step⟩ := step
    cases step
    obtain ⟨socket, found, exchange, board, socket', occurs, rfl⟩ := Hosting.step_occurs happened
    exact sane.occurs numbered found occurs
  | goesOn => exact sane.proceeds numbered (goOn?_proceeds sane.sound sane.takes step)
  | lapses => exact sane.proceeds numbered (lapse?_proceeds sane.sound sane.takes step)

def ids (host : Echo α) : List ClientId := host.hosting.sockets.map (·.id)

theorem step_ids [Wire.Thrifty α] {move : Move} {after : Echo α} (sound : host.hosting.Sound)
    (takes : host.hosting.server.OnlyTakes) (step : host.step? move = some after) :
    after.hosting.Sound ∧ after.hosting.server.OnlyTakes ∧ host.ids <+: after.ids ∧
      after.hosting.settings = host.hosting.settings := by
  cases move with
  | accepts remote =>
    simp only [step?, Option.bind_eq_bind, Option.bind_eq_some_iff] at step
    obtain ⟨hosting, accepted, step⟩ := step
    cases step
    unfold Hosting.accept? at accepted
    split at accepted <;> cases accepted
    refine ⟨⟨sound.requests, sound.responses⟩, takes, ?_, rfl⟩
    simp [ids]
  | socket place happening =>
    simp only [step?, Option.bind_eq_bind, Option.bind_eq_some_iff] at step
    obtain ⟨hosting, happened, step⟩ := step
    cases step
    obtain ⟨socket, found, exchange, board, socket', occurs, rfl⟩ := Hosting.step_occurs happened
    obtain ⟨requests, responses, _⟩ := queued_of_occurs occurs sound
    refine ⟨⟨requests, responses⟩, takes, ?_, rfl⟩
    rw [ids, ids, Hosting.become_sockets, Hosting.ids_set found occurs.id_eq]
  | goesOn =>
    have keeps := (goOn?_proceeds sound takes step).1
    exact ⟨keeps.sound, keeps.takes, by rw [ids, ids, keeps.sockets], keeps.settings⟩
  | lapses =>
    have keeps := (lapse?_proceeds sound takes step).1
    exact ⟨keeps.sound, keeps.takes, by rw [ids, ids, keeps.sockets], keeps.settings⟩

theorem run_ids [Wire.Thrifty α] (moves : List Move) {host : Echo α} (sound : host.hosting.Sound)
    (takes : host.hosting.server.OnlyTakes) :
    host.ids <+: (host.run moves).ids ∧
      (host.run moves).hosting.settings = host.hosting.settings := by
  induction moves generalizing host with
  | nil => exact ⟨List.prefix_refl _, rfl⟩
  | cons move rest ih =>
    have goes : host.run (move :: rest) = ((host.step? move).getD host).run rest := rfl
    rw [goes]
    cases step : host.step? move with
    | none => exact ih sound takes
    | some after =>
      obtain ⟨still, only, grows, same⟩ := step_ids sound takes step
      obtain ⟨further, again⟩ := ih still only
      exact ⟨grows.trans further, again.trans same⟩

theorem Sane.run [Wire.Thrifty α] (moves : List Move) {host : Echo α} {before : Nat → List Bytes}
    (sane : Sane before host) (numbered : (host.run moves).hosting.Numbered) :
    Sane (fun channel => before channel ++ written channel moves host) (host.run moves) := by
  induction moves generalizing host before with
  | nil =>
    simp only [written, List.append_nil]
    exact sane
  | cons move rest ih =>
    have goes : host.run (move :: rest) = ((host.step? move).getD host).run rest := rfl
    have first : host.hosting.Numbered :=
      (run_ids (move :: rest) sane.sound sane.takes).1.sublist.nodup numbered
    rw [goes] at numbered ⊢
    simp only [written]
    cases step : host.step? move with
    | none =>
      rw [step] at numbered
      simp only [Option.getD_none, Channels.appended_same, List.nil_append]
      exact ih sane numbered
    | some after =>
      rw [step] at numbered
      have later := ih (sane.step first step) numbered
      simpa only [Option.getD_some, List.append_assoc] using later

theorem sane_start {bind : Inet.Endpoint → Except String Inet.Endpoint} {settings : ServeSettings}
    {endpoint : Inet.Endpoint} {server : Server α α}
    (listening : ({} : Server α α).listen bind settings = (.ok endpoint, server)) :
    Sane (fun _ => []) { hosting := { server, settings } } := by
  unfold Server.listen at listening
  dsimp only at listening
  split at listening
  next => cases listening
  next bound =>
    cases listening
    constructor
    · exact ⟨Queues.sound_empty, Queues.sound_empty⟩
    · intro call member
      cases member
    · rfl
    · constructor
      · simp [Server.say]
      · intro client channel
        simp [Switchboard.channelOf, Server.say, Registry.find?]
      · intro channel _
        rfl
      all_goals simp
    · exact .silent _ (by simp) (by simp)
    · intro envelope member
      exact absurd member List.not_mem_nil
    · intro channel _
      rfl
    · intro socket member
      cases member

/-- A host that listens and answers every request with its own payload, under any interleaving of
what happens at its sockets with the turns of the application, and with sockets that have numbers of
their own. The application never stops. What is written to the channel of a socket is what was
received at this socket and could be read, in order, and no other socket has that channel; while the
socket is served and its channel read, all that is missing between two requests is still queued. And
between two requests no response is queued. -/
theorem echoes_own_requests (bind : Inet.Endpoint → Except String Inet.Endpoint)
    (settings : ServeSettings) (endpoint : Inet.Endpoint) (server : Server Bytes Bytes)
    (listening : ({} : Server Bytes Bytes).listen bind settings = (.ok endpoint, server))
    (moves : List Move) :
    let start : Echo Bytes := { hosting := { server, settings } }
    let host := start.run moves
    host.hosting.Numbered →
      (∀ fault, host.turn ≠ .stopped fault) ∧
      (∀ socket ∈ host.hosting.sockets, ∀ channel, socket.channel = some channel →
        written channel moves start <+: socket.echoes Bytes settings.maxFrameBytes.toNat ∧
          (∀ other ∈ host.hosting.sockets, other.channel = some channel → other = socket) ∧
          (socket.stage = .serving → host.hosting.server.board.channels.isRead channel = true →
            host.turn.IsIdle → written channel moves start ++
              host.hosting.requests.echoesTo socket.id =
                socket.echoes Bytes settings.maxFrameBytes.toNat)) ∧
      (host.turn.IsIdle → host.hosting.responses = []) := by
  intro start host numbered
  have first : Sane (fun _ => []) start := sane_start listening
  have sane := first.run moves numbered
  have limit : host.hosting.server.frameLimit = settings.maxFrameBytes.toNat := by
    rw [sane.limit, (run_ids moves first.sound first.takes).2]
  have empty : host.turn.IsIdle → host.hosting.responses = [] :=
    fun idle => sane.inHand.nothing idle.elsewhere
  refine ⟨sane.inHand.alive, ?_, empty⟩
  intro socket member channel its
  have owed := sane.owed socket member channel its
  rw [List.nil_append, limit] at owed
  refine ⟨owed.ever, ?_, ?_⟩
  · intro other there theirs
    exact sane.wired.apart other there socket member channel theirs its
  · intro serving isRead idle
    have all := owed.all isRead serving
    rwa [pipeline, Turn.pipeline, idle.hand, empty idle] at all

/-- Two clients, of which one also sends what is no frame, and a frame with more behind it; then it
leaves, and its last request with it. -/
theorem two_clients_echoed :
    let server := (({} : Server Bytes Bytes).listen .ok {}).2
    let start : Echo Bytes := { hosting := { server, settings := {} } }
    let first : Bytes := [7, 0, 0, 0, 0, 0, 0, 0, 1, 0, 0, 0, 0, 0, 0, 0, 42]
    let second : Bytes := [8, 0, 0, 0, 0, 0, 0, 0, 0, 0, 0, 0, 0, 0, 0, 0]
    let moves : List Move := [.accepts ⟨.loopback, 50000⟩, .accepts ⟨.loopback, 50001⟩,
      .socket 0 (.asks Settings.defaultPath), .goesOn, .socket 1 (.asks Settings.defaultPath),
      .socket 1 (.receives [1, 2, 3]), .socket 1 (.receives (second ++ [9])),
      .socket 0 (.receives first), .goesOn, .goesOn, .goesOn, .goesOn, .goesOn, .goesOn, .goesOn,
      .socket 1 (.receives first), .goesOn, .goesOn, .goesOn, .socket 1 (.ends .peerClosed),
      .socket 1 .clears]
    let host := start.run moves
    written 0 moves start = [first] ∧ written 1 moves start = [second] ∧
      (∀ fault, host.turn ≠ .stopped fault) ∧ host.hosting.responses = [] := by
  intro server start first second moves host
  have ready : host.turn = .ready := by decide +kernel
  obtain ⟨alive, _, empty⟩ := echoes_own_requests .ok {} ⟨.loopback, 8167⟩ server rfl moves
    (by unfold Hosting.Numbered; decide +kernel)
  exact ⟨by decide +kernel, by decide +kernel, alive, empty (by rw [ready]; trivial)⟩

end Echo

end FrameLink.Host
