import FrameLink.Proofs.Host.Sockets
/-!
Which socket has which channel. The registry tells of every client the channel of the socket that it is
served at, no two sockets have the same channel, and new channels have not been used before.
-/

namespace FrameLink.Host

variable {α β : Type}

namespace Channels

/-- What waits in a channel, if it is read. -/
def at? (channel : Nat) (channels : Channels) : Option (List Bytes) :=
  (channels.waiting.find? fun entry => entry.1 == channel).map (·.2)

theorem isRead_eq (channel : Nat) (channels : Channels) :
    channels.isRead channel = (channels.at? channel).isSome := by
  rw [isRead, at?, Option.isSome_map, List.isSome_find?]

theorem at?_add (channel : Nat) {channels : Channels} (unused : channels.at? channels.next = none) :
    channels.add.2.at? channel = if channel = channels.next then some [] else channels.at? channel := by
  unfold at? at unused ⊢
  rw [Option.map_eq_none_iff] at unused
  simp only [add, List.find?_append]
  split
  next same =>
    subst same
    simp [unused]
  next other =>
    simp [Ne.symm other]

theorem find?_alter (channel target : Nat) (change : List Bytes → List Bytes)
    (waiting : List (Nat × List Bytes)) :
    ((waiting.map fun entry => if entry.1 = target then (target, change entry.2) else entry).find?
        fun entry => entry.1 == channel).map (·.2) =
      ((waiting.find? fun entry => entry.1 == channel).map (·.2)).map
        fun messages => if channel = target then change messages else messages := by
  induction waiting with
  | nil => rfl
  | cons entry rest ih =>
    rw [List.map_cons]
    by_cases named : entry.1 = channel
    · subst named
      by_cases own : entry.1 = target
      · simp [own]
      · simp [own]
    · have kept : (if entry.1 = target then (target, change entry.2) else entry).1 = entry.1 := by
        split
        next own => exact own.symm
        next => rfl
      rw [List.find?_cons_of_neg (by simp [kept, named]), List.find?_cons_of_neg (by simp [named])]
      exact ih

theorem at?_write (channel target : Nat) (message : Bytes) (channels : Channels) :
    (channels.write target message).2.at? channel = (channels.at? channel).map fun messages =>
      if channel = target then messages ++ [message] else messages :=
  find?_alter channel target (· ++ [message]) channels.waiting

theorem at?_read (channel target : Nat) (channels : Channels) :
    (channels.read target).2.at? channel = (channels.at? channel).map fun messages =>
      if channel = target then [] else messages :=
  find?_alter channel target (fun _ => []) channels.waiting

theorem at?_drop (channel target : Nat) (channels : Channels) :
    (channels.drop target).at? channel = if channel = target then none else channels.at? channel := by
  unfold at? drop
  rw [List.find?_filter]
  split
  next same => simp [same]
  next other =>
    congr 2
    funext entry
    by_cases named : entry.1 = channel
    · simp [named, other]
    · simp [named]

/-- What has been written to a channel, where nothing else than writing has happened to it. -/
def appended (channel : Nat) (before after : Channels) : List Bytes :=
  (after.read channel).1.drop (before.read channel).1.length

theorem read_eq (channel : Nat) (channels : Channels) :
    (channels.read channel).1 = (channels.at? channel).getD [] := rfl

theorem appended_same {channel : Nat} {before after : Channels}
    (same : after.at? channel = before.at? channel) : appended channel before after = [] := by
  rw [appended, read_eq, read_eq, same, List.drop_length]

theorem appended_nil {channel : Nat} {before after : Channels}
    (empty : after.at? channel = none ∨ after.at? channel = some []) :
    appended channel before after = [] := by
  rw [appended, read_eq channel after]
  rcases empty with empty | empty <;> simp [empty]

theorem appended_write (channel target : Nat) (message : Bytes) (channels : Channels) :
    appended channel channels (channels.write target message).2 =
      if channel = target ∧ channels.isRead channel = true then [message] else [] := by
  rw [appended, read_eq, read_eq, at?_write, isRead_eq]
  cases channels.at? channel with
  | none => simp
  | some messages =>
    by_cases same : channel = target
    · simp [same]
    · simp [same]

end Channels

namespace Registry

theorem find?_erase (client other : ClientId) (registry : Registry) :
    (registry.erase client).find? other = if other = client then none else registry.find? other := by
  unfold find? erase
  rw [List.find?_filter]
  split
  next same => simp [same]
  next different =>
    congr 1
    funext endpoint
    by_cases named : endpoint.id = other
    · simp [named, different]
    · simp [named]

theorem find?_register (client : ClientId) (remote : Inet.Endpoint) (channel : Nat)
    (moment : Instant) (other : ClientId) (registry : Registry) :
    (Registry.mk ((registry.erase client).endpoints ++ [⟨client, remote, channel, moment⟩])).find?
        other =
      if other = client then some ⟨client, remote, channel, moment⟩ else registry.find? other := by
  have erased := find?_erase client other registry
  unfold find? at erased ⊢
  rw [List.find?_append, erased]
  split
  next same => simp [same]
  next different => simp [Ne.symm different]

end Registry

def Switchboard.channelOf (client : ClientId) (board : Switchboard) : Option Nat :=
  board.registry.bind fun registry => (registry.find? client).map (·.channel)

theorem Switchboard.channelOf_congr {board other : Switchboard}
    (same : other.registry = board.registry) (client : ClientId) :
    other.channelOf client = board.channelOf client := by
  simp only [channelOf, same]

namespace Hosting

def Numbered (hosting : Hosting α β) : Prop := (hosting.sockets.map (·.id)).Nodup

theorem mem_set_iff {hosting : Hosting α β} (numbered : hosting.Numbered) {place : Nat}
    {socket : Socket} (found : hosting.sockets[place]? = some socket) (changed other : Socket) :
    other ∈ hosting.sockets.set place changed ↔
      other = changed ∨ (other ∈ hosting.sockets ∧ other.id ≠ socket.id) := by
  obtain ⟨inside, rfl⟩ := List.getElem?_eq_some_iff.mp found
  constructor
  · intro member
    obtain ⟨i, bound, rfl⟩ := List.mem_iff_getElem.mp member
    rw [List.length_set] at bound
    rw [List.getElem_set]
    split
    next => exact .inl rfl
    next different =>
      refine .inr ⟨List.getElem_mem bound, ?_⟩
      intro same
      have listed : i < (hosting.sockets.map (·.id)).length := by simpa using bound
      have there : place < (hosting.sockets.map (·.id)).length := by simpa using inside
      have alike : (hosting.sockets.map (·.id))[i] = (hosting.sockets.map (·.id))[place] := by
        simpa using same
      exact different ((List.Nodup.getElem_inj_iff numbered).mp alike).symm
  · rintro (rfl | ⟨member, different⟩)
    · exact List.mem_set inside _
    · obtain ⟨i, bound, rfl⟩ := List.mem_iff_getElem.mp member
      have apart : place ≠ i := by
        rintro rfl
        exact different rfl
      rw [← List.getElem_set_of_ne apart changed (by simpa using bound)]
      exact List.getElem_mem _

theorem ids_set {sockets : List Socket} {place : Nat} {socket socket' : Socket}
    (found : sockets[place]? = some socket) (same : socket'.id = socket.id) :
    (sockets.set place socket').map (·.id) = sockets.map (·.id) := by
  obtain ⟨inside, rfl⟩ := List.getElem?_eq_some_iff.mp found
  have there : place < (sockets.map (·.id)).length := by simpa using inside
  calc
    (sockets.set place socket').map (·.id)
    _ = (sockets.map (·.id)).set place socket'.id := List.map_set
    _ = (sockets.map (·.id)).set place (sockets.map (·.id))[place] := by
      rw [same, List.getElem_map]
    _ = sockets.map (·.id) := List.set_getElem_self there

/-- How the registry, the channels and the sockets belong together. -/
structure Wired (hosting : Hosting α β) : Prop where
  running : hosting.server.board.registry ≠ none
  /-- the registry lists the sockets that are served, with their channels -/
  listed : ∀ client channel, hosting.server.board.channelOf client = some channel ↔
    ∃ socket ∈ hosting.sockets,
      socket.id = client ∧ socket.stage = .serving ∧ socket.channel = some channel
  fresh : ∀ channel, hosting.server.board.channels.next ≤ channel →
    hosting.server.board.channels.at? channel = none
  given : ∀ socket ∈ hosting.sockets, ∀ channel, socket.channel = some channel →
    channel < hosting.server.board.channels.next
  apart : ∀ one ∈ hosting.sockets, ∀ other ∈ hosting.sockets, ∀ channel,
    one.channel = some channel → other.channel = some channel → one = other
  /-- without a channel a socket has not been served -/
  unserved : ∀ socket ∈ hosting.sockets, socket.channel = none →
    socket.received = [] ∧ socket.stage ≠ .serving
  opening : ∀ socket ∈ hosting.sockets, socket.stage = .opening → socket.channel = none

namespace Wired

variable {hosting : Hosting α β} {place : Nat} {socket socket' : Socket}
  {exchange : Exchange α β} {board : Switchboard}

theorem served_iff (wired : hosting.Wired) (numbered : hosting.Numbered)
    (found : hosting.sockets[place]? = some socket) (channel : Nat) :
    hosting.server.board.channelOf socket.id = some channel ↔
      socket.stage = .serving ∧ socket.channel = some channel := by
  have member := List.mem_of_getElem? found
  rw [wired.listed]
  constructor
  · rintro ⟨other, there, same, served⟩
    obtain rfl := List.inj_on_of_nodup_map numbered there member same
    exact served
  · intro served
    exact ⟨socket, member, rfl, served⟩

/-- One socket changes, and the registry tells the rest of the clients as before. -/
theorem become (wired : hosting.Wired) (numbered : hosting.Numbered)
    (found : hosting.sockets[place]? = some socket) (same : socket'.id = socket.id)
    (running : board.registry ≠ none)
    (others : ∀ client ≠ socket.id,
      board.channelOf client = hosting.server.board.channelOf client)
    (own : ∀ channel, board.channelOf socket.id = some channel ↔
      socket'.stage = .serving ∧ socket'.channel = some channel)
    (grows : hosting.server.board.channels.next ≤ board.channels.next)
    (fresh : ∀ channel, board.channels.next ≤ channel → board.channels.at? channel = none)
    (given : ∀ channel, socket'.channel = some channel → socket.channel = some channel ∨
      hosting.server.board.channels.next ≤ channel ∧ channel < board.channels.next)
    (unserved : socket'.channel = none → socket'.received = [] ∧ socket'.stage ≠ .serving)
    (opening : socket'.stage = .opening → socket'.channel = none) :
    (hosting.become place exchange board socket').Wired := by
  have member := List.mem_of_getElem? found
  have sockets := mem_set_iff numbered found socket'
  have alone : ∀ other ∈ hosting.sockets, other.id ≠ socket.id → ∀ channel,
      socket'.channel = some channel → other.channel ≠ some channel := by
    intro other there different channel its theirs
    rcases given channel its with before | ⟨new, _⟩
    · exact different (congrArg Socket.id (wired.apart other there socket member channel theirs
        before))
    · exact absurd (wired.given other there channel theirs) (by omega)
  constructor
  · exact running
  · intro client target
    simp only [become_board, become_sockets, sockets]
    by_cases mine : client = socket.id
    · subst mine
      rw [own]
      constructor
      · intro served
        exact ⟨socket', .inl rfl, same, served⟩
      · rintro ⟨other, rfl | ⟨_, different⟩, its, served⟩
        · exact served
        · exact absurd its different
    · rw [others client mine, wired.listed]
      constructor
      · rintro ⟨other, there, its, served⟩
        exact ⟨other, .inr ⟨there, its ▸ mine⟩, its, served⟩
      · rintro ⟨other, rfl | ⟨there, _⟩, its, served⟩
        · exact absurd (its.symm.trans same) mine
        · exact ⟨other, there, its, served⟩
  · exact fresh
  · intro other there channel its
    rw [become_board]
    rcases (sockets other).mp there with rfl | ⟨old, _⟩
    · rcases given channel its with before | ⟨_, below⟩
      · exact lt_of_lt_of_le (wired.given socket member channel before) grows
      · exact below
    · exact lt_of_lt_of_le (wired.given other old channel its) grows
  · intro one first other second channel its theirs
    rcases (sockets one).mp first with rfl | ⟨old, different⟩ <;>
      rcases (sockets other).mp second with rfl | ⟨there, apart⟩
    · rfl
    · exact absurd theirs (alone other there apart channel its)
    · exact absurd its (alone one old different channel theirs)
    · exact wired.apart one old other there channel its theirs
  · intro other there none
    rcases (sockets other).mp there with rfl | ⟨old, _⟩
    · exact unserved none
    · exact wired.unserved other old none
  · intro other there opens
    rcases (sockets other).mp there with rfl | ⟨old, _⟩
    · exact opening opens
    · exact wired.opening other old opens

theorem adjust (wired : hosting.Wired) (numbered : hosting.Numbered)
    (found : hosting.sockets[place]? = some socket)
    (registry : board.registry = hosting.server.board.registry)
    (next : board.channels.next = hosting.server.board.channels.next)
    (unread : ∀ channel, hosting.server.board.channels.at? channel = none →
      board.channels.at? channel = none)
    (same : socket'.id = socket.id) (channel : socket'.channel = socket.channel)
    (served : socket'.stage = .serving ↔ socket.stage = .serving)
    (opening : socket'.stage = .opening → socket.stage = .opening)
    (received : socket.channel = none → socket'.received = socket.received) :
    (hosting.become place exchange board socket').Wired := by
  have member := List.mem_of_getElem? found
  apply wired.become numbered found same
  · exact registry ▸ wired.running
  · intro client _
    exact Switchboard.channelOf_congr registry client
  · intro target
    rw [Switchboard.channelOf_congr registry, wired.served_iff numbered found, served, channel]
  · exact next.ge
  · intro target beyond
    exact unread target (wired.fresh target (next ▸ beyond))
  · intro target its
    exact .inl (channel ▸ its)
  · intro none
    rw [channel] at none
    have before := wired.unserved socket member none
    exact ⟨(received none).trans before.1, mt served.mp before.2⟩
  · intro opens
    exact channel.trans (wired.opening socket member (opening opens))

theorem congr {after : Hosting α β} (wired : hosting.Wired)
    (sockets : after.sockets = hosting.sockets)
    (registry : after.server.board.registry = hosting.server.board.registry)
    (next : after.server.board.channels.next = hosting.server.board.channels.next)
    (unread : ∀ channel, hosting.server.board.channels.at? channel = none →
      after.server.board.channels.at? channel = none) : after.Wired where
  running := registry ▸ wired.running
  listed client channel := by
    rw [Switchboard.channelOf_congr registry, sockets]
    exact wired.listed client channel
  fresh channel beyond := unread channel (wired.fresh channel (next ▸ beyond))
  given := by
    rw [sockets, next]
    exact wired.given
  apart := sockets ▸ wired.apart
  unserved := sockets ▸ wired.unserved
  opening := sockets ▸ wired.opening

theorem accept {remote : Inet.Endpoint} {after : Hosting α β} (wired : hosting.Wired)
    (accepted : hosting.accept? remote = some after) : after.Wired := by
  unfold accept? at accepted
  split at accepted <;> cases accepted
  constructor
  · exact wired.running
  · intro client channel
    rw [wired.listed]
    constructor
    · rintro ⟨socket, there, served⟩
      exact ⟨socket, List.mem_append_left _ there, served⟩
    · rintro ⟨socket, there, own, serving, its⟩
      rcases List.mem_append.mp there with old | new
      · exact ⟨socket, old, own, serving, its⟩
      · rw [List.mem_singleton.mp new] at serving
        cases serving
  · exact wired.fresh
  · intro socket there channel its
    rcases List.mem_append.mp there with old | new
    · exact wired.given socket old channel its
    · rw [List.mem_singleton.mp new] at its
      cases its
  · intro one first other second channel its theirs
    rcases List.mem_append.mp first with old | new
    · rcases List.mem_append.mp second with before | last
      · exact wired.apart one old other before channel its theirs
      · rw [List.mem_singleton.mp last] at theirs
        cases theirs
    · rw [List.mem_singleton.mp new] at its
      cases its
  · intro socket there none
    rcases List.mem_append.mp there with old | new
    · exact wired.unserved socket old none
    · rw [List.mem_singleton.mp new]
      exact ⟨rfl, by simp⟩
  · intro socket there opens
    rcases List.mem_append.mp there with old | new
    · exact wired.opening socket old opens
    · rw [List.mem_singleton.mp new]

end Wired

section Steps

variable [Wire α]

theorem Occurs.wired {place : Nat} {happening : Happening} {hosting : Hosting α β}
    {socket socket' : Socket} {exchange : Exchange α β} {board : Switchboard}
    (occurs : Occurs hosting socket happening exchange board socket') (wired : hosting.Wired)
    (numbered : hosting.Numbered) (found : hosting.sockets[place]? = some socket) :
    (hosting.become place exchange board socket').Wired := by
  have member := List.mem_of_getElem? found
  have served : socket.stage = .serving → socket.channel ≠ none := by
    intro serving none
    exact (wired.unserved socket member none).2 serving
  cases occurs with
  | registers opening registry running =>
    have unused := wired.fresh _ (le_refl _)
    apply wired.become numbered found
    · rfl
    · simp
    · intro client other
      simp [Switchboard.channelOf, Registry.find?_register, running, other]
    · intro channel
      simp [Switchboard.channelOf, Registry.find?_register]
    · exact Nat.le_succ _
    · intro channel beyond
      change _ + 1 ≤ channel at beyond
      rw [Channels.at?_add channel unused, if_neg (by omega)]
      exact wired.fresh channel (by omega)
    · intro channel its
      cases its
      exact .inr ⟨le_refl _, Nat.lt_succ_self _⟩
    · intro none
      cases none
    · intro opens
      cases opens
  | turnedAway opening | givesUp opening =>
    exact wired.adjust numbered found rfl rfl (fun _ => id) rfl rfl (by simp [opening])
      (by simp) fun _ => rfl
  | queues serving | discards serving =>
    exact wired.adjust numbered found rfl rfl (fun _ => id) rfl rfl Iff.rfl id
      fun none => absurd none (served serving)
  | control =>
    exact wired.adjust numbered found rfl rfl (fun _ => id) rfl rfl Iff.rfl id fun _ => rfl
  | clears leaving =>
    exact wired.adjust numbered found rfl rfl (fun _ => id) rfl rfl (by simp [leaving])
      (by simp) fun _ => rfl
  | leaves serving =>
    obtain ⟨registry, running⟩ := Option.ne_none_iff_exists'.mp wired.running
    apply wired.become numbered found
    · rfl
    · simp [running]
    · intro client other
      simp [Switchboard.channelOf, Registry.find?_erase, running, other]
    · intro channel
      simp [Switchboard.channelOf, Registry.find?_erase, running]
    · exact le_refl _
    · exact wired.fresh
    · intro channel its
      exact .inl its
    · intro none
      exact absurd none (served serving)
    · intro opens
      cases opens
  | sends channel =>
    refine wired.adjust numbered found rfl rfl ?_ rfl rfl Iff.rfl id fun _ => rfl
    intro other none
    simp [Channels.at?_read, none]
  | sendFails channel =>
    refine wired.adjust numbered found rfl rfl ?_ rfl rfl Iff.rfl id fun _ => rfl
    intro other none
    simp [Channels.at?_drop, none]

/-- Nothing that happens at a socket writes to a channel. -/
theorem Occurs.appended {happening : Happening} {hosting : Hosting α β}
    {socket socket' : Socket} {exchange : Exchange α β} {board : Switchboard}
    (occurs : Occurs hosting socket happening exchange board socket') (wired : hosting.Wired)
    (channel : Nat) :
    Channels.appended channel hosting.server.board.channels board.channels = [] := by
  cases occurs with
  | registers =>
    have added := Channels.at?_add channel (wired.fresh _ (le_refl _))
    by_cases new : channel = hosting.server.board.channels.next
    · rw [if_pos new] at added
      exact Channels.appended_nil (.inr added)
    · rw [if_neg new] at added
      exact Channels.appended_same added
  | sends target =>
    have seen := Channels.at?_read channel target hosting.server.board.channels
    by_cases own : channel = target
    · simp only [if_pos own] at seen
      apply Channels.appended_nil
      cases waiting : hosting.server.board.channels.at? channel <;> simp [seen, waiting]
    · simp only [if_neg own, Option.map_id'] at seen
      exact Channels.appended_same seen
  | sendFails target =>
    have dropped := Channels.at?_drop channel target hosting.server.board.channels
    by_cases own : channel = target
    · rw [if_pos own] at dropped
      exact Channels.appended_nil (.inl dropped)
    · rw [if_neg own] at dropped
      exact Channels.appended_same dropped
  | turnedAway | queues | discards | control | givesUp | leaves | clears =>
    exact Channels.appended_same rfl

theorem Occurs.isRead_other {happening : Happening} {hosting : Hosting α β}
    {socket socket' : Socket} {exchange : Exchange α β} {board : Switchboard}
    (occurs : Occurs hosting socket happening exchange board socket') (wired : hosting.Wired)
    {channel : Nat} (old : channel < hosting.server.board.channels.next)
    (other : socket.channel ≠ some channel) :
    board.channels.isRead channel = hosting.server.board.channels.isRead channel := by
  simp only [Channels.isRead_eq]
  cases occurs with
  | registers =>
    rw [Channels.at?_add channel (wired.fresh _ (le_refl _)), if_neg old.ne]
  | sends target => rw [Channels.at?_read, Option.isSome_map]
  | sendFails target own =>
    have apart : channel ≠ target := by
      rintro rfl
      exact other own
    rw [Channels.at?_drop, if_neg apart]
  | turnedAway | queues | discards | control | givesUp | leaves | clears => rfl

theorem Occurs.kept {happening : Happening} {hosting : Hosting α β} {socket socket' : Socket}
    {exchange : Exchange α β} {board : Switchboard}
    (occurs : Occurs hosting socket happening exchange board socket') (wired : hosting.Wired)
    (member : socket ∈ hosting.sockets) {channel : Nat} (its : socket.channel = some channel) :
    socket'.channel = some channel := by
  cases occurs with
  | registers opening =>
    rw [wired.opening socket member opening] at its
    cases its
  | turnedAway | queues | discards | control | givesUp | leaves | clears | sends | sendFails =>
    exact its

theorem Occurs.next_le {happening : Happening} {hosting : Hosting α β} {socket socket' : Socket}
    {exchange : Exchange α β} {board : Switchboard}
    (occurs : Occurs hosting socket happening exchange board socket') :
    hosting.server.board.channels.next ≤ board.channels.next := by
  cases occurs with
  | registers => exact Nat.le_succ _
  | turnedAway | queues | discards | control | givesUp | leaves | clears | sends | sendFails =>
    exact le_refl _

end Steps

end Hosting

end FrameLink.Host
