import FrameLink.Host.Socket
import FrameLink.Proofs.Host.Messages
/-!
What a happening at one socket of a host can do: it changes what is queued, the way to the clients,
and that socket. Nothing else of the host changes, and what is said in the log is left open.
-/

namespace FrameLink.Host

variable {α β : Type}

theorem Switchboard.ask_board {ρ : Type} (command : Command ρ) (board : Switchboard) :
    ∃ log, (board.ask command).2 =
      ⟨board.registry.map fun registry => (registry.handle command).2.1, board.channels, log⟩ := by
  obtain ⟨registry, channels, log⟩ := board
  cases registry with
  | none => exact ⟨log, rfl⟩
  | some registry => exact ⟨_, rfl⟩

theorem Registry.handle_unregister (client : ClientId) (registry : Registry) :
    (registry.handle (.unregister client)).2.1 = registry.erase client := by
  simp only [handle]
  split <;> rfl

namespace Hosting

structure Sound (hosting : Hosting α β) : Prop where
  requests : hosting.server.exchange.requests.queue.Sound
  responses : hosting.server.exchange.responses.Sound

def requests (hosting : Hosting α β) : Line α := hosting.server.exchange.requests.queue.messages

def responses (hosting : Hosting α β) : Line β := hosting.server.exchange.responses.messages

def become (place : Nat) (exchange : Exchange α β) (board : Switchboard) (socket : Socket)
    (hosting : Hosting α β) : Hosting α β :=
  { hosting with
    server := { hosting.server with exchange, board }
    sockets := hosting.sockets.set place socket }

section Become

variable (place : Nat) (exchange : Exchange α β) (board : Switchboard) (socket : Socket)
  (hosting : Hosting α β)

@[simp] theorem become_board :
    (hosting.become place exchange board socket).server.board = board := rfl

@[simp] theorem become_sockets :
    (hosting.become place exchange board socket).sockets = hosting.sockets.set place socket := rfl

end Become

variable [Wire α]

/-- What becomes of the queues, the way to the clients and the socket. -/
inductive Occurs (hosting : Hosting α β) (socket : Socket) :
    Happening → Exchange α β → Switchboard → Socket → Prop
  | registers {log : List Log.Event} (opening : socket.stage = .opening) (registry : Registry)
      (running : hosting.server.board.registry = some registry) :
    Occurs hosting socket (.asks hosting.settings.path) hosting.server.exchange
      ⟨some ⟨(registry.erase socket.id).endpoints ++
          [⟨socket.id, socket.remote, hosting.server.board.channels.next, hosting.server.now⟩]⟩,
        hosting.server.board.channels.add.2, log⟩
      { socket with stage := .serving, channel := some hosting.server.board.channels.next }
  | turnedAway {path : String} {log : List Log.Event} (opening : socket.stage = .opening)
      (reason : path ≠ hosting.settings.path ∨ hosting.server.board.registry = none) :
    Occurs hosting socket (.asks path) hosting.server.exchange
      ⟨hosting.server.board.registry, hosting.server.board.channels, log⟩
      { socket with stage := .ended }
  | queues {data : Bytes} {log : List Log.Event} (serving : socket.stage = .serving)
      (frame : Frame α)
      (decoded : Frame.decode data hosting.settings.maxFrameBytes.toNat = .ok frame) :
    Occurs hosting socket (.receives data)
      (hosting.server.exchange.queueRequest ⟨socket.id, frame.correlation, frame.body⟩)
      ⟨hosting.server.board.registry, hosting.server.board.channels, log⟩
      { socket with received := socket.received ++ [data] }
  | discards {data : Bytes} {log : List Log.Event} (serving : socket.stage = .serving)
      (fault : FrameError)
      (undecoded : (Frame.decode data hosting.settings.maxFrameBytes.toNat :
        Except FrameError (Frame α)) = .error fault) :
    Occurs hosting socket (.receives data) hosting.server.exchange
      ⟨hosting.server.board.registry, hosting.server.board.channels, log⟩
      { socket with received := socket.received ++ [data] }
  | control (serving : socket.stage = .serving) :
    Occurs hosting socket .control hosting.server.exchange hosting.server.board socket
  | givesUp {ending : Ending} (opening : socket.stage = .opening) :
    Occurs hosting socket (.ends ending) hosting.server.exchange hosting.server.board
      { socket with stage := .ended }
  | leaves {ending : Ending} {log : List Log.Event} (serving : socket.stage = .serving)
      (allowed : hosting.allows ending = true) :
    Occurs hosting socket (.ends ending) hosting.server.exchange
      ⟨hosting.server.board.registry.map (·.erase socket.id), hosting.server.board.channels, log⟩
      { socket with stage := .leaving }
  | clears {log : List Log.Event} (leaving : socket.stage = .leaving) :
    Occurs hosting socket .clears
      (if hosting.settings.purgeOnDisconnect then (hosting.server.exchange.purge socket.id).2
        else hosting.server.exchange)
      ⟨hosting.server.board.registry, hosting.server.board.channels, log⟩
      { socket with stage := .ended }
  | sends (channel : Nat) (own : socket.channel = some channel)
      (isRead : hosting.server.board.channels.isRead channel = true) :
    Occurs hosting socket .sends hosting.server.exchange
      { hosting.server.board with channels := (hosting.server.board.channels.read channel).2 }
      { socket with sent := socket.sent ++ (hosting.server.board.channels.read channel).1 }
  | sendFails {message : String} {log : List Log.Event} (channel : Nat)
      (own : socket.channel = some channel)
      (isRead : hosting.server.board.channels.isRead channel = true) :
    Occurs hosting socket (.sendFails message) hosting.server.exchange
      ⟨hosting.server.board.registry, hosting.server.board.channels.drop channel, log⟩ socket

/-! ## The parts of a step -/

theorem register_occurs (place : Nat) (socket : Socket) (hosting : Hosting α β)
    (opening : socket.stage = .opening) :
    ∃ board socket',
      Occurs hosting socket (.asks hosting.settings.path) hosting.server.exchange board socket' ∧
        hosting.register place socket =
          hosting.become place hosting.server.exchange board socket' := by
  obtain ⟨⟨exchange, ⟨registry, channels, log⟩, _, _, _, _, _⟩, settings, sockets⟩ := hosting
  cases registry with
  | none => exact ⟨⟨none, channels, _⟩, _, .turnedAway opening (.inr rfl), rfl⟩
  | some registry => exact ⟨⟨_, _, _⟩, _, .registers opening registry rfl, rfl⟩

theorem enqueue_occurs (place : Nat) (socket : Socket) (data : Bytes) (hosting : Hosting α β)
    (serving : socket.stage = .serving) :
    ∃ exchange board,
      Occurs hosting socket (.receives data) exchange board
          { socket with received := socket.received ++ [data] } ∧
        (hosting.enqueue socket.id data).put place
            { socket with received := socket.received ++ [data] } =
          hosting.become place exchange board
            { socket with received := socket.received ++ [data] } := by
  unfold enqueue
  split
  next frame decoded => exact ⟨_, ⟨_, _, _⟩, .queues serving frame decoded, rfl⟩
  next fault undecoded => exact ⟨_, ⟨_, _, _⟩, .discards serving fault undecoded, rfl⟩

omit [Wire α] in
theorem unregister_board (client : ClientId) (ending : Ending) (hosting : Hosting α β) :
    ∃ log, (hosting.sayEnding client ending).unregister client = { hosting with server.board :=
      ⟨hosting.server.board.registry.map (·.erase client), hosting.server.board.channels, log⟩ } := by
  obtain ⟨⟨exchange, ⟨registry, channels, log⟩, _, _, _, _, _⟩, settings, sockets⟩ := hosting
  cases registry with
  | none => cases ending <;> exact ⟨_, rfl⟩
  | some registry =>
    rw [Option.map_some, ← Registry.handle_unregister]
    cases ending <;> exact ⟨_, rfl⟩

omit [Wire α] in
theorem clear_exchange (client : ClientId) (hosting : Hosting α β) :
    ∃ log, hosting.clear client = { hosting with server := { hosting.server with
      exchange := if hosting.settings.purgeOnDisconnect
        then (hosting.server.exchange.purge client).2 else hosting.server.exchange
      board.log := log } } := by
  unfold clear
  split
  next purges =>
    dsimp only
    split <;> exact ⟨_, rfl⟩
  next keeps => exact ⟨_, rfl⟩

omit [Wire α] in
theorem become_same {place : Nat} {socket : Socket} {hosting : Hosting α β}
    (found : hosting.sockets[place]? = some socket) (board : Switchboard) :
    hosting.become place hosting.server.exchange board socket =
      { hosting with server.board := board } := by
  obtain ⟨inside, rfl⟩ := List.getElem?_eq_some_iff.mp found
  simp [become]

/-- A step at a place is something that occurs at the socket there. -/
theorem step_occurs {place : Nat} {happening : Happening} {hosting after : Hosting α β}
    (step : hosting.step? place happening = some after) :
    ∃ socket, hosting.sockets[place]? = some socket ∧ ∃ exchange board socket',
      Occurs hosting socket happening exchange board socket' ∧
        after = hosting.become place exchange board socket' := by
  rw [step?, Option.bind_eq_bind, Option.bind_eq_some_iff] at step
  obtain ⟨socket, found, step⟩ := step
  refine ⟨socket, found, ?_⟩
  cases happening with
  | asks path =>
    cases stage : socket.stage <;> simp only [stage, reduceCtorEq] at step
    split at step <;> cases step
    next right =>
      obtain ⟨board, socket', occurs, same⟩ := register_occurs place socket hosting stage
      exact ⟨_, board, socket', right ▸ occurs, same⟩
    next wrong => exact ⟨_, ⟨_, _, _⟩, _, .turnedAway stage (.inl wrong), rfl⟩
  | receives data =>
    cases stage : socket.stage <;> simp only [stage, reduceCtorEq] at step
    cases step
    obtain ⟨exchange, board, occurs, same⟩ := enqueue_occurs place socket data hosting stage
    exact ⟨exchange, board, _, occurs, stage ▸ same⟩
  | control =>
    cases stage : socket.stage <;> simp only [stage, reduceCtorEq] at step
    cases step
    exact ⟨_, _, _, .control stage, (become_same found _).symm⟩
  | ends ending =>
    cases stage : socket.stage <;> simp only [stage, reduceCtorEq] at step
    · split at step <;> cases step
      exact ⟨_, _, _, .givesUp stage, rfl⟩
    · split at step <;> cases step
      next allowed =>
        obtain ⟨log, same⟩ := unregister_board socket.id ending hosting
        rw [same]
        exact ⟨_, ⟨_, _, _⟩, _, .leaves stage allowed, rfl⟩
  | clears =>
    cases stage : socket.stage <;> simp only [stage, reduceCtorEq] at step
    cases step
    obtain ⟨log, same⟩ := clear_exchange socket.id hosting
    rw [same]
    exact ⟨_, ⟨_, _, _⟩, _, .clears stage, rfl⟩
  | sends =>
    simp only [Option.bind_eq_bind, Option.bind_eq_some_iff] at step
    obtain ⟨channel, own, step⟩ := step
    split at step <;> cases step
    next isRead => exact ⟨_, _, _, .sends channel own isRead, rfl⟩
  | sendFails message =>
    simp only [Option.bind_eq_bind, Option.bind_eq_some_iff] at step
    obtain ⟨channel, own, step⟩ := step
    split at step <;> cases step
    next isRead =>
      exact ⟨_, ⟨_, _, _⟩, _, .sendFails channel own isRead, (become_same found _).symm⟩

theorem Occurs.id_eq {happening : Happening} {hosting : Hosting α β} {socket socket' : Socket}
    {exchange : Exchange α β} {board : Switchboard}
    (occurs : Occurs hosting socket happening exchange board socket') : socket'.id = socket.id := by
  cases occurs <;> rfl

end Hosting

end FrameLink.Host
