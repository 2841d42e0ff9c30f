import FrameLink.Host.Registry
/-!
The registry's task, as the tasks that ask it see it. Each inquiry waits in the mailbox of that task, which
takes the oldest one, handles its command and replies. Once it has ended, nobody gets a reply any more.
-/

namespace FrameLink.Host

inductive Inquiry where
  | register (endpoint : Endpoint)
  | unregister (client : ClientId)
  | channelOf (client : ClientId)
  | clients
  /-- a list of the clients, of which only the length is told -/
  | clientCount
  | closeAll
deriving DecidableEq

inductive Reply where
  | registered
  | unregistered (removed : Bool)
  | channel (found : Option Nat)
  | clients (listed : List Endpoint)
  | count (n : Nat)
  | closed (n : Nat)
deriving DecidableEq

def Inquiry.answer (inquiry : Inquiry) (registry : Registry) : Reply × Registry × List Log.Event :=
  match inquiry with
  | .register endpoint => Prod.map (fun _ => .registered) id (registry.handle (.register endpoint))
  | .unregister client => Prod.map .unregistered id (registry.handle (.unregister client))
  | .channelOf client => Prod.map .channel id (registry.handle (.channelOf client))
  | .clients => Prod.map .clients id (registry.handle .clients)
  | .clientCount => Prod.map (fun listed => .count listed.length) id (registry.handle .clients)
  | .closeAll => Prod.map .closed id (registry.handle .closeAll)

structure Registrar where
  registry : Registry := {}
  /-- who asked what and waits for a reply, the oldest first; none once the task has ended -/
  mailbox : Option (List (Nat × Inquiry)) := some []
  /-- what was told to whom, the oldest first -/
  told : List (Nat × Except Error Reply) := []
  log : List Log.Event := []

namespace Registrar

inductive Move where
  | asks (asker : Nat) (inquiry : Inquiry)
  /-- the task takes the oldest inquiry -/
  | takes
  /-- the task ends, whatever waits -/
  | ends
deriving DecidableEq

def unavailable (asked : Nat × Inquiry) : Nat × Except Error Reply :=
  (asked.1, .error .registryUnavailable)

def step (move : Move) (registrar : Registrar) : Registrar :=
  match move, registrar.mailbox with
  | .asks asker inquiry, some waiting =>
    { registrar with mailbox := some (waiting ++ [(asker, inquiry)]) }
  | .asks asker inquiry, none =>
    { registrar with told := registrar.told ++ [unavailable (asker, inquiry)] }
  | .takes, some ((asker, inquiry) :: waiting) =>
    match inquiry.answer registrar.registry with
    | (reply, registry, events) =>
      { registry, mailbox := some waiting, told := registrar.told ++ [(asker, .ok reply)],
        log := registrar.log ++ events }
  | .ends, some waiting =>
    { registrar with mailbox := none, told := registrar.told ++ waiting.map unavailable }
  | .takes, _ | .ends, none => registrar

def run (moves : List Move) (registrar : Registrar) : Registrar :=
  moves.foldl (fun registrar move => registrar.step move) registrar

end Registrar

end FrameLink.Host
