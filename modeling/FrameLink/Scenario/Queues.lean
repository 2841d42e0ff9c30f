import FrameLink.Host.Queues
/-!
Scenarios for the queues of a host.
-/

namespace FrameLink.Scenario.Queues

open Host

inductive Step where
  | push (envelope : Envelope String)
  | pop
  | popFrom (client : ClientId)
  | peek
  | purge (client : ClientId)
  | hasFrom (client : ClientId)
  /-- so many times, one message in and one of the same client out -/
  | churn (client : ClientId) (count : Nat)
  | idle

inductive Answer where
  | nothing
  | envelope (found : Option (Envelope String))
  | count (n : Nat)
  | flag (yes : Bool)

structure Entry where
  answer : Answer
  size : Nat
  isEmpty : Bool

/-- Counts how often the message that went in is the one that comes out. -/
def churn (client : ClientId) : (count done same : Nat) → Host.Queues String → Nat × Host.Queues String
  | 0, _, same, queues => (same, queues)
  | count + 1, done, same, queues =>
    let envelope : Envelope String := ⟨client, .none, toString done⟩
    match (queues.push envelope).popFrom client with
    | (found, queues) =>
      churn client count (done + 1) (if found = some envelope then same + 1 else same) queues

def act (queues : Host.Queues String) : Step → Answer × Host.Queues String
  | .push envelope => (.nothing, queues.push envelope)
  | .pop => match queues.pop with
    | (found, queues) => (.envelope found, queues)
  | .popFrom client => match queues.popFrom client with
    | (found, queues) => (.envelope found, queues)
  | .peek => match queues.peek with
    | (found, queues) => (.envelope found, queues)
  | .purge client => match queues.purge client with
    | (count, queues) => (.count count, queues)
  | .hasFrom client => (.flag (queues.hasFrom client), queues)
  | .churn client count => match churn client count 0 0 queues with
    | (same, queues) => (.count same, queues)
  | .idle => (.nothing, queues)

def runFrom : Host.Queues String → List Step → List Entry
  | _, [] => []
  | queues, step :: rest =>
    match act queues step with
    | (answer, queues) => ⟨answer, queues.size, queues.isEmpty⟩ :: runFrom queues rest

def run (steps : List Step) : List Entry := runFrom {} steps

end FrameLink.Scenario.Queues
