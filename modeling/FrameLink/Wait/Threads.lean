import FrameLink.Wait.Awaited
/-!
Threads that share an awaited queue, where another thread may take its turn between any two steps.
A writer adds its item and rings afterwards. A reader looks; when it finds nothing it asks for a ring,
which is a step of its own, and it looks again whenever it has heard one.
-/

namespace FrameLink.Wait

inductive Writer (α : Type) where
  | adding (item : α)
  | ringing
  | finished
deriving DecidableEq

inductive Reader (α : Type) where
  | looking
  /-- it has found nothing, and has not asked for a ring yet -/
  | missed
  /-- parked, or woken and not back yet -/
  | waiting
  | served (item : α)
deriving DecidableEq

/-- A reader's ticket is its place among the readers. -/
structure Threads (σ α : Type) where
  place : Awaited σ
  writers : List (Writer α)
  readers : List (Reader α)

namespace Threads

variable {σ α : Type}

def start (queue : σ) (items : List α) (readers : Nat) : Threads σ α :=
  { place := ⟨queue, {}⟩
    writers := items.map .adding
    readers := List.replicate readers .looking }

inductive Turn where
  | writer (place : Nat)
  | reader (place : Nat)
deriving DecidableEq

def withWriter (n : Nat) (writer : Writer α) (place : Awaited σ) (threads : Threads σ α) :
    Threads σ α :=
  { threads with place, writers := threads.writers.set n writer }

def withReader (n : Nat) (reader : Reader α) (place : Awaited σ) (threads : Threads σ α) :
    Threads σ α :=
  { threads with place, readers := threads.readers.set n reader }

variable [Queue σ α]

/-- The next step of one thread; none when it has nothing to do, or is parked. -/
def step? (threads : Threads σ α) : Turn → Option (Threads σ α)
  | .writer n =>
    match threads.writers[n]? with
    | some (.adding item) =>
      some (threads.withWriter n .ringing (threads.place.quietly (Queue.push item)))
    | some .ringing =>
      some (threads.withWriter n .finished { threads.place with bell := threads.place.bell.ring })
    | some .finished | none => none
  | .reader n =>
    match threads.readers[n]? with
    | some .looking =>
      match threads.place.look with
      | (some item, place) => some (threads.withReader n (.served item) place)
      | (none, place) => some (threads.withReader n .missed place)
    | some .missed =>
      match threads.place.park n with
      | (true, place) => some (threads.withReader n .waiting place)
      | (false, place) => some (threads.withReader n .looking place)
    | some .waiting =>
      if n ∈ threads.place.bell.woken then
        some (threads.withReader n .looking
          { threads.place with bell := threads.place.bell.rouse n })
      else none
    | some (.served _) | none => none

def run (turns : List Turn) (threads : Threads σ α) : Threads σ α :=
  turns.foldl (fun threads turn => (threads.step? turn).getD threads) threads

end Threads

end FrameLink.Wait
