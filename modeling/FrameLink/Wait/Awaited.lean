import FrameLink.Wait.Bell
/-!
A queue whose readers may wait. Every arrival rings once, and a call that is woken looks again; it
takes an item only in the same step that hands it out, so a call that gives up loses nothing.
-/

namespace FrameLink.Wait

class Queue (σ : Type) (α : outParam Type) where
  push : α → σ → σ
  pop : σ → Option α × σ

instance : Queue (List α) α where
  push item items := items ++ [item]
  pop
    | [] => (none, [])
    | item :: rest => (some item, rest)

structure Awaited (σ : Type) where
  queue : σ
  bell : Bell := {}
deriving DecidableEq, Inhabited

namespace Awaited

variable {σ α : Type}

def arrive (add : σ → σ) (place : Awaited σ) : Awaited σ := ⟨add place.queue, place.bell.ring⟩

/-- A change of the queue that wakes nobody. -/
def quietly (change : σ → σ) (place : Awaited σ) : Awaited σ := ⟨change place.queue, place.bell⟩

variable [Queue σ α]

def look (place : Awaited σ) : Option α × Awaited σ :=
  match Queue.pop place.queue with
  | (item, queue) => (item, ⟨queue, place.bell⟩)

def park (ticket : Ticket) (place : Awaited σ) : Bool × Awaited σ :=
  match place.bell.park ticket with
  | (parked, bell) => (parked, ⟨place.queue, bell⟩)

/-- Looks, and parks when there is nothing. A remembered ring is good for one more look; after that
none is left, and the call parks. -/
def attend (ticket : Ticket) (place : Awaited σ) : Option α × Awaited σ :=
  match place.look with
  | (some item, place) => (some item, place)
  | (none, place) =>
    match place.park ticket with
    | (true, place) => (none, place)
    | (false, place) =>
      match place.look with
      | (some item, place) => (some item, place)
      | (none, place) => (none, (place.park ticket).2)

def leave (ticket : Ticket) (place : Awaited σ) : Awaited σ := ⟨place.queue, place.bell.leave ticket⟩

def wake (ticket : Ticket) (place : Awaited σ) : Option α × Awaited σ :=
  attend ticket ⟨place.queue, place.bell.rouse ticket⟩

def wakeAll : List Ticket → Awaited σ → List (Ticket × α) × Awaited σ
  | [], place => ([], place)
  | ticket :: rest, place =>
    match place.wake ticket with
    | (some item, place) =>
      match wakeAll rest place with
      | (found, place) => ((ticket, item) :: found, place)
    | (none, place) => wakeAll rest place

/-- Every woken call looks again, in the order in which they were woken. None is woken by that. -/
def settle (place : Awaited σ) : List (Ticket × α) × Awaited σ := place.wakeAll place.bell.woken

end Awaited

end FrameLink.Wait
