import FrameLink.Duration
/-!
Waking waiters one at a time, and the deadlines of those that wait. A ring wakes the call that has been
parked longest; a ring that finds nobody is remembered, at most once, for the next call that wants to
park.
-/

namespace FrameLink.Wait

abbrev Ticket := Nat

structure Bell where
  /-- a ring that nobody has heard -/
  permit : Bool := false
  /-- longest waiting first -/
  parked : List Ticket := []
  /-- woken, and not yet back to look -/
  woken : List Ticket := []
deriving DecidableEq, Inhabited, Repr

namespace Bell

def ring (bell : Bell) : Bell :=
  match bell.parked with
  | ticket :: rest => { bell with parked := rest, woken := bell.woken ++ [ticket] }
  | [] => { bell with permit := true }

/-- Parks a call behind the others, unless a ring is remembered: then that ring is spent, and the
call has to look once more. Answers whether the call is parked. -/
def park (ticket : Ticket) (bell : Bell) : Bool × Bell :=
  if bell.permit then (false, { bell with permit := false })
  else (true, { bell with parked := bell.parked ++ [ticket] })

def rouse (ticket : Ticket) (bell : Bell) : Bell := { bell with woken := bell.woken.erase ticket }

/-- A call gives up. A wake-up that it has not used goes to the next. -/
def leave (ticket : Ticket) (bell : Bell) : Bell :=
  if ticket ∈ bell.woken then (bell.rouse ticket).ring
  else { bell with parked := bell.parked.erase ticket }

end Bell

structure Deadline where
  ticket : Ticket
  instant : Instant
deriving DecidableEq, Repr

/-- The deadlines that pass by `limit`, the earliest first; those of one instant as they are given. -/
def passing (limit : Instant) (deadlines : List Deadline) : List Deadline :=
  (deadlines.filter fun deadline => deadline.instant ≤ limit).mergeSort
    fun a b => a.instant ≤ b.instant

end FrameLink.Wait
