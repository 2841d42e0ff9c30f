import FrameLink.Correlation
import FrameLink.Wait.Bell
/-!
Requests that await their response, and the most recent of those that stopped waiting, so that a
late response is recognised.
-/

namespace FrameLink.Link

open Wait

structure Pending where
  /-- at most one entry for a number -/
  live : List (Correlation × Ticket) := []
  /-- oldest first -/
  expired : List Correlation := []
deriving DecidableEq, Inhabited

namespace Pending

def expiredCapacity : Nat := 1024

def find? (id : Correlation) (pending : Pending) : Option Ticket :=
  (pending.live.find? fun entry => entry.1 == id).map (·.2)

def erase (id : Correlation) (pending : Pending) : Pending :=
  { pending with live := pending.live.filter fun entry => entry.1 != id }

/-- A later request with the same number takes the place of the earlier one. -/
def register (id : Correlation) (ticket : Ticket) (pending : Pending) : Pending :=
  { pending with live := (pending.erase id).live ++ [(id, ticket)] }

/-- The number stays reserved, and the oldest reserved one makes room for it. -/
def expire (id : Correlation) (pending : Pending) : Pending :=
  match pending.find? id with
  | none => pending
  | some _ =>
    let kept := if pending.expired.length = expiredCapacity then pending.expired.drop 1
      else pending.expired
    { pending.erase id with expired := kept ++ [id] }

/-- Whether the number is remembered; it is then remembered once less. -/
def recognise (id : Correlation) (pending : Pending) : Bool × Pending :=
  if id ∈ pending.expired then (true, { pending with expired := pending.expired.erase id })
  else (false, pending)

end Pending

end FrameLink.Link
