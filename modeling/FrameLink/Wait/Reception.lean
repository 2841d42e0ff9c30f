import FrameLink.Wait.Awaited
/-!
The calls that wait at a queue, among tasks that run in turn, on a clock that moves only when all of
them wait. Between the wake-up of a call and its look anything else may happen.
-/

namespace FrameLink.Wait

class Withdrawal (ω σ : Type) (α : outParam Type) where
  withdraw : ω → σ → List α × σ

instance {α : Type} : Withdrawal Unit (List α) α where
  withdraw _ items := (items, [])

structure Reception (σ : Type) where
  place : Awaited σ
  /-- in the order in which they began -/
  calls : List Deadline := []
  tickets : Ticket := 0
  now : Instant := 0

namespace Reception

inductive Move (ω α : Type) where
  | pushes (item : α)
  | withdraws (way : ω)
  /-- a call begins, and looks -/
  | begins (timeout : Duration)
  /-- the call that has been woken longest looks again -/
  | looks
  | cancels (ticket : Ticket)
  /-- time passes, up to the next deadline at most -/
  | passes (span : Duration)

inductive Event (α : Type) where
  | pushed (item : α)
  | withdrawn (items : List α)
  | begun (call : Deadline)
  /-- the call has found nothing, and waits from now on -/
  | waited (ticket : Ticket)
  | returned (ticket : Ticket) (item : α)
  | cancelled (ticket : Ticket)
  | expired (ticket : Ticket) (moment : Instant)

variable {σ α ω : Type}

def quit (ticket : Ticket) (reception : Reception σ) : Reception σ :=
  { reception with
    place := reception.place.leave ticket
    calls := reception.calls.filter fun call => call.ticket != ticket }

def expire : List Deadline → Reception σ → List (Event α) × Reception σ
  | [], reception => ([], reception)
  | call :: rest, reception =>
    match expire rest (reception.quit call.ticket) with
    | (events, after) => (.expired call.ticket reception.now :: events, after)

def lapse (reception : Reception σ) : List (Event α) × Reception σ :=
  expire (passing reception.now reception.calls) reception

/-- The next moment at which a call ends, if it comes before `limit`. -/
def nextMoment (limit : Instant) (reception : Reception σ) : Instant :=
  reception.calls.foldl (fun moment call => min moment call.instant) limit

variable [Queue σ α] [Withdrawal ω σ α]

/-- What a move brings about. One that does not fit where things are cannot be made. -/
def step? (reception : Reception σ) : Move ω α → Option (List (Event α) × Reception σ)
  | .pushes item =>
    some ([.pushed item],
      { reception with place := reception.place.arrive (Queue.push item) })
  | .withdraws way =>
    match Withdrawal.withdraw way reception.place.queue with
    | (items, queue) =>
      some ([.withdrawn items],
        { reception with place := reception.place.quietly fun _ => queue })
  | .begins timeout =>
    let call : Deadline := ⟨reception.tickets, reception.now + timeout.nanos⟩
    match reception.place.attend call.ticket with
    | (some item, place) =>
      some ([.begun call, .returned call.ticket item],
        { reception with place, tickets := reception.tickets + 1 })
    | (none, place) =>
      match lapse { reception with
          place, calls := reception.calls ++ [call], tickets := reception.tickets + 1 } with
      | (expired, reception) => some (.begun call :: .waited call.ticket :: expired, reception)
  | .looks =>
    match reception.place.bell.woken with
    | [] => none
    | ticket :: _ =>
      match reception.place.wake ticket with
      | (some item, place) =>
        some ([.returned ticket item],
          { reception with
            place, calls := reception.calls.filter fun call => call.ticket != ticket })
      | (none, place) => some ([.waited ticket], { reception with place })
  | .cancels ticket =>
    if reception.calls.any fun call => call.ticket == ticket then
      some ([.cancelled ticket], reception.quit ticket)
    else none
  | .passes span =>
    match reception.place.bell.woken with
    | [] =>
      some (lapse { reception with now := reception.nextMoment (reception.now + span.nanos) })
    | _ :: _ => none

structure Record (σ α : Type) where
  past : List (Event α) := []
  reception : Reception σ

namespace Record

def step (record : Record σ α) (move : Move ω α) : Record σ α :=
  match record.reception.step? move with
  | some (events, reception) => ⟨record.past ++ events, reception⟩
  | none => record

/-- The moves that can be made, one after the other. -/
def run (moves : List (Move ω α)) (record : Record σ α) : Record σ α := moves.foldl step record

end Record

end Reception

end FrameLink.Wait
