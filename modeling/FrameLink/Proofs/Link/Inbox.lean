import FrameLink.Link.Exchange
import FrameLink.Proofs.Wait.Records
/-!
The inbox of a connection: every response that comes goes to one call, is discarded once, or stays,
and the calls that wait for one are served in the order in which they began to wait.
-/

namespace FrameLink.Link.Exchange

open Wait Wait.Reception

variable {α : Type}

theorem push_inbox (body : α) (exchange : Exchange α) :
    (exchange.push body).inbox = exchange.inbox.arrive (Queue.push body) := rfl

theorem clear_inbox (exchange : Exchange α) :
    exchange.clear.2.inbox =
      exchange.inbox.quietly fun bodies => (Withdrawal.withdraw () bodies).2 := rfl

def quiet : Record (List α) α := { reception := { place := ({} : Exchange α).inbox } }

theorem quiet_sound : (quiet : Record (List α) α).Sound := Record.sound_start trivial rfl

/-- Whatever is pushed, discarded, begun, cancelled or runs out of time, in any order: the responses
that came are those that calls returned, then those discarded and those still queued, in the order in
which they came. The history is fair, time takes no response, and it can always go on. What an exchange
does that has such an inbox is the move of that name. -/
theorem responses_returned_in_order (moves : List (Move Unit α)) :
    let record := quiet.run moves
    pushed record.past = departed record.past ++ record.reception.place.queue ∧
      record.Fair ∧
      (∀ (span : Duration) events next,
        record.reception.step? (.passes span : Move Unit α) = some (events, next) →
          next.place.queue = record.reception.place.queue) ∧
      (∀ limit, record.reception.now ≤ limit → ∃ later : List (Move Unit α),
        (∀ move ∈ later, move = .looks ∨ ∃ span, move = .passes span) ∧
          (record.run later).reception.now = limit) ∧
      ∀ exchange : Exchange α, exchange.inbox = record.reception.place →
        (∀ body, (record.step (.pushes body : Move Unit α)).reception.place =
          (exchange.push body).inbox) ∧
        (record.step (.withdraws () : Move Unit α)).reception.place = exchange.clear.2.inbox ∧
        (record.step (.withdraws () : Move Unit α)).past =
          record.past ++ [.withdrawn exchange.inbox.queue] := by
  intro record
  have sound : record.Sound := quiet_sound.run moves
  refine ⟨?_, sound.fair, fun span events next => passes_queue, fun limit => Record.reaches sound, ?_⟩
  · exact quiet_sound.account (fun _ queue _ => (List.append_nil queue).symm) rfl moves
  · intro exchange own
    refine ⟨fun body => ?_, ?_, ?_⟩
    · rw [push_inbox, own]
      rfl
    · rw [clear_inbox, own]
      rfl
    · rw [own]
      rfl

end FrameLink.Link.Exchange
