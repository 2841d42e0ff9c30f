import FrameLink.Proofs.Wait.Queue
/-!
The line of the calls that wait at a queue: first those that are woken, then those that are parked.
Rings only move the border between the two.
-/

namespace FrameLink.Wait

namespace Bell

variable {bell : Bell} {count : Nat} {ticket : Ticket}

def line (bell : Bell) : List Ticket := bell.woken ++ bell.parked

/-- While a call is parked, each of so many items has a woken call that is to look for it. -/
def Covers (bell : Bell) (count : Nat) : Prop :=
  bell.parked ≠ [] → bell.permit = false ∧ count ≤ bell.woken.length

@[simp] theorem line_ring (bell : Bell) : bell.ring.line = bell.line := by
  obtain ⟨permit, parked, woken⟩ := bell
  cases parked with
  | nil => rfl
  | cons ticket rest => simp [ring, line]

theorem line_leave (ticket : Ticket) (bell : Bell) :
    (bell.leave ticket).line = bell.line.erase ticket := by
  rw [leave]
  split
  next woken => rw [line_ring, line, line, rouse, List.erase_append_left _ woken]
  next other => rw [line, line, List.erase_append_right _ other]

namespace Covers

theorem ring (covers : Covers bell count) : Covers bell.ring (count + 1) := by
  obtain ⟨permit, parked, woken⟩ := bell
  cases parked with
  | nil => exact fun some => absurd rfl some
  | cons ticket rest =>
    intro _
    obtain ⟨silent, enough⟩ := covers (List.cons_ne_nil ticket rest)
    exact ⟨silent, by simpa [Bell.ring] using enough⟩

theorem fewer {less : Nat} (covers : Covers bell count) (fewer : less ≤ count) :
    Covers bell less := by
  intro parked
  obtain ⟨silent, enough⟩ := covers parked
  exact ⟨silent, fewer.trans enough⟩

theorem rouse (covers : Covers bell count) (woken : ticket ∈ bell.woken) :
    Covers (bell.rouse ticket) (count - 1) := by
  intro parked
  obtain ⟨silent, enough⟩ := covers parked
  refine ⟨silent, ?_⟩
  rw [Bell.rouse, List.length_erase_of_mem woken]
  omega

theorem leave (covers : Covers bell count) : Covers (bell.leave ticket) count := by
  rw [Bell.leave]
  split
  next woken => exact (covers.rouse woken).ring.fewer (by omega)
  next other =>
    intro parked
    apply covers
    intro none
    simp [none] at parked

end Covers

end Bell

namespace Awaited

variable {σ α : Type} [Queue σ α] [LawfulQueue σ α] {place : Awaited σ}

open LawfulQueue

inductive Attends (ticket : Ticket) (place : Awaited σ) : Option α → Awaited σ → Prop
  | finds {item : α} {queue : σ} (sound : Sound queue)
      (first : items place.queue = item :: items queue) :
      Attends ticket place (some item) ⟨queue, place.bell⟩
  | parks {queue : σ} (sound : Sound queue) (nothing : items place.queue = [])
      (still : items queue = []) :
      Attends ticket place none
        ⟨queue, ⟨false, place.bell.parked ++ [ticket], place.bell.woken⟩⟩

theorem attend_attends (ticket : Ticket) (sound : Sound place.queue) :
    Attends ticket place (place.attend ticket).1 (place.attend ticket).2 := by
  obtain ⟨queue, permit, parked, woken⟩ := place
  rw [attend, look]
  rcases popped : Queue.pop queue with ⟨_ | item, left⟩
  · obtain ⟨sound', nothing, still⟩ := pop_none sound popped
    cases permit with
    | false => exact .parks sound' nothing still
    | true =>
      -- The remembered ring is spent, and the queue is as empty at the second look.
      rcases again : Queue.pop left with ⟨_ | item, last⟩
      · obtain ⟨sound'', -, empty⟩ := pop_none sound' again
        simp only [park, Bell.park, look, if_true, again, Bool.false_eq_true, if_false]
        exact .parks sound'' nothing empty
      · cases still.symm.trans (pop_some sound' again).2
  · obtain ⟨sound', first⟩ := pop_some sound popped
    exact .finds sound' first

end Awaited

end FrameLink.Wait
