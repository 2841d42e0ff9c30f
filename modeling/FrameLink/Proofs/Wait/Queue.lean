import FrameLink.Proofs.Host.Messages
import FrameLink.Wait.Awaited
/-!
Stores that are, to those who put items in and take them out, a line of items.
-/

namespace FrameLink.Wait

/-- An item goes to the end of the line, and the first of the line comes out. -/
class LawfulQueue (σ : Type) (α : outParam Type) [Queue σ α] where
  Sound : σ → Prop
  items : σ → List α
  sound_push : ∀ {queue : σ} (item : α), Sound queue → Sound (Queue.push item queue)
  items_push : ∀ {queue : σ} (item : α), Sound queue →
    items (Queue.push item queue) = items queue ++ [item]
  sound_pop : ∀ {queue : σ}, Sound queue → Sound (Queue.pop queue).2
  pop_eq : ∀ {queue : σ}, Sound queue → (Queue.pop queue).1 = (items queue).head?
  items_pop : ∀ {queue : σ}, Sound queue → items (Queue.pop queue).2 = (items queue).tail

instance {α : Type} : LawfulQueue (List α) α where
  Sound _ := True
  items := id
  sound_push _ _ := trivial
  items_push _ _ := rfl
  sound_pop _ := trivial
  pop_eq {queue} _ := by cases queue <;> rfl
  items_pop {queue} _ := by cases queue <;> rfl

instance {α : Type} : LawfulQueue (Host.Queues α) (Host.Envelope α) where
  Sound := Host.Queues.Sound
  items := Host.Queues.messages
  sound_push envelope sound := sound.push envelope
  items_push envelope sound := sound.messages_push envelope
  sound_pop sound := sound.pop
  pop_eq sound := sound.pop_eq
  items_pop sound := sound.messages_pop

namespace LawfulQueue

variable {σ α : Type} [Queue σ α] [LawfulQueue σ α] {queue queue' : σ} {item : α}

theorem pop_some (sound : Sound queue) (popped : Queue.pop queue = (some item, queue')) :
    Sound queue' ∧ items queue = item :: items queue' := by
  have first := pop_eq sound
  have rest := items_pop sound
  have kept := sound_pop sound
  rw [popped] at first rest kept
  obtain ⟨others, line⟩ := List.head?_eq_some_iff.mp first.symm
  rw [line] at rest ⊢
  exact ⟨kept, congrArg (item :: ·) rest.symm⟩

theorem pop_none (sound : Sound queue) (popped : Queue.pop queue = (none, queue')) :
    Sound queue' ∧ items queue = [] ∧ items queue' = [] := by
  have first := pop_eq sound
  have rest := items_pop sound
  have kept := sound_pop sound
  rw [popped] at first rest kept
  have none := List.head?_eq_none_iff.mp first.symm
  rw [none] at rest
  exact ⟨kept, none, rest⟩

end LawfulQueue

end FrameLink.Wait
