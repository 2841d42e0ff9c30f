import Mathlib
import FrameLink.Proofs.Link.Books
import FrameLink.Proofs.Link.OverSockets
/-!
A course is one of the lives that a connection over sockets can have, with a deed a move at most. So
what holds of every life holds of every course.
-/

namespace FrameLink.Link.Connection.Course

open Wait

variable {α β : Type}

def life (course : Course α) : Life SocketTransport α := ⟨course.connection, course.finished⟩

theorem lives_of_step [Wire α] [Wire β] {course next : Course α} (deed : Deed SocketTransport β)
    (lived : course.life.step deed = next.life) :
    ∃ deeds : List (Deed SocketTransport β), deeds.length ≤ 1 ∧ course.life.run deeds = next.life :=
  ⟨[deed], Nat.le_refl _, lived⟩

/-- A move that can be made is a deed, or nothing befalls the connection. -/
theorem step?_lives [Wire α] [Wire β] {course next : Course α} {move : Move β}
    (step : course.step? move = some next) :
    ∃ deeds : List (Deed SocketTransport β), deeds.length ≤ 1 ∧ course.life.run deeds = next.life := by
  cases step?_makes step with
  | fails => exact ⟨[], Nat.zero_le _, rfl⟩
  | @dials address port verbose url idle quiet =>
    refine lives_of_step (.dials url verbose) ?_
    simp [Life.step, life, quiet]
  | looks dial =>
    rcases look_eq dial course with ⟨attempts, same⟩ | same <;> rw [same]
    · exact ⟨[], Nat.zero_le _, rfl⟩
    · exact lives_of_step (.concludes dial.url) rfl
  | sends body => exact lives_of_step (.sends body) rfl
  | receives timeout => exact lives_of_step (.receives timeout) rfl
  | requests body timeout => exact lives_of_step (.requests body timeout) rfl
  | @waits ticket call left found attended =>
    refine lives_of_step (.attends ticket) ?_
    simp only [Life.step, life, found, attended]
  | @returns ticket call outcome left found attended =>
    refine lives_of_step (.attends ticket) ?_
    simp only [Life.step, life, found, attended]
    rfl
  | cancels ticket cancelled =>
    refine lives_of_step (.cancels ticket) ?_
    simp only [Life.step, life, cancelled]
  | @lapses ticket call found late =>
    refine lives_of_step (.lapses ticket) ?_
    have found : course.life.connection.call? ticket = some call := found
    have late : ¬course.life.connection.now < call.deadline := late
    simp only [Life.step, found, if_neg late]
    rfl
  | pumps channel event events heard =>
    refine lives_of_step .pumps ?_
    simp only [Life.step, life, heard]
  | disconnects => exact lives_of_step .disconnects rfl
  | stirs transport reports log => exact lives_of_step (.stirs transport reports log) rfl
  | passes span => exact lives_of_step (.passes span) rfl

theorem run_lives [Wire α] [Wire β] (moves : List (Move β)) (course : Course α) :
    ∃ deeds : List (Deed SocketTransport β), deeds.length ≤ moves.length ∧
      course.life.run deeds = (course.run moves).life := by
  induction moves generalizing course with
  | nil => exact ⟨[], Nat.le_refl _, rfl⟩
  | cons move moves ih =>
    cases step : course.step? move with
    | none =>
      obtain ⟨deeds, few, lived⟩ := ih course
      refine ⟨deeds, Nat.le_succ_of_le few, ?_⟩
      rw [lived, run, run, List.foldl_cons, step, Option.getD_none]
    | some next =>
      obtain ⟨first, one, begun⟩ := step?_lives step
      obtain ⟨deeds, few, lived⟩ := ih next
      refine ⟨first ++ deeds, ?_, ?_⟩
      · rw [List.length_append, List.length_cons]
        omega
      · rw [← begun] at lived
        rw [Life.run, List.foldl_append]
        refine Eq.trans lived ?_
        rw [run, run, List.foldl_cons, step, Option.getD_some]

end FrameLink.Link.Connection.Course
