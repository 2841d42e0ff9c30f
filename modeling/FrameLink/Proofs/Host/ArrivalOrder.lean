import Mathlib
import FrameLink.Proofs.Host.Queues
/-!
Seen from outside, the queues of all clients are one line of messages in the order of their arrival.
Any sequence of operations gets the answers that it would get from that line.
-/

namespace FrameLink.Host

variable {α : Type}

inductive Act (α : Type) where
  | push (envelope : Envelope α)
  | pop
  | popFrom (client : ClientId)
  | purge (client : ClientId)
  | peek
  | size
  | isEmpty
  | hasFrom (client : ClientId)
deriving DecidableEq

inductive Answer (α : Type) where
  | done
  | message (found : Option (Envelope α))
  | count (n : Nat)
  | flag (holds : Bool)
deriving DecidableEq

def Act.isPush : Act α → Bool
  | .push _ => true
  | _ => false

/-- Whether all that it adds or takes belongs to one client. -/
def Act.Concerns (client : ClientId) : Act α → Prop
  | .push envelope => envelope.client = client
  | .popFrom target | .purge target => target = client
  | .pop => False
  | .peek | .size | .isEmpty | .hasFrom _ => True

def Queues.perform (queues : Queues α) : Act α → Answer α × Queues α
  | .push envelope => (.done, queues.push envelope)
  | .pop => (.message queues.pop.1, queues.pop.2)
  | .popFrom client => (.message (queues.popFrom client).1, (queues.popFrom client).2)
  | .purge client => (.count (queues.purge client).1, (queues.purge client).2)
  | .peek => (.message queues.peek.1, queues.peek.2)
  | .size => (.count queues.size, queues)
  | .isEmpty => (.flag queues.isEmpty, queues)
  | .hasFrom client => (.flag (queues.hasFrom client), queues)

/-- All messages, in the order in which they arrived. -/
abbrev Line (α : Type) := List (Envelope α)

namespace Line

def without (client : ClientId) (line : Line α) : Line α :=
  line.filter fun envelope => envelope.client != client

def perform (line : Line α) : Act α → Answer α × Line α
  | .push envelope => (.done, line ++ [envelope])
  | .pop => (.message line.head?, line.tail)
  | .popFrom client =>
    (.message (line.find? fun envelope => envelope.client == client),
      line.eraseP fun envelope => envelope.client == client)
  | .purge client =>
    (.count (line.countP fun envelope => envelope.client == client), line.without client)
  | .peek => (.message line.head?, line)
  | .size => (.count line.length, line)
  | .isEmpty => (.flag line.isEmpty, line)
  | .hasFrom client => (.flag (line.any fun envelope => envelope.client == client), line)

end Line

/-- The answers to a sequence of acts, the first one first, and what is left in the end. -/
def answers {σ : Type} (perform : σ → Act α → Answer α × σ) : List (Act α) → σ → List (Answer α) × σ
  | [], state => ([], state)
  | act :: rest, state =>
    match perform state act with
    | (answer, state) =>
      match answers perform rest state with
      | (later, state) => (answer :: later, state)

theorem Line.without_erase (client : ClientId) (line : Line α) :
    Line.without client (line.eraseP fun envelope => envelope.client == client) =
      line.without client := by
  induction line with
  | nil => rfl
  | cons envelope line ih =>
    simp only [Line.without] at ih ⊢
    by_cases own : envelope.client = client
    · simp [own]
    · simp [own, ih]

theorem Line.without_perform (client : ClientId) (line : Line α) (act : Act α)
    (concerns : act.Concerns client) :
    Line.without client (line.perform act).2 = line.without client := by
  cases act with
  | push envelope =>
    change envelope.client = client at concerns
    simp [Line.perform, Line.without, concerns]
  | pop => exact concerns.elim
  | popFrom target =>
    change target = client at concerns
    subst concerns
    exact Line.without_erase target line
  | purge target =>
    change target = client at concerns
    subst concerns
    simp [Line.perform, Line.without]
  | peek => rfl
  | size => rfl
  | isEmpty => rfl
  | hasFrom _ => rfl

namespace Queues

theorem map_find? (client : ClientId) (line : List (Placed α)) :
    (line.map (·.2)).find? (fun envelope => envelope.client == client) =
      (line.find? (isOf client)).map (·.2) := by
  rw [List.find?_map]
  rfl

theorem map_eraseP (client : ClientId) (line : List (Placed α)) :
    (line.map (·.2)).eraseP (fun envelope => envelope.client == client) =
      (line.eraseP (isOf client)).map (·.2) := by
  rw [List.eraseP_map]
  rfl

theorem map_without (client : ClientId) (line : List (Placed α)) :
    Line.without client (line.map (·.2)) =
      (line.filter fun item => !isOf client item).map (·.2) := by
  rw [Line.without, List.filter_map]
  rfl

theorem perform_represents {queues : Queues α} {line : List (Placed α)}
    (represents : Represents queues line) (act : Act α) :
    (queues.perform act).1 = (Line.perform (line.map (·.2)) act).1 ∧
      ∃ left, Represents (queues.perform act).2 left ∧
        left.map (·.2) = (Line.perform (line.map (·.2)) act).2 := by
  cases act with
  | push envelope =>
    exact ⟨rfl, _, push_represents represents envelope, by simp [Line.perform]⟩
  | pop =>
    have popped := pop_represents represents
    refine ⟨?_, _, popped.2, ?_⟩
    · simp only [perform, Line.perform, popped.1, List.head?_map]
    · simp only [Line.perform, List.map_tail]
  | popFrom client =>
    have popped := popFrom_represents represents client
    refine ⟨?_, _, popped.2, ?_⟩
    · simp only [perform, Line.perform, popped.1, map_find?]
    · simp only [Line.perform, map_eraseP]
  | purge client =>
    have purged := purge_represents represents client
    refine ⟨?_, _, purged.2, ?_⟩
    · simp only [perform, Line.perform, purged.1, List.countP_map]
      rfl
    · simp only [Line.perform, map_without]
  | peek =>
    have seen := peek_represents represents
    refine ⟨?_, _, seen.2, rfl⟩
    simp only [perform, Line.perform, seen.1, List.head?_map]
  | size =>
    refine ⟨?_, _, represents, rfl⟩
    simp only [perform, Line.perform, represents.size, List.length_map]
  | isEmpty =>
    refine ⟨?_, _, represents, rfl⟩
    simp only [perform, Line.perform, isEmpty_represents represents.toHolds, List.isEmpty_map]
  | hasFrom client =>
    refine ⟨?_, _, represents, rfl⟩
    simp only [perform, Line.perform, hasFrom_represents represents.toHolds, List.any_map]
    rfl

theorem answers_represent {queues : Queues α} {line : List (Placed α)}
    (represents : Represents queues line) (acts : List (Act α)) :
    (answers perform acts queues).1 = (answers Line.perform acts (line.map (·.2))).1 ∧
      ∃ left, Represents (answers perform acts queues).2 left ∧
        left.map (·.2) = (answers Line.perform acts (line.map (·.2))).2 := by
  induction acts generalizing queues line with
  | nil => exact ⟨rfl, line, represents, rfl⟩
  | cons act acts ih =>
    obtain ⟨same, left, kept, after⟩ := perform_represents represents act
    have rest := ih kept
    rw [after] at rest
    simp only [answers]
    exact ⟨by rw [same, rest.1], rest.2⟩

/-! ## Places -/

@[simp] theorem next_compact (queues : Queues α) : queues.compact.next = queues.next := by
  unfold compact
  split <;> rfl

@[simp] theorem next_popFrom (queues : Queues α) (client : ClientId) :
    (queues.popFrom client).2.next = queues.next := by
  unfold popFrom
  split
  · rfl
  · rw [next_compact]
    rfl

@[simp] theorem next_pop (queues : Queues α) : queues.pop.2.next = queues.next := by
  simp only [pop]
  split
  · rfl
  · rw [next_popFrom]
    rfl

@[simp] theorem next_peek (queues : Queues α) : queues.peek.2.next = queues.next := by
  simp only [peek]
  split <;> rfl

theorem next_perform (queues : Queues α) (act : Act α) :
    (queues.perform act).2.next = queues.next + if act.isPush then 1 else 0 := by
  cases act <;> simp [perform, Act.isPush, push, purge, put]

theorem next_answers (acts : List (Act α)) (queues : Queues α) :
    (answers perform acts queues).2.next = queues.next + acts.countP Act.isPush := by
  induction acts generalizing queues with
  | nil => rfl
  | cons act acts ih =>
    simp only [answers, ih, next_perform, List.countP_cons]
    omega

/-- Any acts on empty queues get the answers of one line in arrival order. No more places are taken
than there are pushes, so fewer than 2^64 pushes number them with 64 bits. And at any time, what
concerns one client leaves the messages of the others as they are in that line. -/
theorem answers_eq_line (acts : List (Act α)) :
    (answers perform acts {}).1 = (answers Line.perform acts []).1 ∧
      (answers perform acts {}).2.next = acts.countP Act.isPush ∧
      ∀ client act, act.Concerns client →
        Line.without client ((answers Line.perform acts []).2.perform act).2 =
          Line.without client (answers Line.perform acts []).2 := by
  refine ⟨(answers_represent represents_empty acts).1, ?_, ?_⟩
  · rw [next_answers]
    exact Nat.zero_add _
  · intro client act concerns
    exact Line.without_perform client _ act concerns

end Queues

end FrameLink.Host
