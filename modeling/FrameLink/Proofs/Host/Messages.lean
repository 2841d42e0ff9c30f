import FrameLink.Proofs.Host.ArrivalOrder
/-!
What queues hold, as one list: the messages in the order in which they would be taken out. Queues that
have grown from empty ones by any acts are sound, and of sound queues this list is all that matters.
-/

namespace FrameLink.Host

variable {α : Type}

/-- Whether a message may be taken for the client given, where none stands for all. -/
def Envelope.isFor (target : Option ClientId) (envelope : Envelope α) : Bool :=
  target.all fun client => envelope.client == client

theorem Envelope.find?_isFor_none (line : Line α) :
    (line.find? fun envelope => envelope.isFor none) = line.head? := by
  cases line <;> rfl

theorem Envelope.eraseP_isFor_none (line : Line α) :
    (line.eraseP fun envelope => envelope.isFor none) = line.tail := by
  cases line <;> rfl

namespace Queues

/-- The next messages to be taken out, so many at most. -/
def drain : Nat → Queues α → Line α
  | 0, _ => []
  | count + 1, queues =>
    match queues.pop with
    | (none, _) => []
    | (some envelope, queues) => envelope :: queues.drain count

/-- All that is queued, oldest first. -/
def messages (queues : Queues α) : Line α := queues.drain queues.size

def Reached (queues : Queues α) : Prop :=
  ∃ acts : List (Act α), queues = (answers perform acts {}).2

/-- Some line of messages is all that an observer can see of the queues. -/
def Sound (queues : Queues α) : Prop := ∃ line, Represents queues line

theorem drain_represents {queues : Queues α} {line : List (Placed α)}
    (represents : Represents queues line) : queues.drain line.length = line.map (·.2) := by
  induction line generalizing queues with
  | nil => rfl
  | cons item line ih =>
    have popped := pop_represents represents
    rw [List.length_cons, drain]
    split
    next found =>
      rw [found] at popped
      simp at popped
    next envelope left found =>
      rw [found] at popped
      obtain ⟨same, rest⟩ := popped
      simp only [List.head?_cons, Option.map_some, Option.some.injEq] at same
      rw [List.map_cons, same, ih rest]

theorem messages_represents {queues : Queues α} {line : List (Placed α)}
    (represents : Represents queues line) : queues.messages = line.map (·.2) := by
  rw [messages, represents.size, drain_represents represents]

theorem pop_empty {queues : Queues α} (represents : Represents queues []) :
    queues.pop = (none, queues) := by
  have bare : queues.arrivals = [] := List.eq_nil_of_length_eq_zero (Nat.le_zero.mp represents.bounded)
  have settled : queues.settle = queues := by rw [settle, bare, List.dropWhile_nil, ← bare]
  rw [pop, settled]
  simp only [bare]

theorem sound_empty : Sound ({} : Queues α) := ⟨[], represents_empty⟩

namespace Sound

variable {queues : Queues α}

theorem perform (sound : queues.Sound) (act : Act α) :
    (queues.perform act).1 = (Line.perform queues.messages act).1 ∧
      (queues.perform act).2.Sound ∧
      (queues.perform act).2.messages = (Line.perform queues.messages act).2 := by
  obtain ⟨line, represents⟩ := sound
  obtain ⟨same, left, kept, after⟩ := perform_represents represents act
  rw [messages_represents represents, messages_represents kept]
  exact ⟨same, ⟨left, kept⟩, after⟩

theorem answers (sound : queues.Sound) (acts : List (Act α)) :
    (answers Queues.perform acts queues).2.Sound := by
  induction acts generalizing queues with
  | nil => exact sound
  | cons act acts ih => exact ih (sound.perform act).2.1

theorem ofReached (reached : queues.Reached) : queues.Sound := by
  obtain ⟨acts, rfl⟩ := reached
  exact sound_empty.answers acts

theorem push (sound : queues.Sound) (envelope : Envelope α) : (queues.push envelope).Sound :=
  (sound.perform (.push envelope)).2.1

theorem messages_push (sound : queues.Sound) (envelope : Envelope α) :
    (queues.push envelope).messages = queues.messages ++ [envelope] :=
  (sound.perform (.push envelope)).2.2

theorem pop (sound : queues.Sound) : queues.pop.2.Sound := (sound.perform .pop).2.1

theorem pop_eq (sound : queues.Sound) : queues.pop.1 = queues.messages.head? :=
  Answer.message.inj (sound.perform .pop).1

theorem messages_pop (sound : queues.Sound) : queues.pop.2.messages = queues.messages.tail :=
  (sound.perform .pop).2.2

theorem popFrom (sound : queues.Sound) (client : ClientId) : (queues.popFrom client).2.Sound :=
  (sound.perform (.popFrom client)).2.1

theorem popFrom_eq (sound : queues.Sound) (client : ClientId) :
    (queues.popFrom client).1 = queues.messages.find? fun envelope => envelope.client == client :=
  Answer.message.inj (sound.perform (.popFrom client)).1

theorem messages_popFrom (sound : queues.Sound) (client : ClientId) :
    (queues.popFrom client).2.messages =
      queues.messages.eraseP fun envelope => envelope.client == client :=
  (sound.perform (.popFrom client)).2.2

theorem hasFrom_eq (sound : queues.Sound) (client : ClientId) :
    queues.hasFrom client = queues.messages.any fun envelope => envelope.client == client :=
  Answer.flag.inj (sound.perform (.hasFrom client)).1

theorem hasFrom_eq_false_iff (sound : queues.Sound) (client : ClientId) :
    queues.hasFrom client = false ↔ ∀ envelope ∈ queues.messages, envelope.client ≠ client := by
  rw [sound.hasFrom_eq]
  simp

theorem purge (sound : queues.Sound) (client : ClientId) : (queues.purge client).2.Sound :=
  (sound.perform (.purge client)).2.1

theorem messages_purge (sound : queues.Sound) (client : ClientId) :
    (queues.purge client).2.messages = queues.messages.without client :=
  (sound.perform (.purge client)).2.2

theorem ofClient_eq (sound : queues.Sound) (client : ClientId) :
    (queues.ofClient client).map (·.2) =
      queues.messages.filter fun envelope => envelope.client == client := by
  obtain ⟨line, represents⟩ := sound
  rw [represents.contents, messages_represents represents, List.filter_map]
  rfl

theorem take (sound : queues.Sound) (target : Option ClientId) : (queues.take target).2.Sound := by
  cases target with
  | none => exact sound.pop
  | some client => exact sound.popFrom client

theorem take_eq (sound : queues.Sound) (target : Option ClientId) :
    (queues.take target).1 = queues.messages.find? fun envelope => envelope.isFor target := by
  cases target with
  | none => exact sound.pop_eq.trans (Envelope.find?_isFor_none _).symm
  | some client => exact sound.popFrom_eq client

theorem messages_take (sound : queues.Sound) (target : Option ClientId) :
    (queues.take target).2.messages =
      queues.messages.eraseP fun envelope => envelope.isFor target := by
  cases target with
  | none => exact sound.messages_pop.trans (Envelope.eraseP_isFor_none _).symm
  | some client => exact sound.messages_popFrom client

/-- Without a message to take the queues stay as they are, stale arrivals included. -/
theorem take_none (sound : queues.Sound) {target : Option ClientId}
    (absent : (queues.messages.find? fun envelope => envelope.isFor target) = none) :
    queues.take target = (none, queues) := by
  obtain ⟨line, represents⟩ := sound
  rw [messages_represents represents] at absent
  cases target with
  | none =>
    rw [Envelope.find?_isFor_none, List.head?_eq_none_iff, List.map_eq_nil_iff] at absent
    subst absent
    exact pop_empty represents
  | some client =>
    refine popFrom_none represents.toHolds ?_
    rw [List.find?_map, Option.map_eq_none_iff] at absent
    exact absent

end Sound

end Queues

end FrameLink.Host
