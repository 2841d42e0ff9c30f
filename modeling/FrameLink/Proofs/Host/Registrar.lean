import Mathlib
import FrameLink.Host.Registrar
import FrameLink.Proofs.Host.Sockets
/-!
The registry answers as an ordered map would that is asked everything in the order of sending. What it
lists is read off that order alone: a registration stands there until something later ends it.
-/

namespace FrameLink.Host

namespace Inquiry

/-- Whether it ends whatever registration a client had before. -/
def ends (client : ClientId) : Inquiry → Bool
  | .register endpoint => endpoint.id == client
  | .unregister target => target == client
  | .closeAll => true
  | .channelOf _ | .clients | .clientCount => false

def registered : Inquiry → List Endpoint
  | .register endpoint => [endpoint]
  | .unregister _ | .channelOf _ | .clients | .clientCount | .closeAll => []

/-- Whether it is about no other client than one. -/
def Concerns (client : ClientId) : Inquiry → Prop
  | .register endpoint => endpoint.id = client
  | .unregister target | .channelOf target => target = client
  | .clients | .clientCount => True
  | .closeAll => False

@[simp] theorem mem_registered {endpoint : Endpoint} {inquiry : Inquiry} :
    endpoint ∈ inquiry.registered ↔ inquiry = .register endpoint := by
  cases inquiry <;> simp [registered, eq_comm]

@[simp] theorem ends_register (client : ClientId) (endpoint : Endpoint) :
    ends client (.register endpoint) = (endpoint.id == client) := rfl

variable {inquiry : Inquiry} {client : ClientId}

theorem ends_eq_false_of_ne (concerns : inquiry.Concerns client) {other : ClientId}
    (differs : other ≠ client) : inquiry.ends other = false := by
  cases inquiry with
  | register endpoint => exact beq_eq_false_iff_ne.mpr fun same => differs (same ▸ concerns)
  | unregister target => exact beq_eq_false_iff_ne.mpr fun same => differs (same ▸ concerns)
  | channelOf _ | clients | clientCount => rfl
  | closeAll => exact concerns.elim

theorem id_of_registered (concerns : inquiry.Concerns client) {endpoint : Endpoint}
    (registers : endpoint ∈ inquiry.registered) : endpoint.id = client := by
  obtain rfl := mem_registered.mp registers
  exact concerns

end Inquiry

/-! ## What stands after a history of inquiries -/

/-- Nothing of what came later ends the registration. -/
def Endpoint.Outlasts (later : List Inquiry) (endpoint : Endpoint) : Prop :=
  ∀ inquiry ∈ later, inquiry.ends endpoint.id = false

instance (later : List Inquiry) (endpoint : Endpoint) : Decidable (endpoint.Outlasts later) :=
  inferInstanceAs (Decidable (∀ inquiry ∈ later, inquiry.ends endpoint.id = false))

/-- The registrations that outlast all that came later, the oldest first. -/
def standing : List Inquiry → List Endpoint
  | [] => []
  | inquiry :: later =>
    inquiry.registered.filter (fun endpoint => endpoint.Outlasts later) ++ standing later

/-- What was registered last under a client's number and has not ended since. -/
def Registered (history : List Inquiry) (endpoint : Endpoint) : Prop :=
  ∃ before later, history = before ++ .register endpoint :: later ∧ endpoint.Outlasts later

/-- Both stand, and one was registered before the other. -/
def Precedes (history : List Inquiry) (first second : Endpoint) : Prop :=
  ∃ before between later,
    history = before ++ .register first :: between ++ .register second :: later ∧
      first.Outlasts (between ++ .register second :: later) ∧ second.Outlasts later

structure Roster (history : List Inquiry) (clients : List Endpoint) : Prop where
  distinct : (clients.map (·.id)).Nodup
  listed : ∀ endpoint, endpoint ∈ clients ↔ Registered history endpoint
  ordered : clients.Pairwise (Precedes history)
  found : ∀ client endpoint, clients.find? (fun listed => listed.id == client) = some endpoint ↔
    endpoint.id = client ∧ Registered history endpoint

theorem mem_standing {history : List Inquiry} {endpoint : Endpoint} :
    endpoint ∈ standing history ↔ Registered history endpoint := by
  induction history with
  | nil =>
    refine ⟨fun absent => absurd absent List.not_mem_nil, fun ⟨before, later, empty, _⟩ => ?_⟩
    exact absurd empty.symm (List.append_ne_nil_of_right_ne_nil before (List.cons_ne_nil _ later))
  | cons inquiry later ih =>
    rw [standing, List.mem_append, List.mem_filter, Inquiry.mem_registered, ih, decide_eq_true_iff]
    constructor
    · rintro (⟨rfl, lasts⟩ | ⟨before, rest, rfl, lasts⟩)
      · exact ⟨[], later, rfl, lasts⟩
      · exact ⟨inquiry :: before, rest, rfl, lasts⟩
    · rintro ⟨before, rest, split, lasts⟩
      cases before with
      | nil =>
        obtain ⟨rfl, rfl⟩ := List.cons.inj split
        exact .inl ⟨rfl, lasts⟩
      | cons first before =>
        obtain ⟨rfl, rfl⟩ := List.cons.inj split
        exact .inr ⟨before, rest, rfl, lasts⟩

theorem ne_of_registered {later : List Inquiry} {earlier endpoint : Endpoint}
    (lasts : earlier.Outlasts later) (stands : Registered later endpoint) :
    earlier.id ≠ endpoint.id := by
  obtain ⟨before, rest, rfl, -⟩ := stands
  have kept := lasts (.register endpoint) (by simp)
  rw [Inquiry.ends_register, beq_eq_false_iff_ne] at kept
  exact kept.symm

theorem Precedes.cons {later : List Inquiry} {first second : Endpoint}
    (precedes : Precedes later first second) (inquiry : Inquiry) :
    Precedes (inquiry :: later) first second := by
  obtain ⟨before, between, rest, rfl, lasts, stays⟩ := precedes
  exact ⟨inquiry :: before, between, rest, rfl, lasts, stays⟩

theorem precedes_of_registered {later : List Inquiry} {first second : Endpoint}
    (lasts : first.Outlasts later) (stands : Registered later second) :
    Precedes (.register first :: later) first second := by
  obtain ⟨between, rest, rfl, stays⟩ := stands
  exact ⟨[], between, rest, rfl, lasts, stays⟩

theorem standing_cons (inquiry : Inquiry) (later : List Inquiry) :
    standing (inquiry :: later) = standing later ∨
      ∃ endpoint, inquiry = .register endpoint ∧ endpoint.Outlasts later ∧
        standing (inquiry :: later) = endpoint :: standing later := by
  cases inquiry with
  | register endpoint =>
    by_cases lasts : endpoint.Outlasts later
    · exact .inr ⟨endpoint, rfl, lasts, by simp [standing, Inquiry.registered, lasts]⟩
    · exact .inl (by simp [standing, Inquiry.registered, lasts])
  | unregister _ | channelOf _ | clients | clientCount | closeAll => exact .inl rfl

theorem find?_eq_some_of_nodup {clients : List Endpoint} (distinct : (clients.map (·.id)).Nodup)
    (client : ClientId) (endpoint : Endpoint) :
    clients.find? (fun listed => listed.id == client) = some endpoint ↔
      endpoint.id = client ∧ endpoint ∈ clients := by
  constructor
  · intro found
    exact ⟨by simpa using List.find?_some found, List.mem_of_find?_eq_some found⟩
  · rintro ⟨rfl, member⟩
    cases found : clients.find? fun listed => listed.id == endpoint.id with
    | none => exact absurd (List.find?_eq_none.mp found endpoint member) (by simp)
    | some other =>
      have same : other.id = endpoint.id := by simpa using List.find?_some found
      exact congrArg some
        (List.inj_on_of_nodup_map distinct (List.mem_of_find?_eq_some found) member same)

theorem nodup_standing (history : List Inquiry) : ((standing history).map (·.id)).Nodup := by
  induction history with
  | nil => exact List.nodup_nil
  | cons inquiry later ih =>
    rcases standing_cons inquiry later with same | ⟨first, -, lasts, more⟩
    · exact same ▸ ih
    · rw [more, List.map_cons, List.nodup_cons]
      refine ⟨fun again => ?_, ih⟩
      obtain ⟨endpoint, listed, same⟩ := List.mem_map.mp again
      exact ne_of_registered lasts (mem_standing.mp listed) same.symm

theorem pairwise_standing (history : List Inquiry) :
    (standing history).Pairwise (Precedes history) := by
  induction history with
  | nil => exact .nil
  | cons inquiry later ih =>
    have behind := ih.imp fun precedes => precedes.cons inquiry
    rcases standing_cons inquiry later with same | ⟨first, rfl, lasts, more⟩
    · exact same ▸ behind
    · rw [more, List.pairwise_cons]
      exact ⟨fun _ listed => precedes_of_registered lasts (mem_standing.mp listed), behind⟩

theorem roster_standing (history : List Inquiry) : Roster history (standing history) where
  distinct := nodup_standing history
  listed _ := mem_standing
  ordered := pairwise_standing history
  found client endpoint := by
    rw [find?_eq_some_of_nodup (nodup_standing history), mem_standing]

/-- What one more inquiry changes: it ends some registrations, and may add one behind the others. -/
theorem standing_concat (history : List Inquiry) (inquiry : Inquiry) :
    standing (history ++ [inquiry]) =
      (standing history).filter (fun endpoint => !inquiry.ends endpoint.id) ++
        inquiry.registered := by
  induction history with
  | nil => simp [standing, Endpoint.Outlasts]
  | cons first later ih =>
    have lasts (endpoint : Endpoint) : endpoint.Outlasts (later ++ [inquiry]) ↔
        inquiry.ends endpoint.id = false ∧ endpoint.Outlasts later := by
      simp [Endpoint.Outlasts, or_imp, forall_and, and_comm]
    simp only [List.cons_append, standing, ih, List.filter_append, List.filter_filter,
      List.append_assoc, lasts, Bool.decide_and, Bool.decide_eq_false]

/-! ## What is told -/

/-- The reply to an inquiry after all those before it. -/
def reply (past : List Inquiry) : Inquiry → Reply
  | .register _ => .registered
  | .unregister client =>
    .unregistered ((standing past).find? fun endpoint => endpoint.id == client).isSome
  | .channelOf client =>
    .channel (((standing past).find? fun endpoint => endpoint.id == client).map (·.channel))
  | .clients => .clients (standing past)
  | .clientCount => .count (standing past).length
  | .closeAll => .closed (standing past).length

def repliesFrom (past : List Inquiry) : List (Nat × Inquiry) → List (Nat × Except Error Reply)
  | [] => []
  | (asker, inquiry) :: later =>
    (asker, .ok (reply past inquiry)) :: repliesFrom (past ++ [inquiry]) later

theorem repliesFrom_concat (past : List Inquiry) (asked : List (Nat × Inquiry)) (asker : Nat)
    (inquiry : Inquiry) :
    repliesFrom past (asked ++ [(asker, inquiry)]) =
      repliesFrom past asked ++
        [(asker, .ok (reply (past ++ asked.map Prod.snd) inquiry))] := by
  induction asked generalizing past with
  | nil => simp [repliesFrom]
  | cons first later ih => simp [repliesFrom, ih]

theorem Registry.reply_unregister (client : ClientId) (registry : Registry) :
    (registry.handle (.unregister client)).1 = (registry.find? client).isSome := by
  have found : (registry.find? client).isSome = true ↔
      ∃ endpoint ∈ registry.endpoints, endpoint.id = client := by simp [find?]
  have fewer : (registry.erase client).endpoints.length < registry.endpoints.length ↔
      ∃ endpoint ∈ registry.endpoints, endpoint.id = client := by
    simp [erase, List.length_filter_lt_length_iff_exists]
  rw [Bool.eq_iff_iff, found, ← fewer, handle]
  split
  next less => exact iff_of_true rfl less
  next same => exact iff_of_false Bool.false_ne_true same

namespace Inquiry

theorem endpoints_answer (inquiry : Inquiry) (registry : Registry) :
    (inquiry.answer registry).2.1.endpoints =
      registry.endpoints.filter (fun endpoint => !inquiry.ends endpoint.id) ++
        inquiry.registered := by
  cases inquiry with
  | register endpoint =>
    simp [answer, Registry.handle, Registry.erase, ends, registered, bne, Bool.beq_comm]
  | unregister client =>
    change (registry.handle (.unregister client)).2.1.endpoints = _
    rw [Registry.handle_unregister]
    simp [Registry.erase, ends, registered, bne, Bool.beq_comm]
  | channelOf _ | clients | clientCount => simp [answer, Registry.handle, ends, registered]
  | closeAll => simp [answer, Registry.handle, ends, registered]

theorem reply_answer {past : List Inquiry} {registry : Registry}
    (same : registry.endpoints = standing past) (inquiry : Inquiry) :
    (inquiry.answer registry).1 = reply past inquiry := by
  cases inquiry with
  | register _ => rfl
  | unregister client =>
    rw [reply, ← same]
    exact congrArg Reply.unregistered (registry.reply_unregister client)
  | channelOf _ | clients | clientCount | closeAll =>
    rw [reply, ← same]
    rfl

end Inquiry

namespace Registrar

def Move.asked : Move → List (Nat × Inquiry)
  | .asks asker inquiry => [(asker, inquiry)]
  | .takes | .ends => []

/-- Everything that is asked in a run, in the order of sending. -/
def asked (moves : List Move) : List (Nat × Inquiry) := moves.flatMap Move.asked

/-- What was taken is answered in its order; the rest waits, or was told that the task has ended. -/
structure Served (taken left : List (Nat × Inquiry)) (registrar : Registrar) : Prop where
  clients : registrar.registry.endpoints = standing (taken.map Prod.snd)
  told : registrar.mailbox = some left ∧ registrar.told = repliesFrom [] taken ∨
    registrar.mailbox = none ∧
      registrar.told = repliesFrom [] taken ++ left.map unavailable

theorem served_new : Served [] [] {} := ⟨rfl, .inl ⟨rfl, rfl⟩⟩

namespace Served

variable {taken left : List (Nat × Inquiry)} {registrar : Registrar} {asker : Nat} {inquiry : Inquiry}

theorem takes (served : Served taken ((asker, inquiry) :: left) registrar)
    (runs : registrar.mailbox = some ((asker, inquiry) :: left)) :
    Served (taken ++ [(asker, inquiry)]) left (registrar.step .takes) := by
  obtain ⟨registry, mailbox, told, log⟩ := registrar
  obtain ⟨clients, ⟨-, told⟩ | ⟨ended, -⟩⟩ := served
  · cases runs
    cases told
    refine ⟨?_, .inl ⟨rfl, ?_⟩⟩
    · rw [List.map_append, List.map_singleton, standing_concat, ← clients]
      exact inquiry.endpoints_answer registry
    · rw [repliesFrom_concat, List.nil_append, ← inquiry.reply_answer clients]
      rfl
  · cases runs.symm.trans ended

theorem step (served : Served taken left registrar) (move : Move) :
    ∃ more rest, more ++ rest = left ++ move.asked ∧
      Served (taken ++ more) rest (registrar.step move) := by
  rcases served.told with ⟨runs, told⟩ | ⟨ended, told⟩
  · cases move with
    | asks asker inquiry =>
      refine ⟨[], left ++ [(asker, inquiry)], rfl, ?_⟩
      simp only [Registrar.step, runs, List.append_nil]
      exact ⟨served.clients, .inl ⟨rfl, told⟩⟩
    | takes =>
      cases left with
      | nil =>
        refine ⟨[], [], rfl, ?_⟩
        simpa only [Registrar.step, runs, List.append_nil] using served
      | cons first rest => exact ⟨[first], rest, (List.append_nil _).symm, served.takes runs⟩
    | ends =>
      refine ⟨[], left, (List.append_nil _).symm, ?_⟩
      simp only [Registrar.step, runs, List.append_nil]
      exact ⟨served.clients, .inr ⟨rfl, congrArg (· ++ left.map unavailable) told⟩⟩
  · cases move with
    | asks asker inquiry =>
      refine ⟨[], left ++ [(asker, inquiry)], rfl, ?_⟩
      simp only [Registrar.step, ended, List.append_nil]
      refine ⟨served.clients, .inr ⟨rfl, ?_⟩⟩
      rw [told, List.map_append, List.append_assoc]
      rfl
    | takes | ends =>
      refine ⟨[], left, (List.append_nil _).symm, ?_⟩
      simpa only [Registrar.step, ended, List.append_nil] using served

end Served

theorem served_run (moves : List Move) :
    ∃ taken left, taken ++ left = asked moves ∧ Served taken left (run moves {}) := by
  induction moves using List.reverseRecOn with
  | nil => exact ⟨[], [], rfl, served_new⟩
  | append_singleton moves move ih =>
    obtain ⟨taken, left, whole, served⟩ := ih
    obtain ⟨more, rest, added, next⟩ := served.step move
    refine ⟨taken ++ more, rest, ?_, ?_⟩
    · rw [List.append_assoc, added, ← List.append_assoc, whole, asked, asked, List.flatMap_append,
        List.flatMap_singleton]
    · rw [run, List.foldl_append]
      exact next

/-- As long as the task goes on taking, everyone is answered who has asked. -/
theorem Served.run_takes {taken left : List (Nat × Inquiry)} {registrar : Registrar}
    (served : Served taken left registrar) (runs : registrar.mailbox = some left) :
    (registrar.run (List.replicate left.length .takes)).told = repliesFrom [] (taken ++ left) := by
  induction left generalizing taken registrar with
  | nil =>
    rcases served.told with ⟨-, told⟩ | ⟨ended, -⟩
    · rw [List.append_nil]
      exact told
    · cases runs.symm.trans ended
  | cons first rest ih =>
    have next := served.takes runs
    have further : (registrar.step .takes).mailbox = some rest := by
      simp only [Registrar.step, runs]
    have rest := ih next further
    rwa [List.append_assoc] at rest

theorem step_takes {registrar : Registrar} {asker : Nat} {inquiry : Inquiry}
    {waiting : List (Nat × Inquiry)} (runs : registrar.mailbox = some ((asker, inquiry) :: waiting)) :
    (registrar.step .takes).registry.endpoints =
      registrar.registry.endpoints.filter (fun endpoint => !inquiry.ends endpoint.id) ++
        inquiry.registered := by
  simp only [step, runs]
  exact inquiry.endpoints_answer registrar.registry

theorem erase_step_takes {registrar : Registrar} {asker : Nat} {inquiry : Inquiry}
    {waiting : List (Nat × Inquiry)} (runs : registrar.mailbox = some ((asker, inquiry) :: waiting))
    {client : ClientId} (concerns : inquiry.Concerns client) :
    (registrar.step .takes).registry.erase client = registrar.registry.erase client := by
  have added : inquiry.registered.filter (fun endpoint => endpoint.id != client) = [] := by
    rw [List.filter_eq_nil_iff]
    intro endpoint registers
    simp [Inquiry.id_of_registered concerns registers]
  refine congrArg Registry.mk ?_
  rw [step_takes runs, List.filter_append, List.filter_filter, added, List.append_nil]
  refine List.filter_congr fun endpoint _ => ?_
  by_cases own : endpoint.id = client
  · simp [own]
  · simp [Inquiry.ends_eq_false_of_ne concerns own]

/-- Whoever asks, and whenever the task gets to it: the replies are those of the inquiries taken one after
the other in the order of sending, each to the clients that then stand registered. No client stands there
twice, and they stand in the order of their latest registration. -/
theorem told_in_sending_order (moves : List Move) :
    (∀ history, Roster history (standing history)) ∧
    ∃ taken left, taken ++ left = asked moves ∧
      Served taken left (run moves {}) ∧
      ((run moves {}).mailbox = some left →
        ((run moves {}).run (List.replicate left.length .takes)).told =
          repliesFrom [] (asked moves)) ∧
      ∀ asker inquiry waiting, (run moves {}).mailbox = some ((asker, inquiry) :: waiting) →
        ((run moves {}).step .takes).registry.endpoints =
          (run moves {}).registry.endpoints.filter (fun endpoint => !inquiry.ends endpoint.id) ++
            inquiry.registered ∧
        ∀ client, inquiry.Concerns client →
          ((run moves {}).step .takes).registry.erase client =
            (run moves {}).registry.erase client := by
  obtain ⟨taken, left, whole, served⟩ := served_run moves
  refine ⟨roster_standing, taken, left, whole, served, ?_, ?_⟩
  · intro runs
    rw [← whole]
    exact served.run_takes runs
  · intro asker inquiry waiting runs
    exact ⟨step_takes runs, fun client concerns => erase_step_takes runs concerns⟩

/-- The first of two clients connects again while the task has not begun. -/
def returning : List Move :=
  [.asks 0 (.register ⟨⟨1⟩, ⟨.v4 0x7f000001, 50001⟩, 0, 0⟩),
    .asks 1 (.register ⟨⟨2⟩, ⟨.v4 0x7f000001, 50002⟩, 1, 0⟩),
    .asks 0 (.register ⟨⟨1⟩, ⟨.v4 0x7f000001, 50003⟩, 2, 5⟩), .asks 2 (.channelOf ⟨1⟩),
    .asks 2 (.unregister ⟨1⟩), .asks 2 .closeAll, .asks 3 .clientCount]

example : ((run (returning ++ List.replicate 6 .takes ++ [.ends]) {}).told =
    [(0, .ok .registered), (1, .ok .registered), (0, .ok .registered),
      (2, .ok (.channel (some 2))), (2, .ok (.unregistered true)), (2, .ok (.closed 1)),
      (3, .error .registryUnavailable)]) := by
  rfl

end Registrar

end FrameLink.Host
