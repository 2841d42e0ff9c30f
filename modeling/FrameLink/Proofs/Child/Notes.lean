import FrameLink.Proofs.Child.Supervision
import Mathlib
/-!
Notes of what a process has its system do, each with its time on a clock that moves only while the process
pauses. Taking them changes nothing else.
-/

namespace FrameLink.Child

variable {σ : Type}

/-- What a process has its system do, and what that comes to. -/
inductive Deed where
  | spawns (command : Command)
  | looks (pid : Nat) (sight : Sight)
  | asks (pid : Nat) (answer : Except String Bool)
  | kills (pid : Nat) (answer : Except String Unit)
  | pauses (span : Duration)

namespace Deed

def isRequest : Deed → Bool
  | .asks .. => true
  | _ => false

def isKill : Deed → Bool
  | .kills .. => true
  | _ => false

def isPause : Deed → Bool
  | .pauses _ => true
  | _ => false

end Deed

structure Note where
  moment : Instant
  deed : Deed

/-- A system with notes of all that was done, the first one first. -/
structure Noted (σ : Type) where
  system : σ
  clock : Instant := 0
  notes : List Note := []

namespace Noted

def does (deed : Deed) (after : σ) (noted : Noted σ) : Noted σ :=
  { noted with system := after, notes := noted.notes ++ [⟨noted.clock, deed⟩] }

/-- All answers are those of the system itself. -/
instance [System σ] : System (Noted σ) where
  spawn command noted :=
    match System.spawn command noted.system with
    | (answer, after) => (answer, noted.does (.spawns command) after)
  look pid noted :=
    match System.look pid noted.system with
    | (sight, after) => (sight, noted.does (.looks pid sight) after)
  requestExit pid noted :=
    match System.requestExit pid noted.system with
    | (answer, after) => (answer, noted.does (.asks pid answer) after)
  kill pid noted :=
    match System.kill pid noted.system with
    | (answer, after) => (answer, noted.does (.kills pid answer) after)
  pause span noted :=
    { noted.does (.pauses span) (System.pause span noted.system) with
      clock := noted.clock + span.nanos }

end Noted

/-- Some things are done of which nobody is asked to exit, and pauses among them last a millisecond at
least. -/
structure Proceeds (done : List Note) (before after : Noted σ) : Prop where
  notes : after.notes = before.notes ++ done
  unasked : ∀ note ∈ done, note.deed.isRequest = false
  pace : before.clock + done.countP (·.deed.isPause) * Process.oneMilli.nanos ≤ after.clock

namespace Proceeds

variable {done rest : List Note} {before between after : Noted σ}

theorem refl (noted : Noted σ) : Proceeds [] noted noted :=
  ⟨(List.append_nil _).symm, by simp, by simp⟩

theorem trans (one : Proceeds done before between) (two : Proceeds rest between after) :
    Proceeds (done ++ rest) before after where
  notes := by rw [two.notes, one.notes, List.append_assoc]
  unasked note member := (List.mem_append.mp member).elim (one.unasked note) (two.unasked note)
  pace := by
    rw [List.countP_append, Nat.add_mul, ← Nat.add_assoc]
    exact (Nat.add_le_add_right one.pace _).trans two.pace

variable [System σ]

theorem look (pid : Nat) (noted : Noted σ) :
    Proceeds [⟨noted.clock, .looks pid (System.look pid noted).1⟩] noted (System.look pid noted).2 :=
  ⟨rfl, by simp [Deed.isRequest], by simp [Deed.isPause]; rfl⟩

theorem kill (pid : Nat) (noted : Noted σ) :
    Proceeds [⟨noted.clock, .kills pid (System.kill pid noted).1⟩] noted (System.kill pid noted).2 :=
  ⟨rfl, by simp [Deed.isRequest], by simp [Deed.isPause]; rfl⟩

theorem pause {span : Duration} (long : Process.oneMilli.nanos ≤ span.nanos) (noted : Noted σ) :
    Proceeds [⟨noted.clock, .pauses span⟩] noted (System.pause span noted) := by
  have later : noted.clock + Process.oneMilli.nanos ≤ (System.pause span noted).clock :=
    Nat.add_le_add_left long noted.clock
  exact ⟨rfl, by simp [Deed.isRequest], by simpa [Deed.isPause] using later⟩

end Proceeds

structure AtOnce (done : List Note) (before after : Noted σ) : Prop
    extends Proceeds done before after where
  clock : after.clock = before.clock
  moments : ∀ note ∈ done, note.moment = before.clock

theorem AtOnce.trans {done rest : List Note} {before between after : Noted σ}
    (one : AtOnce done before between) (two : AtOnce rest between after) :
    AtOnce (done ++ rest) before after where
  toProceeds := one.toProceeds.trans two.toProceeds
  clock := two.clock.trans one.clock
  moments note member := (List.mem_append.mp member).elim (one.moments note)
    fun later => (two.moments note later).trans one.clock

namespace Process

def noting (process : Process σ) : Process (Noted σ) :=
  { process with system := { system := process.system } }

def plain (process : Process (Noted σ)) : Process σ :=
  { process with system := process.system.system }

section Plain

variable [System σ] (process : Process (Noted σ)) (held : Held)

theorem look_plain :
    process.plain.look held =
      ((process.look held).1, (process.look held).2.1, (process.look held).2.2.plain) := by
  unfold look
  split <;> rfl

theorem awaitExit_plain (interval remaining : Duration) :
    process.plain.awaitExit interval remaining held =
      ((process.awaitExit interval remaining held).1,
        (process.awaitExit interval remaining held).2.1,
        (process.awaitExit interval remaining held).2.2.plain) := by
  fun_induction awaitExit interval remaining held process with
  | case1 remaining held process held' after looked late =>
    rw [awaitExit, look_plain, looked]
    simp [late]
  | case2 remaining held process held' after looked more span ih =>
    rw [awaitExit, look_plain, looked]
    simp only [more]
    exact ih
  | case3 remaining held process sight held' after other looked =>
    rw [awaitExit, look_plain, looked]
    cases sight with
    | running => exact (other rfl).elim
    | exited | failed => rfl

theorem force_plain :
    process.plain.force held =
      ((process.force held).1, (process.force held).2.1, (process.force held).2.2.plain) := by
  have killed : System.kill held.pid process.plain.system =
      ((System.kill held.pid process.system).1, (System.kill held.pid process.system).2.system) := rfl
  unfold force
  rw [killed]
  rcases System.kill held.pid process.system with ⟨answer, after⟩
  cases answer with
  | ok => rfl
  | error fault =>
    have looked : look held { process.plain with system := after.system } = _ :=
      look_plain { process with system := after } held
    dsimp only
    rw [looked]
    rcases look held { process with system := after } with ⟨sight, held', after'⟩
    cases sight <;> rfl

theorem stop_plain :
    process.plain.stop held =
      ((process.stop held).1, (process.stop held).2.1, (process.stop held).2.2.plain) := by
  unfold stop
  rw [look_plain]
  rcases process.look held with ⟨sight, held', found⟩
  cases sight with
  | exited | failed => rfl
  | running =>
    have requested : System.requestExit held'.pid found.plain.system =
        ((System.requestExit held'.pid found.system).1,
          (System.requestExit held'.pid found.system).2.system) := rfl
    dsimp only
    rw [requested]
    rcases System.requestExit held'.pid found.system with ⟨answer, after⟩
    rcases answer with fault | delivered
    · exact force_plain (say .warn _ { found with system := after }) held'
    · cases delivered with
      | false => exact force_plain { found with system := after } held'
      | true =>
        have awaited (message : String) : awaitExit found.plain.settings.pollInterval
            found.plain.settings.gracePeriod held'
            (say .debug message { found.plain with system := after.system }) = _ :=
          awaitExit_plain (say .debug message { found with system := after }) held'
            found.settings.pollInterval found.settings.gracePeriod
        dsimp only
        rw [show found.plain.label = found.label from rfl, awaited]
        rcases awaitExit _ _ held' (say _ _ { found with system := after }) with
          ⟨gone, last, left⟩
        cases gone with
        | true => rfl
        | false => exact force_plain (say .warn _ left) last

/-- Taking notes changes nothing. -/
theorem terminate_plain :
    process.plain.terminate = (process.terminate.1, process.terminate.2.plain) := by
  unfold terminate
  rw [show process.plain.child = process.child from rfl]
  cases process.child with
  | none => rfl
  | some held =>
    have stopped : stop held { process.plain with child := none } = _ :=
      stop_plain { process with child := none } held
    dsimp only
    rw [stopped]
    rcases stop held { process with child := none } with ⟨outcome, last, left⟩
    cases outcome <;> rfl

end Plain

end Process

end FrameLink.Child
