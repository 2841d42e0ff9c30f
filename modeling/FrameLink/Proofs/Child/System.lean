import FrameLink.Child.System
import Mathlib.Data.List.Basic
/-!
What supervision relies on in a system: only a spawn brings a child to life, and a child that is killed,
or of which a look finds anything but that it runs, is dead.
-/

namespace FrameLink.Child

variable {σ : Type}

/-- The numbers of the children that are alive in a state of a system. -/
abbrev Census (σ : Type) := σ → Nat → Prop

def Fewer (alive : Census σ) (before after : σ) : Prop := ∀ pid, alive after pid → alive before pid

def AtMostOne (alive : Census σ) (system : σ) : Prop :=
  ∀ one other, alive system one → alive system other → one = other

/-- Everything else is left open: whether a program can be started, when a child exits, whether it
heeds a request, and which requests and kills are refused. -/
structure LawfulSystem [System σ] (alive : Census σ) : Prop where
  spawn_ok : ∀ command system pid, (System.spawn command system).1 = .ok pid →
    ∀ other, alive (System.spawn command system).2 other → other = pid ∨ alive system other
  spawn_error : ∀ command system fault, (System.spawn command system).1 = .error fault →
    Fewer alive system (System.spawn command system).2
  look : ∀ pid system, Fewer alive system (System.look pid system).2
  /-- a look fails only for a child that is gone -/
  look_gone : ∀ pid system, (System.look pid system).1 ≠ .running →
    ¬alive (System.look pid system).2 pid
  requestExit : ∀ pid system, Fewer alive system (System.requestExit pid system).2
  kill : ∀ pid system, Fewer alive system (System.kill pid system).2
  kill_ok : ∀ pid system, (System.kill pid system).1 = .ok () →
    ¬alive (System.kill pid system).2 pid
  pause : ∀ span system, Fewer alive system (System.pause span system)

/-- A system with the states that it was in before, the latest first. -/
structure Recorded (σ : Type) where
  now : σ
  past : List σ := []

namespace Recorded

def next (after : σ) (recorded : Recorded σ) : Recorded σ :=
  ⟨after, recorded.now :: recorded.past⟩

instance [System σ] : System (Recorded σ) where
  spawn command recorded :=
    match System.spawn command recorded.now with
    | (answer, after) => (answer, recorded.next after)
  look pid recorded :=
    match System.look pid recorded.now with
    | (sight, after) => (sight, recorded.next after)
  requestExit pid recorded :=
    match System.requestExit pid recorded.now with
    | (answer, after) => (answer, recorded.next after)
  kill pid recorded :=
    match System.kill pid recorded.now with
    | (answer, after) => (answer, recorded.next after)
  pause span recorded := recorded.next (System.pause span recorded.now)

/-- At no time was more than one child alive. -/
def Orderly (alive : Census σ) (recorded : Recorded σ) : Prop :=
  ∀ system ∈ recorded.now :: recorded.past, AtMostOne alive system

structure Dwindles (alive : Census σ) (before after : Recorded σ) : Prop where
  fewer : Fewer alive before.now after.now
  orderly : before.Orderly alive → after.Orderly alive

namespace Dwindles

variable {alive : Census σ}

theorem refl (recorded : Recorded σ) : Dwindles alive recorded recorded :=
  ⟨fun _ => id, id⟩

theorem trans {before between after : Recorded σ} (one : Dwindles alive before between)
    (two : Dwindles alive between after) : Dwindles alive before after :=
  ⟨fun pid lives => one.fewer pid (two.fewer pid lives), two.orderly ∘ one.orderly⟩

theorem next {after : σ} {recorded : Recorded σ} (fewer : Fewer alive recorded.now after) :
    Dwindles alive recorded (recorded.next after) where
  fewer := fewer
  orderly orderly := by
    intro system member
    rcases List.mem_cons.mp member with rfl | earlier
    · intro one other first second
      exact orderly _ List.mem_cons_self one other (fewer one first) (fewer other second)
    · exact orderly system earlier

end Dwindles

section Operations

variable [System σ] {alive : Census σ} (laws : LawfulSystem alive) (recorded : Recorded σ)

include laws

theorem look_dwindles (pid : Nat) :
    Dwindles alive recorded (System.look pid recorded).2 :=
  .next (laws.look pid recorded.now)

theorem requestExit_dwindles (pid : Nat) :
    Dwindles alive recorded (System.requestExit pid recorded).2 :=
  .next (laws.requestExit pid recorded.now)

theorem kill_dwindles (pid : Nat) :
    Dwindles alive recorded (System.kill pid recorded).2 :=
  .next (laws.kill pid recorded.now)

theorem pause_dwindles (span : Duration) :
    Dwindles alive recorded (System.pause span recorded) :=
  .next (laws.pause span recorded.now)

/-- A child that is started while nobody is alive is the only one. -/
theorem spawn_orderly {command : Command} {pid : Nat}
    (spawned : (System.spawn command recorded).1 = .ok pid)
    (nobody : ∀ other, ¬alive recorded.now other) :
    (∀ other, alive (System.spawn command recorded).2.now other → other = pid) ∧
      (recorded.Orderly alive → (System.spawn command recorded).2.Orderly alive) := by
  have only : ∀ other, alive (System.spawn command recorded).2.now other → other = pid := by
    intro other lives
    rcases laws.spawn_ok command recorded.now pid spawned other lives with own | before
    · exact own
    · exact absurd before (nobody other)
  refine ⟨only, ?_⟩
  intro orderly state member
  rcases List.mem_cons.mp member with rfl | earlier
  · intro one other first second
    exact (only one first).trans (only other second).symm
  · exact orderly state earlier

theorem spawn_dwindles {command : Command} {fault : String}
    (failed : (System.spawn command recorded).1 = .error fault) :
    Dwindles alive recorded (System.spawn command recorded).2 :=
  .next (laws.spawn_error command recorded.now fault failed)

end Operations

end Recorded

end FrameLink.Child
