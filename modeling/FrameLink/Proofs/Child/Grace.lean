import FrameLink.Proofs.Child.Notes
import FrameLink.Sandbox.Machine
import Mathlib
/-!
How long a child is given to exit once it was asked to. It is looked at until it is gone or its time is up,
and the pauses in between are no shorter than a millisecond, so that the last one may end that much late.
-/

namespace FrameLink.Child

variable {σ : Type}

section Exits

variable [System σ]

/-- A system in which a child is looked at before each of these pauses. -/
def polled (pid : Nat) (spans : List Duration) (system : σ) : σ :=
  spans.foldl (fun system span => System.pause span (System.look pid system).2) system

/-- The child is found running until so much time has passed, and never again. -/
def ExitsAfter (pid : Nat) (exit : Nat) (system : σ) : Prop :=
  ∀ spans : List Duration, (System.look pid (polled pid spans system)).1 = .running ↔
    (spans.map (·.nanos)).sum < exit

variable {pid exit : Nat} {system : σ}

theorem ExitsAfter.running_iff (exits : ExitsAfter pid exit system) :
    (System.look pid system).1 = .running ↔ 0 < exit :=
  exits []

theorem ExitsAfter.pause (exits : ExitsAfter pid exit system) (span : Duration) :
    ExitsAfter pid (exit - span.nanos) (System.pause span (System.look pid system).2) := by
  intro spans
  refine (exits (span :: spans)).trans ?_
  rw [List.map_cons, List.sum_cons]
  omega

end Exits

namespace Process

/-! ## Waiting for the end -/

section Waiting

variable [System σ] {held : Held} {process : Process (Noted σ)}

def pauseFor (interval remaining : Duration) : Duration := (interval.min remaining).max oneMilli

theorem oneMilli_le_pauseFor (interval remaining : Duration) :
    oneMilli.nanos ≤ (pauseFor interval remaining).nanos := by
  unfold pauseFor Duration.max
  split <;> omega

theorem pauseFor_le_interval (interval remaining : Duration) :
    (pauseFor interval remaining).nanos ≤ max interval.nanos oneMilli.nanos := by
  unfold pauseFor Duration.max Duration.min
  split <;> split <;> omega

theorem pauseFor_le_remaining (interval remaining : Duration) :
    (pauseFor interval remaining).nanos ≤ max remaining.nanos oneMilli.nanos := by
  unfold pauseFor Duration.max Duration.min
  split <;> split <;> omega

structure Sees (held : Held) (sight : Sight) (held' : Held) (before after : Process (Noted σ)) :
    Prop where
  proceeds : Proceeds [⟨before.system.clock, .looks held.pid sight⟩] before.system after.system
  clock : after.system.clock = before.system.clock
  same : sight = .running → held' = held
  sight : (System.look held.pid before.system.system).1 = sight
  system : after.system.system = (System.look held.pid before.system.system).2
  settings : after.settings = before.settings

theorem look_sees {sight : Sight} {held' : Held} {after : Process (Noted σ)}
    (unreaped : held.reaped = false) (looked : process.look held = (sight, held', after)) :
    Sees held sight held' process after := by
  rw [look, unreaped] at looked
  cases looked
  refine ⟨.look held.pid process.system, rfl, ?_, rfl, rfl, rfl⟩
  intro running
  rw [running]
  cases held with
  | mk pid reaped => cases unreaped; rfl

theorem Sees.early {sight : Sight} {held' : Held} {after : Process (Noted σ)}
    (sees : Sees held sight held' process after) (span rest : Nat) :
    after.system.clock ≤ process.system.clock + span + rest := by
  rw [sees.clock, Nat.add_assoc]
  exact Nat.le_add_right ..

structure Awaits (pid : Nat) (remaining : Nat) (done : List Note) (before after : Noted σ)
    (gone : Bool) : Prop extends Proceeds done before after where
  spared : ∀ note ∈ done, note.deed.isKill = false
  prompt : remaining = 0 → after.clock = before.clock
  inTime : after.clock ≤ before.clock + remaining + oneMilli.nanos
  /-- it runs on when its time is up -/
  late : gone = false → before.clock + remaining ≤ after.clock ∧
    ⟨after.clock, .looks pid .running⟩ ∈ done
  seen : gone = true →
    ∃ sight, sight ≠ .running ∧ done.getLast? = some ⟨after.clock, .looks pid sight⟩

theorem awaitExit_awaits (interval remaining : Duration) {held : Held} (process : Process (Noted σ))
    (unreaped : held.reaped = false) :
    ∃ done, Awaits held.pid remaining.nanos done process.system
      (process.awaitExit interval remaining held).2.2.system
      (process.awaitExit interval remaining held).1 := by
  fun_induction awaitExit interval remaining held process with
  | case1 remaining held process held' after looked late =>
    have sees := look_sees unreaped looked
    refine ⟨_, sees.proceeds, by simp [Deed.isKill], fun _ => sees.clock, sees.early .., ?_, by simp⟩
    simp [sees.clock, late]
  | case2 remaining held process held' after looked more span ih =>
    have sees := look_sees unreaped looked
    obtain rfl := sees.same rfl
    obtain ⟨done, rest⟩ := ih unreaped
    have long : oneMilli.nanos ≤ span.nanos := oneMilli_le_pauseFor interval remaining
    have short : span.nanos ≤ max remaining.nanos oneMilli.nanos :=
      pauseFor_le_remaining interval remaining
    have paused : (System.pause span after.system).clock = process.system.clock + span.nanos :=
      congrArg (· + span.nanos) sees.clock
    refine ⟨_, (sees.proceeds.trans (.pause long after.system)).trans rest.toProceeds, ?_,
      fun none => absurd none more, ?_, ?_, ?_⟩
    · simpa [Deed.isKill] using rest.spared
    · have prompt := rest.prompt
      have inTime := rest.inTime
      dsimp only at prompt inTime
      rw [paused] at prompt inTime
      by_cases last : remaining.nanos ≤ span.nanos
      · -- no time is left after this pause, which may have been raised to a millisecond
        rw [prompt (Nat.sub_eq_zero_of_le last), Nat.add_assoc]
        exact Nat.add_le_add_left (short.trans (max_le_add_of_nonneg (Nat.zero_le _) (Nat.zero_le _))) _
      · rw [Nat.add_assoc _ span.nanos, Nat.add_sub_cancel' (Nat.le_of_not_le last)] at inTime
        exact inTime
    · intro running
      obtain ⟨late, seen⟩ := rest.late running
      dsimp only at late
      rw [paused] at late
      refine ⟨?_, List.mem_append_right _ seen⟩
      calc process.system.clock + remaining.nanos
          ≤ process.system.clock + (span.nanos + (remaining.nanos - span.nanos)) :=
            Nat.add_le_add_left le_add_tsub _
        _ = process.system.clock + span.nanos + (remaining.nanos - span.nanos) :=
            (Nat.add_assoc ..).symm
        _ ≤ _ := late
    · intro gone
      obtain ⟨sight, ended, last⟩ := rest.seen gone
      exact ⟨sight, ended, by rw [List.getLast?_append, last, Option.some_or]⟩
  | case3 remaining held process sight held' after other looked =>
    have sees := look_sees unreaped looked
    refine ⟨_, sees.proceeds, by simp [Deed.isKill], fun _ => sees.clock, sees.early .., by simp, ?_⟩
    intro _
    exact ⟨sight, other, by rw [List.getLast?_singleton, sees.clock]⟩

theorem awaitExit_same (interval remaining : Duration) {held : Held} (process : Process (Noted σ))
    (unreaped : held.reaped = false) (late : (process.awaitExit interval remaining held).1 = false) :
    (process.awaitExit interval remaining held).2.1 = held := by
  fun_induction awaitExit interval remaining held process with
  | case1 remaining held process held' after looked =>
    exact (look_sees unreaped looked).same rfl
  | case2 remaining held process held' after looked more span ih =>
    obtain rfl := (look_sees unreaped looked).same rfl
    exact ih unreaped late
  | case3 => cases late

/-- A child that exits in time is seen to be gone at the next look. -/
theorem awaitExit_exits {exit : Nat} (interval : Duration) {remaining : Duration} {held : Held}
    {process : Process (Noted σ)} (unreaped : held.reaped = false)
    (exits : ExitsAfter held.pid exit process.system.system)
    (inTime : exit = 0 ∨ exit < remaining.nanos) :
    (process.awaitExit interval remaining held).1 = true ∧
      (exit = 0 → (process.awaitExit interval remaining held).2.2.system.clock =
        process.system.clock) ∧
      (process.awaitExit interval remaining held).2.2.system.clock ≤
        process.system.clock + exit + max interval.nanos oneMilli.nanos := by
  fun_induction awaitExit interval remaining held process generalizing exit with
  | case1 remaining held process held' after looked late =>
    have sees := look_sees unreaped looked
    have early := exits.running_iff.mp sees.sight
    omega
  | case2 remaining held process held' after looked more span =>
    rename_i ih
    have sees := look_sees unreaped looked
    obtain rfl := sees.same rfl
    have early := exits.running_iff.mp sees.sight
    have short : span.nanos ≤ max interval.nanos oneMilli.nanos :=
      pauseFor_le_interval interval remaining
    have paused : (System.pause span after.system).clock = process.system.clock + span.nanos :=
      congrArg (· + span.nanos) sees.clock
    have later := exits.pause span
    rw [← sees.system] at later
    obtain ⟨gone, prompt, bound⟩ := ih unreaped later (by dsimp only; omega)
    rw [paused] at prompt bound
    refine ⟨gone, fun none => absurd none early.ne', ?_⟩
    simp only [Instant] at *
    omega
  | case3 remaining held process sight held' after other looked =>
    have sees := look_sees unreaped looked
    exact ⟨rfl, fun _ => sees.clock, sees.early ..⟩

end Waiting

/-! ## The end of a child -/

section Ending

variable [System σ] {held : Held} {process : Process (Noted σ)}

theorem look_at_once (held : Held) (process : Process (Noted σ)) :
    ∃ done, AtOnce done process.system (process.look held).2.2.system ∧
      ∀ note ∈ done, note.deed.isKill = false := by
  by_cases reaped : held.reaped
  · rw [look, if_pos reaped]
    exact ⟨[], ⟨.refl _, rfl, by simp⟩, by simp⟩
  · have sees := look_sees (Bool.not_eq_true _ ▸ reaped) (rfl : process.look held = _)
    exact ⟨_, ⟨sees.proceeds, sees.clock, by simp⟩, by simp [Deed.isKill]⟩

/-- A child is killed at this moment, and at no other. -/
def KilledAt (pid : Nat) (moment : Instant) (notes : List Note) : Prop :=
  ∃ answer, notes.filter (·.deed.isKill) = [⟨moment, .kills pid answer⟩]

theorem KilledAt.after_spared {pid : Nat} {moment : Instant} {done rest : List Note}
    (spared : ∀ note ∈ done, note.deed.isKill = false) (killed : KilledAt pid moment rest) :
    KilledAt pid moment (done ++ rest) := by
  obtain ⟨answer, once⟩ := killed
  have none : done.filter (·.deed.isKill) = [] := by simpa using spared
  exact ⟨answer, by rw [List.filter_append, none, once, List.nil_append]⟩

theorem force_at_once (held : Held) (process : Process (Noted σ)) :
    ∃ done, AtOnce done process.system (process.force held).2.2.system ∧
      KilledAt held.pid process.system.clock done := by
  have killed : AtOnce _ process.system (System.kill held.pid process.system).2 :=
    ⟨.kill held.pid process.system, rfl, by simp⟩
  unfold force
  rcases kill : System.kill held.pid process.system with ⟨answer, after⟩
  rw [kill] at killed
  cases answer with
  | ok => exact ⟨_, killed, _, rfl⟩
  | error fault =>
    obtain ⟨done, looked, spared⟩ := look_at_once held { process with system := after }
    refine ⟨_ ++ done, killed.trans ?_, .error fault, ?_⟩
    · dsimp only
      split <;> next found => rw [found] at looked; exact looked
    · have none : done.filter (·.deed.isKill) = [] := by simpa using spared
      rw [List.filter_append, none]
      rfl

structure Graces (settings : TerminateSettings) (pid : Nat) (asked : Except String Bool × σ)
    (start : Instant) (rest : List Note) (outcome : Except Error Unit) (stop : Instant) : Prop where
  unasked : ∀ note ∈ rest, note.deed.isRequest = false
  pace : start + rest.countP (·.deed.isPause) * oneMilli.nanos ≤ stop
  ends : stop ≤ start + settings.gracePeriod.nanos + oneMilli.nanos
  kills : ∀ note ∈ rest, note.deed.isKill → asked.1 = .ok true →
    start + settings.gracePeriod.nanos ≤ note.moment ∧
      note.moment ≤ start + settings.gracePeriod.nanos + oneMilli.nanos ∧
      ⟨note.moment, .looks pid .running⟩ ∈ rest
  refused : asked.1 ≠ .ok true → KilledAt pid start rest
  ended : asked.1 = .ok true →
    ((∀ note ∈ rest, note.deed.isKill = false) ∧
      ∃ sight, sight ≠ .running ∧ rest.getLast? = some ⟨stop, .looks pid sight⟩) ∨
    ∃ moment ≤ start + settings.gracePeriod.nanos + oneMilli.nanos, KilledAt pid moment rest
  exits : ∀ exit, asked.1 = .ok true → ExitsAfter pid exit asked.2 →
    exit < settings.gracePeriod.nanos → outcome = .ok () ∧
      (∀ note ∈ rest, note.deed.isKill = false) ∧
      stop ≤ start + exit + max settings.pollInterval.nanos oneMilli.nanos

theorem graces_of_refused {settings : TerminateSettings} {pid : Nat} {start : Instant}
    {asked : Except String Bool × σ} {rest : List Note} {before after : Noted σ}
    {outcome : Except Error Unit} (once : AtOnce rest before after) (now : before.clock = start)
    (killed : KilledAt pid before.clock rest) (refused : asked.1 ≠ .ok true) :
    Graces settings pid asked start rest outcome after.clock where
  unasked := once.unasked
  pace := now ▸ once.pace
  ends := by
    rw [once.clock, now, Nat.add_assoc]
    exact Nat.le_add_right ..
  kills _ _ _ delivered := absurd delivered refused
  refused _ := now ▸ killed
  ended delivered := absurd delivered refused
  exits _ delivered := absurd delivered refused

variable {settings : TerminateSettings} {held' : Held} {asked left : Process (Noted σ)}

theorem graces_of_gone (unreaped : held.reaped = false)
    (waited : asked.awaitExit settings.pollInterval settings.gracePeriod held =
      (true, held', left)) :
    ∃ rest, left.system.notes = asked.system.notes ++ rest ∧
      Graces settings held.pid (.ok true, asked.system.system) asked.system.clock rest (.ok ())
        left.system.clock := by
  obtain ⟨done, awaits⟩ := awaitExit_awaits settings.pollInterval settings.gracePeriod
    asked unreaped
  rw [waited] at awaits
  refine ⟨done, awaits.notes, awaits.unasked, awaits.pace, awaits.inTime, ?_,
    fun refused => absurd rfl refused, fun _ => .inl ⟨awaits.spared, awaits.seen rfl⟩, ?_⟩
  · intro note member kill
    rw [awaits.spared note member] at kill
    cases kill
  · intro exit _ exits early
    obtain ⟨_, _, prompt⟩ :=
      awaitExit_exits settings.pollInterval unreaped exits (.inr early)
    rw [waited] at prompt
    exact ⟨rfl, awaits.spared, prompt⟩

theorem graces_of_late (unreaped : held.reaped = false)
    (waited : asked.awaitExit settings.pollInterval settings.gracePeriod held =
      (false, held', left)) {rest : List Note} {after : Noted σ} (once : AtOnce rest left.system after)
    (killed : KilledAt held.pid left.system.clock rest) (outcome : Except Error Unit) :
    ∃ rest, after.notes = asked.system.notes ++ rest ∧
      Graces settings held.pid (.ok true, asked.system.system) asked.system.clock rest outcome
        after.clock := by
  obtain ⟨done, awaits⟩ := awaitExit_awaits settings.pollInterval settings.gracePeriod
    asked unreaped
  rw [waited] at awaits
  obtain ⟨late, seen⟩ := awaits.late rfl
  have proceeds := awaits.toProceeds.trans once.toProceeds
  refine ⟨done ++ rest, proceeds.notes, proceeds.unasked, proceeds.pace, ?_, ?_,
    fun refused => absurd rfl refused,
    fun _ => .inr ⟨left.system.clock, awaits.inTime, killed.after_spared awaits.spared⟩, ?_⟩
  · rw [once.clock]
    exact awaits.inTime
  · intro note member kill _
    rcases List.mem_append.mp member with waiting | last
    · rw [awaits.spared note waiting] at kill
      cases kill
    · rw [once.moments note last]
      exact ⟨late, awaits.inTime, List.mem_append_left _ seen⟩
  · intro exit _ exits early
    obtain ⟨gone, _⟩ := awaitExit_exits settings.pollInterval unreaped exits (.inr early)
    rw [waited] at gone
    cases gone

theorem stop_graces (unreaped : held.reaped = false)
    (running : (System.look held.pid process.system.system).1 = .running) :
    let asked := System.requestExit held.pid (System.look held.pid process.system.system).2
    let start := process.system.clock
    let stopped := process.stop held
    ∃ rest, stopped.2.2.system.notes = process.system.notes ++
        ⟨start, .looks held.pid .running⟩ :: ⟨start, .asks held.pid asked.1⟩ :: rest ∧
      Graces process.settings held.pid asked start rest stopped.1 stopped.2.2.system.clock := by
  dsimp only
  rcases looked : process.look held with ⟨sight, held', found⟩
  have sees := look_sees unreaped looked
  obtain rfl : sight = .running := sees.sight.symm.trans running
  obtain rfl := sees.same rfl
  rw [← sees.system, ← sees.settings, ← sees.clock]
  have request : System.requestExit held'.pid found.system =
      ((System.requestExit held'.pid found.system.system).1, found.system.does
        (.asks held'.pid (System.requestExit held'.pid found.system.system).1)
        (System.requestExit held'.pid found.system.system).2) := rfl
  unfold stop
  rw [looked]
  dsimp only
  rw [request]
  rcases System.requestExit held'.pid found.system.system with ⟨answer, after⟩
  have noted (rest : List Note) {left : Noted σ}
      (later : left.notes = (found.system.does (.asks held'.pid answer) after).notes ++ rest) :
      left.notes = process.system.notes ++ ⟨found.system.clock, .looks held'.pid .running⟩ ::
        ⟨found.system.clock, .asks held'.pid answer⟩ :: rest := by
    rw [later, Noted.does, sees.proceeds.notes, sees.clock]
    simp
  rcases answer with fault | delivered
  · obtain ⟨rest, once, killed⟩ := force_at_once held' (say .warn _ { found with
      system := found.system.does (.asks held'.pid (.error fault)) after })
    exact ⟨rest, noted rest once.notes, graces_of_refused once rfl killed (by simp)⟩
  · cases delivered with
    | false =>
      obtain ⟨rest, once, killed⟩ := force_at_once held' { found with
        system := found.system.does (.asks held'.pid (.ok false)) after }
      exact ⟨rest, noted rest once.notes, graces_of_refused once rfl killed (by simp)⟩
    | true =>
      dsimp only
      split
      next last left waited =>
        obtain ⟨rest, notes, graces⟩ := graces_of_gone unreaped waited
        exact ⟨rest, noted rest notes, graces⟩
      next last left waited =>
        obtain ⟨done, once, killed⟩ := force_at_once last (say .warn _ left)
        have same := awaitExit_same _ _ _ unreaped (congrArg Prod.fst waited)
        rw [waited] at same
        obtain rfl : last = held' := same
        obtain ⟨rest, notes, graces⟩ := graces_of_late unreaped waited once killed _
        exact ⟨rest, noted rest notes, graces⟩

theorem terminate_stops (process : Process σ) (holds : process.child = some held) :
    process.terminate.1 = (stop held { process with child := none }).1 ∧
      process.terminate.2.system = (stop held { process with child := none }).2.2.system := by
  unfold terminate
  rw [holds]
  dsimp only
  rcases stop held { process with child := none } with ⟨outcome, last, left⟩
  cases outcome <;> exact ⟨rfl, rfl⟩

end Ending

end Process

end FrameLink.Child

namespace FrameLink.Sandbox

open Child

theorem Task.runUntil_now {moment : Instant} {task : Task} (now : task.time = moment)
    (store : Store) : task.runUntil moment store = (task, store) := by
  unfold runUntil
  split
  · rfl
  · rw [if_neg (Nat.not_lt.mpr now.ge)]

theorem Task.runUntil_asked {moment : Instant} {task : Task} {program : Shell.State}
    (runs : task.program = some program) (dies : diesOnRequest program) (later : task.time < moment)
    (store : Store) : task.runUntil moment store = ({ task with program := none }, store) := by
  unfold runUntil
  rw [runs]
  dsimp only
  rw [if_pos later, if_pos dies]

namespace Machine

variable {machine : Machine} {task : Task}

theorem look_only (only : machine.tasks = [task]) :
    System.look task.pid machine =
      (if task.program.isSome then .running else .exited, machine) := by
  unfold System.look instSystem task?
  dsimp only
  rw [only, List.find?_cons_of_pos (by simp)]

theorem pass_only (only : machine.tasks = [task]) (span : Duration) :
    (System.pause span machine).tasks =
      [(task.runUntil (machine.now + span.nanos) machine.store).1] := by
  unfold System.pause instSystem pass
  dsimp only
  rw [only]
  rfl

theorem polled_dead (only : machine.tasks = [task]) (dead : task.program = none)
    (spans : List Duration) : (System.look task.pid (polled task.pid spans machine)).1 = .exited := by
  induction spans generalizing machine with
  | nil => rw [polled, List.foldl_nil, look_only only, dead]; rfl
  | cons span rest ih =>
    rw [polled, List.foldl_cons, look_only only]
    apply ih
    rw [pass_only only, Task.runUntil, dead]

theorem exitsAfter_asked {program : Shell.State} (only : machine.tasks = [task])
    (runs : task.program = some program) (dies : Task.diesOnRequest program)
    (now : task.time = machine.now) : ExitsAfter task.pid 1 machine := by
  intro spans
  induction spans generalizing machine with
  | nil => simp [polled, look_only only, runs]
  | cons span rest ih =>
    rw [polled, List.foldl_cons, look_only only, List.map_cons, List.sum_cons]
    have passed := pass_only only span
    by_cases none : span.nanos = 0
    · rw [none, Nat.add_zero, Task.runUntil_now now] at passed
      rw [none, Nat.zero_add]
      have still : (System.pause span machine).now = machine.now := by
        change machine.now + span.nanos = machine.now
        rw [none]
        rfl
      exact ih passed (now.trans still.symm)
    · have later : task.time < machine.now + span.nanos := by
        rw [now]
        exact Nat.lt_add_of_pos_right (Nat.pos_of_ne_zero none)
      rw [Task.runUntil_asked runs dies later] at passed
      have dead : (System.look task.pid (polled task.pid rest (System.pause span machine))).1 =
          .exited := polled_dead passed rfl rest
      rw [polled] at dead
      simp only [dead, reduceCtorEq, false_iff]
      omega

end Machine

end FrameLink.Sandbox

namespace FrameLink.Child.Process

variable [System σ] {held : Held} {process : Process σ}

/-- A running child is asked to exit once. If the request does not reach it, it is killed at once.
Otherwise it is looked at until it is gone, and killed, once, if it still runs after the grace period, no
more than a millisecond late. One that exits earlier is not killed, and seen to be gone at the next look. -/
theorem terminate_within_grace (holds : process.child = some held) (unreaped : held.reaped = false)
    (running : (System.look held.pid process.system).1 = .running) :
    let asked := System.requestExit held.pid (System.look held.pid process.system).2
    let ended := process.noting.terminate
    let finish := ended.2.system.clock
    let grace := process.settings.gracePeriod.nanos
    process.terminate = (ended.1, ended.2.plain) ∧
      ∃ rest, ended.2.system.notes =
          ⟨0, .looks held.pid .running⟩ :: ⟨0, .asks held.pid asked.1⟩ :: rest ∧
        (∀ note ∈ rest, note.deed.isRequest = false) ∧
        rest.countP (·.deed.isPause) * oneMilli.nanos ≤ finish ∧
        finish ≤ grace + oneMilli.nanos ∧
        (∀ note ∈ rest, note.deed.isKill → asked.1 = .ok true →
          grace ≤ note.moment ∧ note.moment ≤ grace + oneMilli.nanos ∧
            ⟨note.moment, .looks held.pid .running⟩ ∈ rest) ∧
        (asked.1 ≠ .ok true → KilledAt held.pid 0 rest) ∧
        (asked.1 = .ok true →
          ((∀ note ∈ rest, note.deed.isKill = false) ∧
            ∃ sight, sight ≠ .running ∧ rest.getLast? = some ⟨finish, .looks held.pid sight⟩) ∨
          ∃ moment ≤ grace + oneMilli.nanos, KilledAt held.pid moment rest) ∧
        ∀ exit, asked.1 = .ok true → ExitsAfter held.pid exit asked.2 → exit < grace →
          ended.1 = .ok () ∧ (∀ note ∈ rest, note.deed.isKill = false) ∧
            finish ≤ exit + max process.settings.pollInterval.nanos oneMilli.nanos := by
  intro asked ended finish grace
  refine ⟨terminate_plain process.noting, ?_⟩
  obtain ⟨outcome, system⟩ := terminate_stops process.noting holds
  obtain ⟨rest, notes, graces⟩ : ∃ rest, _ ∧ Graces process.settings held.pid asked 0 rest _ _ :=
    @stop_graces σ _ held { process.noting with child := none } unreaped running
  rw [← outcome, ← system] at graces
  rw [← system] at notes
  have pace := graces.pace
  have ends := graces.ends
  have kills := graces.kills
  have gone := graces.ended
  have exits := graces.exits
  simp only [Nat.zero_add] at pace ends kills gone exits
  exact ⟨rest, notes, graces.unasked, pace, ends, kills, graces.refused, gone, exits⟩

/-- A process that started a program which sleeps for a minute and has no trap. -/
def resting : Process Sandbox.Machine :=
  (start "sleep" ["60"] "" { system := {}, output := .discard }).2

theorem resting_exits_on_request :
    resting.terminate.1 = .ok () ∧ resting.noting.terminate.2.system.clock ≤ 100000001 := by
  have child : resting.child = some { pid := 1000 } := by cbv
  have runs : (System.look 1000 resting.system).1 = .running := by cbv
  obtain ⟨same, rest, _, _, _, _, _, _, _, exits⟩ := terminate_within_grace child rfl runs
  have shape : resting.system.tasks.map (fun task => (task.pid, task.time, task.program.map
      fun program => Sandbox.Task.diesOnRequest { program with asked := true })) =
      [(1000, 0, some true)] := by cbv
  obtain ⟨task, tasks, shape⟩ := List.map_eq_singleton_iff.mp shape
  simp only [Prod.mk.injEq, Option.map_eq_some_iff] at shape
  obtain ⟨own, began, program, sleeps, dies⟩ := shape
  have asked : (System.requestExit 1000 resting.system).2.tasks =
      [{ task with program := some { program with asked := true } }] := by
    change resting.system.tasks.map _ = _
    simp [tasks, own, sleeps]
  have delivered : (System.requestExit 1000 resting.system).1 = .ok true := by cbv
  have now : resting.system.now = 0 := by cbv
  have leaves := Sandbox.Machine.exitsAfter_asked asked rfl dies (began.trans now.symm)
  rw [own] at leaves
  have settings : resting.settings = {} := by cbv
  have early : 1 < resting.settings.gracePeriod.nanos := by
    rw [settings]
    decide
  obtain ⟨ok, _, bound⟩ := exits 1 delivered leaves early
  rw [settings] at bound
  exact ⟨(congrArg Prod.fst same).trans ok, bound.trans (by decide)⟩

end FrameLink.Child.Process
