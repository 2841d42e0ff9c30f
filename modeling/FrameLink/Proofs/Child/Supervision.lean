import FrameLink.Child.Process
import FrameLink.Proofs.Child.System
/-!
Supervision holds the only child that is alive. Every part of it either keeps hold of that child or
leaves nobody alive, and a new child is started only when nobody is.
-/

namespace FrameLink.Child

variable {σ : Type}

namespace Process

variable (alive : Census σ)

/-- Nothing of a process changes but its system, where children may die, and its log. -/
structure Kept (before after : Process (Recorded σ)) : Prop where
  same : after = { before with system := after.system, log := after.log }
  dwindles : Recorded.Dwindles alive before.system after.system

def Nobody (process : Process (Recorded σ)) : Prop := ∀ pid, ¬alive process.system.now pid

/-- Nobody is alive but a child whose end has not been seen. -/
def Only (held : Held) (process : Process (Recorded σ)) : Prop :=
  ∀ pid, alive process.system.now pid → pid = held.pid ∧ held.reaped = false

/-- Nobody is alive but the child that the process holds. -/
def Guards (process : Process (Recorded σ)) : Prop :=
  ∀ pid, alive process.system.now pid →
    ∃ held, process.child = some held ∧ held.pid = pid ∧ held.reaped = false

def Stays (before after : Process (Recorded σ)) : Prop :=
  Kept alive { before with child := after.child } after

inductive Looks (held : Held) (process : Process (Recorded σ)) :
    Sight → Held → Process (Recorded σ) → Prop
  | running {after : Process (Recorded σ)} (unreaped : held.reaped = false)
      (kept : Kept alive process after) : Looks held process .running held after
  | gone {sight : Sight} {held' : Held} {after : Process (Recorded σ)} (seen : sight ≠ .running)
      (kept : Kept alive process after) (nobody : Nobody alive after) :
    Looks held process sight held' after

inductive Ends (held : Held) (process : Process (Recorded σ)) :
    Except Error Unit → Held → Process (Recorded σ) → Prop
  | gone {held' : Held} {after : Process (Recorded σ)} (kept : Kept alive process after)
      (nobody : Nobody alive after) : Ends held process (.ok ()) held' after
  | refused (message : String) {after : Process (Recorded σ)} (kept : Kept alive process after) :
    Ends held process (.error (.terminateFailed held.pid message)) held after

inductive Starts (path : String) (args : List String) (directory : String)
    (process : Process (Recorded σ)) : Except Error Nat → Process (Recorded σ) → Prop
  | started {pid : Nat} {after : Process (Recorded σ)}
      (own : after.path = path ∧ after.args = args ∧ after.directory = directory ∧
        after.child = some { pid })
      (alone : ∀ other, alive after.system.now other → other = pid)
      (orderly : process.system.Orderly alive → after.system.Orderly alive) :
    Starts path args directory process (.ok pid) after
  | failed (message : String) {after : Process (Recorded σ)} (stays : Stays alive process after)
      (nobody : Nobody alive after) :
    Starts path args directory process (.error (.spawnFailed path message)) after
  | refused (held : Held) (message : String) {after : Process (Recorded σ)}
      (holds : process.child = some held) (kept : Kept alive process after) :
    Starts path args directory process (.error (.terminateFailed held.pid message)) after

variable {alive} {process before between after : Process (Recorded σ)} {held : Held}

theorem Kept.refl (process : Process (Recorded σ)) : Kept alive process process :=
  ⟨rfl, .refl _⟩

theorem Kept.trans (one : Kept alive before between) (two : Kept alive between after) :
    Kept alive before after where
  same := by
    rw [two.same, one.same]
  dwindles := one.dwindles.trans two.dwindles

theorem Kept.said (kept : Kept alive before after) (level : Log.Level) (message : String) :
    Kept alive before (after.say level message) :=
  kept.trans ⟨rfl, .refl _⟩

theorem Kept.child (kept : Kept alive before after) : after.child = before.child := by
  rw [kept.same]

theorem Kept.only (kept : Kept alive before after) (only : Only alive held before) :
    Only alive held after :=
  fun pid lives => only pid (kept.dwindles.fewer pid lives)

theorem Kept.nobody (kept : Kept alive before after) (nobody : Nobody alive before) :
    Nobody alive after :=
  fun pid lives => nobody pid (kept.dwindles.fewer pid lives)

theorem Looks.after_kept (kept : Kept alive before between) {sight : Sight} {held' : Held}
    (looks : Looks alive held between sight held' after) :
    Looks alive held before sight held' after := by
  cases looks with
  | running unreaped rest => exact .running unreaped (kept.trans rest)
  | gone seen rest nobody => exact .gone seen (kept.trans rest) nobody

theorem Ends.after_kept (kept : Kept alive before between) {outcome : Except Error Unit}
    {held' : Held} (ends : Ends alive held between outcome held' after) :
    Ends alive held before outcome held' after := by
  cases ends with
  | gone rest nobody => exact .gone (kept.trans rest) nobody
  | refused message rest => exact .refused message (kept.trans rest)

theorem Kept.stays (kept : Kept alive before after) : Stays alive before after := by
  unfold Stays
  rw [kept.child]
  exact kept

theorem Stays.trans (one : Stays alive before between) (two : Stays alive between after) :
    Stays alive before after where
  same := by
    rw [two.same, one.same]
  dwindles := one.dwindles.trans two.dwindles

theorem Guards.only (guards : Guards alive process) (holds : process.child = some held) :
    Only alive held process := by
  intro pid lives
  obtain ⟨other, same, rfl, unreaped⟩ := guards pid lives
  rw [holds, Option.some.injEq] at same
  subst same
  exact ⟨rfl, unreaped⟩

theorem Guards.nobody (guards : Guards alive process) (holds : process.child = none) :
    Nobody alive process := by
  intro pid lives
  obtain ⟨held, same, _⟩ := guards pid lives
  rw [holds] at same
  cases same

theorem Nobody.guards (nobody : Nobody alive process) : Guards alive process :=
  fun pid lives => absurd lives (nobody pid)

theorem Guards.kept (guards : Guards alive before) (kept : Kept alive before after) :
    Guards alive after := by
  intro pid lives
  obtain ⟨held, holds, own⟩ := guards pid (kept.dwindles.fewer pid lives)
  exact ⟨held, kept.child.trans holds, own⟩

variable [System σ] (laws : LawfulSystem alive)

include laws

theorem look_looks {sight : Sight} {held' : Held} (only : Only alive held process)
    (looked : process.look held = (sight, held', after)) :
    Looks alive held process sight held' after := by
  unfold look at looked
  by_cases reaped : held.reaped = true
  · rw [if_pos reaped] at looked
    cases looked
    refine .gone (by simp) (.refl _) ?_
    intro pid lives
    rw [(only pid lives).2] at reaped
    cases reaped
  · have unreaped : held.reaped = false := by simpa using reaped
    have kept : Kept alive process
        { process with system := (System.look held.pid process.system).2 } :=
      ⟨rfl, Recorded.look_dwindles laws process.system held.pid⟩
    have gone := laws.look_gone held.pid process.system.now
    rw [if_neg reaped] at looked
    rcases found : System.look held.pid process.system with ⟨sight', system⟩
    rw [found] at looked kept
    have there : System.look held.pid process.system.now = (sight', system.now) :=
      congrArg (fun result => (result.1, result.2.now)) found
    rw [there] at gone
    cases looked
    by_cases seen : sight = .running
    · subst seen
      have same : ({ held with reaped := Sight.running = .exited } : Held) = held := by
        simp [← unreaped]
      rw [same]
      exact .running unreaped kept
    · refine .gone seen kept ?_
      intro pid lives
      obtain ⟨rfl, _⟩ := kept.only only pid lives
      exact gone seen lives

theorem pause_kept (span : Duration) (process : Process (Recorded σ)) :
    Kept alive process { process with system := System.pause span process.system } :=
  ⟨rfl, Recorded.pause_dwindles laws process.system span⟩

theorem awaitExit_looks (interval remaining : Duration) (only : Only alive held process) :
    ∃ sight, Looks alive held process sight (process.awaitExit interval remaining held).2.1
        (process.awaitExit interval remaining held).2.2 ∧
      ((process.awaitExit interval remaining held).1 = false ↔ sight = .running) := by
  fun_induction awaitExit interval remaining held process with
  | case1 remaining held process held' after looked late =>
    exact ⟨.running, look_looks laws only looked, by simp⟩
  | case2 remaining held process held' after looked more span ih =>
    cases look_looks laws only looked with
    | gone seen => exact absurd rfl seen
    | running unreaped kept =>
      have paused := kept.trans (pause_kept laws span after)
      obtain ⟨sight, looks, iff⟩ := ih (paused.only only)
      exact ⟨sight, looks.after_kept paused, iff⟩
  | case3 remaining held process sight held' after other looked =>
    refine ⟨sight, look_looks laws only looked, ?_⟩
    simpa using other

theorem awaitExit_true {interval remaining : Duration} {held' : Held} (only : Only alive held process)
    (awaited : process.awaitExit interval remaining held = (true, held', after)) :
    Kept alive process after ∧ Nobody alive after := by
  obtain ⟨sight, looks, iff⟩ := awaitExit_looks laws interval remaining only
  rw [awaited] at looks iff
  cases looks with
  | running => simp at iff
  | gone _ kept nobody => exact ⟨kept, nobody⟩

theorem awaitExit_false {interval remaining : Duration} {held' : Held} (only : Only alive held process)
    (awaited : process.awaitExit interval remaining held = (false, held', after)) :
    Kept alive process after ∧ held' = held ∧ held.reaped = false := by
  obtain ⟨sight, looks, iff⟩ := awaitExit_looks laws interval remaining only
  rw [awaited] at looks iff
  cases looks with
  | running unreaped kept => exact ⟨kept, rfl, unreaped⟩
  | gone seen => exact absurd (iff.mp rfl) seen

/-- A child that cannot be killed, and is not gone by itself either, is still held. -/
theorem force_ends {outcome : Except Error Unit} {held' : Held} (only : Only alive held process)
    (forced : process.force held = (outcome, held', after)) :
    Ends alive held process outcome held' after := by
  have kept : Kept alive process
      { process with system := (System.kill held.pid process.system).2 } :=
    ⟨rfl, Recorded.kill_dwindles laws process.system held.pid⟩
  unfold force at forced
  split at forced
  next system killed =>
    cases forced
    rw [killed] at kept
    refine .gone kept ?_
    intro pid lives
    obtain ⟨rfl, _⟩ := kept.only only pid lives
    have dead := laws.kill_ok held.pid process.system.now (congrArg Prod.fst killed)
    have now : (System.kill held.pid process.system.now).2 = system.now :=
      congrArg (fun result => result.2.now) killed
    exact dead (now ▸ lives)
  next fault system refused =>
    rw [refused] at kept
    split at forced
    next held' after' looked =>
      cases forced
      cases look_looks laws (kept.only only) looked with
      | running _ later => exact .refused fault (kept.trans later)
      | gone seen => exact absurd rfl seen
    next sight held' after' other looked =>
      cases forced
      cases look_looks laws (kept.only only) looked with
      | running => exact (other rfl).elim
      | gone _ later nobody => exact .gone (kept.trans later) nobody

theorem stop_ends {outcome : Except Error Unit} {held' : Held} (only : Only alive held process)
    (stopped : process.stop held = (outcome, held', after)) :
    Ends alive held process outcome held' after := by
  unfold stop at stopped
  split at stopped
  next seen looked' looked =>
    cases look_looks laws only looked with
    | gone other => exact absurd rfl other
    | running unreaped kept =>
      have first : Kept alive process { looked' with
          system := (System.requestExit held.pid looked'.system).2 } :=
        kept.trans ⟨rfl, Recorded.requestExit_dwindles laws looked'.system held.pid⟩
      dsimp only at stopped
      split at stopped
      next system delivered =>
        rw [delivered] at first
        have asked := first.said .debug
        split at stopped
        next _ exited awaited =>
          cases stopped
          obtain ⟨rest, nobody⟩ := awaitExit_true laws ((asked _).only only) awaited
          exact .gone (((asked _).trans rest).said _ _) nobody
        next _ late awaited =>
          obtain ⟨rest, rfl, _⟩ := awaitExit_false laws ((asked _).only only) awaited
          have warned := ((asked _).trans rest).said .warn
          exact (force_ends laws ((warned _).only only) stopped).after_kept (warned _)
      next system absent =>
        rw [absent] at first
        exact (force_ends laws (first.only only) stopped).after_kept first
      next fault system refused =>
        rw [refused] at first
        have warned := first.said .warn
        exact (force_ends laws ((warned _).only only) stopped).after_kept (warned _)
  next sight held' looked' other looked =>
    cases stopped
    cases look_looks laws only looked with
    | running => exact (other rfl).elim
    | gone _ kept nobody => exact .gone kept nobody

theorem terminate_ok (guards : Guards alive process)
    (ended : process.terminate = (.ok (), after)) :
    after.child = none ∧ Stays alive process after ∧ Nobody alive after := by
  unfold terminate at ended
  split at ended
  next holds =>
    cases ended
    exact ⟨holds, Kept.stays (.refl _), guards.nobody holds⟩
  next held holds =>
    have only : Only alive held { process with child := none } := guards.only holds
    split at ended
    next held' after' stopped =>
      cases ended
      cases stop_ends laws only stopped with
      | gone kept nobody =>
        refine ⟨kept.child, ⟨?_, kept.dwindles⟩, nobody⟩
        have same := kept.same
        rw [same]
    next => cases ended

theorem terminate_error (guards : Guards alive process) {fault : Error}
    (failed : process.terminate = (.error fault, after)) :
    Kept alive process after ∧ ∃ held message, process.child = some held ∧
      fault = .terminateFailed held.pid message := by
  unfold terminate at failed
  split at failed
  next => cases failed
  next held holds =>
    have only : Only alive held { process with child := none } := guards.only holds
    split at failed
    next => cases failed
    next fault' held' after' stopped =>
      cases failed
      cases stop_ends laws only stopped with
      | refused message kept =>
        refine ⟨⟨?_, kept.dwindles⟩, held, message, holds, rfl⟩
        have same := kept.same
        rw [same, ← holds]

theorem isRunning_true (guards : Guards alive process)
    (running : process.isRunning = (true, after)) : Kept alive process after := by
  unfold isRunning at running
  split at running
  next => cases running
  next held holds =>
    rcases looked : process.look held with ⟨sight, held', after'⟩
    rw [looked, Prod.mk.injEq, decide_eq_true_eq] at running
    obtain ⟨rfl, rfl⟩ := running
    cases look_looks laws (guards.only holds) looked with
    | gone seen => exact absurd rfl seen
    | running unreaped kept =>
      have same : { after' with child := some held } = after' := by
        rw [← holds, ← kept.child]
      rw [same]
      exact kept

theorem isRunning_false (guards : Guards alive process)
    (stopped : process.isRunning = (false, after)) :
    Stays alive process after ∧ Nobody alive after := by
  unfold isRunning at stopped
  split at stopped
  next holds =>
    cases stopped
    exact ⟨Kept.stays (.refl _), guards.nobody holds⟩
  next held holds =>
    rcases looked : process.look held with ⟨sight, held', after'⟩
    rw [looked, Prod.mk.injEq, decide_eq_false_iff_not] at stopped
    obtain ⟨other, rfl⟩ := stopped
    cases look_looks laws (guards.only holds) looked with
    | running => exact (other rfl).elim
    | gone seen kept nobody =>
      refine ⟨⟨?_, kept.dwindles⟩, nobody⟩
      have same := kept.same
      rw [same]

theorem launch_starts {path directory : String} {args : List String}
    {outcome : Except Error Nat} (stays : Stays alive process between)
    (nobody : Nobody alive between)
    (launched : between.launch path args directory = (outcome, after)) :
    Starts alive path args directory process outcome after := by
  unfold launch at launched
  split at launched
  next message system refused =>
    cases launched
    have dwindles := Recorded.spawn_dwindles laws between.system (congrArg Prod.fst refused)
    rw [refused] at dwindles
    have kept : Kept alive between { between with system := system } := ⟨rfl, dwindles⟩
    exact .failed message (stays.trans kept.stays) (kept.nobody nobody)
  next pid system spawned =>
    cases launched
    have alone := Recorded.spawn_orderly laws between.system (congrArg Prod.fst spawned) nobody
    rw [spawned] at alone
    exact .started ⟨rfl, rfl, rfl, rfl⟩ alone.1 (alone.2 ∘ stays.dwindles.orderly)

theorem start_starts {path directory : String} {args : List String} {outcome : Except Error Nat}
    (guards : Guards alive process)
    (launched : process.start path args directory = (outcome, after)) :
    Starts alive path args directory process outcome after := by
  unfold start at launched
  split at launched
  next idle looked =>
    obtain ⟨stays, nobody⟩ := isRunning_false laws guards looked
    exact launch_starts laws stays nobody launched
  next busy looked =>
    have told := (isRunning_true laws guards looked).said .info
    split at launched
    next ended terminated =>
      obtain ⟨_, stays, nobody⟩ := terminate_ok laws (guards.kept (told _)) terminated
      exact launch_starts laws ((told _).stays.trans stays) nobody launched
    next fault kept terminated =>
      cases launched
      obtain ⟨rest, held, message, holds, rfl⟩ :=
        terminate_error laws (guards.kept (told _)) terminated
      exact .refused held message ((told _).child.symm.trans holds) ((told _).trans rest)

end Process

/-- What is asked of a process, and the time that passes in between. -/
inductive Request where
  | start (path : String) (args : List String) (directory : String)
  | terminate
  | isRunning
  | waits (span : Duration)

namespace Process

def handle [System σ] (process : Process σ) : Request → Process σ
  | .start path args directory => (process.start path args directory).2
  | .terminate => process.terminate.2
  | .isRunning => process.isRunning.2
  | .waits span => { process with system := System.pause span process.system }

def run [System σ] (requests : List Request) (process : Process σ) : Process σ :=
  requests.foldl handle process

variable [System σ] {alive : Census σ} {process : Process (Recorded σ)}

theorem handle_guards (laws : LawfulSystem alive) (guards : Guards alive process)
    (orderly : process.system.Orderly alive) (request : Request) :
    Guards alive (process.handle request) ∧ (process.handle request).system.Orderly alive := by
  cases request with
  | start path args directory =>
    rcases started : process.start path args directory with ⟨outcome, after⟩
    rw [handle, started]
    cases start_starts laws guards started with
    | started own alone kept =>
      refine ⟨?_, kept orderly⟩
      intro pid lives
      exact ⟨_, own.2.2.2, (alone pid lives).symm, rfl⟩
    | failed message stays nobody => exact ⟨nobody.guards, stays.dwindles.orderly orderly⟩
    | refused held message holds kept =>
      exact ⟨guards.kept kept, kept.dwindles.orderly orderly⟩
  | terminate =>
    rcases terminated : process.terminate with ⟨outcome, after⟩
    rw [handle, terminated]
    cases outcome with
    | ok =>
      obtain ⟨_, stays, nobody⟩ := terminate_ok laws guards terminated
      exact ⟨nobody.guards, stays.dwindles.orderly orderly⟩
    | error fault =>
      obtain ⟨kept, _⟩ := terminate_error laws guards terminated
      exact ⟨guards.kept kept, kept.dwindles.orderly orderly⟩
  | isRunning =>
    rcases looked : process.isRunning with ⟨running, after⟩
    rw [handle, looked]
    cases running with
    | true =>
      have kept := isRunning_true laws guards looked
      exact ⟨guards.kept kept, kept.dwindles.orderly orderly⟩
    | false =>
      obtain ⟨stays, nobody⟩ := isRunning_false laws guards looked
      exact ⟨nobody.guards, stays.dwindles.orderly orderly⟩
  | waits span =>
    have kept := pause_kept laws span process
    exact ⟨guards.kept kept, kept.dwindles.orderly orderly⟩

theorem run_guards (laws : LawfulSystem alive) (guards : Guards alive process)
    (orderly : process.system.Orderly alive) (requests : List Request) :
    Guards alive (process.run requests) ∧ (process.run requests).system.Orderly alive := by
  induction requests generalizing process with
  | nil => exact ⟨guards, orderly⟩
  | cons request rest ih =>
    obtain ⟨still, kept⟩ := handle_guards laws guards orderly request
    exact ih still kept

/-- Whatever is asked of a process and however its system behaves, no more than one child is ever
alive. A termination that succeeds leaves none, and one that fails leaves the child held. A start
puts the new child and all that is recorded of it in the place of the old; one that fails for the old
child changes neither, and one that fails for the new leaves the record and nobody alive. -/
theorem one_child_at_most (laws : LawfulSystem alive) (system : σ)
    (nobody : ∀ pid, ¬alive system pid) (settings : TerminateSettings) (output : OutputMode)
    (requests : List Request) :
    let process : Process (Recorded σ) :=
      run requests { system := { now := system }, settings, output }
    (∀ state ∈ process.system.now :: process.system.past, AtMostOne alive state) ∧
      (match process.terminate with
        | (.ok (), after) => (∀ pid, ¬alive after.system.now pid) ∧ after.isRunning.1 = false ∧
          after.pid? = none
        | (.error fault, after) => after.child = process.child ∧ ∃ held message,
          process.child = some held ∧ fault = .terminateFailed held.pid message) ∧
      ∀ path args directory,
        match process.start path args directory with
        | (.ok pid, after) => after.path = path ∧ after.args = args ∧
          after.directory = directory ∧ after.child = some { pid }
        | (.error (.terminateFailed _ _), after) => after.path = process.path ∧
          after.args = process.args ∧ after.directory = process.directory ∧
          after.child = process.child
        | (.error (.spawnFailed _ _), after) => after.path = process.path ∧
          after.args = process.args ∧ after.directory = process.directory ∧
          ∀ pid, ¬alive after.system.now pid
        | (.error (.invalidOutputMode _), _) => False := by
  intro process
  have first : AtMostOne alive system := fun one _ lives => absurd lives (nobody one)
  have idle : Nobody alive { system := { now := system }, settings, output } := nobody
  obtain ⟨guards, orderly⟩ : Guards alive process ∧ process.system.Orderly alive :=
    run_guards laws idle.guards (by simpa [Recorded.Orderly] using first) requests
  refine ⟨orderly, ?_, ?_⟩
  · rcases terminated : process.terminate with ⟨outcome, after⟩
    cases outcome with
    | ok =>
      obtain ⟨childless, _, dead⟩ := terminate_ok laws guards terminated
      exact ⟨dead, by simp [isRunning, childless], by simp [pid?, childless]⟩
    | error fault =>
      obtain ⟨kept, held⟩ := terminate_error laws guards terminated
      exact ⟨kept.child, held⟩
  · intro path args directory
    rcases started : process.start path args directory with ⟨outcome, after⟩
    cases start_starts laws guards started with
    | started own => exact own
    | failed message stays dead =>
      have same := stays.same
      rw [same]
      exact ⟨rfl, rfl, rfl, dead⟩
    | refused held message holds kept =>
      have same := kept.same
      rw [same]
      exact ⟨rfl, rfl, rfl, rfl⟩

end Process

end FrameLink.Child
