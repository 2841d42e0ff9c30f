import FrameLink.Child.System
import FrameLink.Log
import FrameLink.Settings.Terminate
/-!
Supervision of one program at a time. A child is asked to exit, given time to do so and then killed;
starting another one does all of that first, and replaces what is recorded only when the new child
runs.
-/

namespace FrameLink.Child

/-- A child that is held. Once its end has been seen, its number means nothing any more. -/
structure Held where
  pid : Nat
  reaped : Bool := false
deriving DecidableEq

structure Process (σ : Type) where
  system : σ
  settings : TerminateSettings := {}
  output : OutputMode := .inherit
  path : String := ""
  directory : String := ""
  args : List String := []
  child : Option Held := none
  log : List Log.Event := []

namespace Process

variable {σ : Type}

def say (level : Log.Level) (message : String) (process : Process σ) : Process σ :=
  { process with log := process.log ++ [⟨level, .supervisor, message, none⟩] }

/-- The last part of a path, or the path itself when that names nothing. A dot names nothing, and at
the end of a longer path it is not there. -/
def fileName (path : String) : String :=
  let parts := (path.splitOn "/").filter (· ≠ "")
  let named := match parts with
    | [] => []
    | first :: rest => first :: rest.filter (· ≠ ".")
  match named.getLast? with
  | none | some "." | some ".." => path
  | some name => name

def label (process : Process σ) : String := fileName process.path

def pid? (process : Process σ) : Option Nat :=
  process.child.bind fun held => if held.reaped then none else some held.pid

variable [System σ]

def look (held : Held) (process : Process σ) : Sight × Held × Process σ :=
  if held.reaped then (.exited, held, process)
  else
    match System.look held.pid process.system with
    | (sight, system) => (sight, { held with reaped := sight = .exited }, { process with system })

/-- Whether a child was started and has not exited. -/
def isRunning (process : Process σ) : Bool × Process σ :=
  match process.child with
  | none => (false, process)
  | some held =>
    match process.look held with
    | (sight, held, process) => (sight = .running, { process with child := some held })

def oneMilli : Duration := ⟨1000000, by decide⟩

/-- Looks for the end of a child until the time that remains has passed: every interval, but no later
than the time is up, and never more often than every millisecond. -/
def awaitExit (interval : Duration) (remaining : Duration) (held : Held) (process : Process σ) :
    Bool × Held × Process σ :=
  match process.look held with
  | (.running, held, process) =>
    if remaining.nanos = 0 then (false, held, process)
    else
      let span := (interval.min remaining).max oneMilli
      awaitExit interval ⟨remaining.nanos - span.nanos, by have := remaining.bounded; omega⟩ held
        { process with system := System.pause span process.system }
  | (_, held, process) => (true, held, process)
termination_by remaining.nanos
decreasing_by
  have positive : oneMilli.nanos ≤ ((interval.min remaining).max oneMilli).nanos := by
    unfold Duration.max
    split <;> omega
  have : oneMilli.nanos = 1000000 := rfl
  show remaining.nanos - _ < remaining.nanos
  omega

def force (held : Held) (process : Process σ) : Except Error Unit × Held × Process σ :=
  match System.kill held.pid process.system with
  | (.ok (), system) => (.ok (), { held with reaped := true }, { process with system })
  | (.error fault, system) =>
    match { process with system }.look held with
    | (.running, held, process) => (.error (.terminateFailed held.pid fault), held, process)
    | (_, held, process) => (.ok (), held, process)

/-- Asks a child to exit, and ends it by force when it does not. -/
def stop (held : Held) (process : Process σ) : Except Error Unit × Held × Process σ :=
  match process.look held with
  | (.running, held, process) =>
    let named := s!"{process.label} (PID: {held.pid})"
    match System.requestExit held.pid process.system with
    | (.ok true, system) =>
      let asked := { process with system }.say .debug s!"📤 Asked {named} to exit"
      match asked.awaitExit process.settings.pollInterval process.settings.gracePeriod held with
      | (true, held, process) => (.ok (), held, process.say .info s!"🛑 {named} exited")
      | (false, held, process) =>
        (process.say .warn
          s!"🔨 {named} still running after {process.settings.gracePeriod.text}; killing").force held
    | (.ok false, system) => { process with system }.force held
    | (.error fault, system) =>
      ({ process with system }.say .warn s!"Exit request to {named} failed: {fault}; killing").force
        held
  | (_, held, process) => (.ok (), held, process)

/-- Ends the child, if there is one. A child that cannot be ended is still held. -/
def terminate (process : Process σ) : Except Error Unit × Process σ :=
  match process.child with
  | none => (.ok (), process)
  | some held =>
    match { process with child := none }.stop held with
    | (.ok (), _, process) => (.ok (), process)
    | (.error fault, held, process) => (.error fault, { process with child := some held })

def launch (path : String) (args : List String) (directory : String) (process : Process σ) :
    Except Error Nat × Process σ :=
  match System.spawn ⟨path, args, directory, process.output⟩ process.system with
  | (.error fault, system) => (.error (.spawnFailed path fault), { process with system })
  | (.ok pid, system) =>
    (.ok pid, { process with system, path, directory, args, child := some { pid } }.say .info
      s!"🚀 Started {path} (PID: {pid})")

def start (path : String) (args : List String) (directory : String) (process : Process σ) :
    Except Error Nat × Process σ :=
  match process.isRunning with
  | (false, process) => process.launch path args directory
  | (true, process) =>
    match (process.say .info s!"🔄 Stopping {process.label} before starting {path}").terminate with
    | (.ok (), process) => process.launch path args directory
    | (.error fault, process) => (.error fault, process)

def describe (process : Process σ) : String × Process σ :=
  match process.isRunning with
  | (running, process) =>
    let args := process.args.foldl (fun text arg => text ++ s!"[{arg}] ") ""
    let shown := if running then "Yes" else "No"
    (s!"Process[Path: {process.path}, WorkingDir: {process.directory}, Args: {args}, " ++
      s!"Running: {shown}]", process)

def drop (process : Process σ) : Process σ :=
  match process.child with
  | none => process
  | some held =>
    if held.reaped then process
    else { process with system := (System.kill held.pid process.system).2, child := none }

end Process

end FrameLink.Child
