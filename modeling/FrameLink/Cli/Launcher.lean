import FrameLink.Child.Lines
import FrameLink.Child.Process
import FrameLink.Cli.Outcome
/-!
The program that starts another program and supervises it, until that exits or the user interrupts.
-/

namespace FrameLink.Cli.Launcher

open Child

structure Options where
  path : String := ""
  directory : String := ""
  grace : Option UInt64 := none
  output : OutputMode := .inherit
  logLevel : String := "info"
  args : List String := []

def outputMode (set : OutputMode → Options → Options) (value : String) (options : Options) :
    Except Misfit Options :=
  match OutputMode.ofText value with
  | .ok mode => .ok (set mode options)
  | .error fault => .error (.reason fault.message)

def grammar : Grammar Options where
  program := "engine-launcher"
  about := "Start an engine executable and stop it gracefully on Ctrl+C"
  start := {}
  switches := [
    { name := "path", help := "Executable to launch", required := true
      action := .value "PATH" false (path fun path options => { options with path }) },
    { name := "working-dir"
      help := "Working directory for the child (defaults to the current one)"
      action := .value "WORKING_DIR" false (path fun directory options =>
        { options with directory }) },
    { name := "grace-ms"
      help := "Grace period before a forced kill, in milliseconds " ++
        "(overrides ENGINE_LINK_GRACE_PERIOD_MS)"
      action := .value "GRACE_MS" false (count fun grace options =>
        { options with grace := some grace }) },
    { name := "output", help := "Child output handling (inherit, discard, log)"
      default := some "inherit"
      action := .value "OUTPUT" false (outputMode fun output options => { options with output }) },
    { name := "log-level", help := "Log level (trace, debug, info, warn, error)"
      default := some "info"
      action := .value "LOG_LEVEL" false (text fun logLevel options =>
        { options with logLevel }) }]
  tail := some { placeholder := "ARGS", help := "Arguments passed to the executable"
                 add := fun word options => { options with args := options.args ++ [word] } }

variable {σ : Type} [System σ]

/-- What a program sees of its system: what children have written to its own streams, and through
pipes to itself; for each, whether on the error stream. -/
structure View (σ : Type) where
  inherited : Bool → σ → Bytes
  piped : Nat → Bool → σ → Bytes

def visible (view : View σ) (terminal : Terminal) (pid : Nat) (process : Process σ) : String :=
  let forwarded := [false, true].flatMap fun isError =>
    (lines (view.piped pid isError process.system)).map (· ++ "\n")
  let piped := if process.output = .log && terminal.filter.shows "supervisor" .info then
    String.join forwarded else ""
  Utf8.lossy (terminal.output ++ view.inherited false process.system) ++ piped

/-- How often the child is looked at, and how often the user looks at the output meanwhile. -/
def looksPerTick : Nat := 100

def look : Duration := .ofMillis 5

def awaitTick (sees : Process σ → Bool) : Nat → Process σ → Bool × Process σ
  | 0, process => (false, process)
  | looks + 1, process =>
    if sees process then (true, process)
    else awaitTick sees looks { process with system := System.pause look process.system }

inductive Ending where
  | exited
  | interrupted

def Ending.event : Ending → Log.Event
  | .exited => ⟨.warn, .supervisor, "Engine exited on its own", none⟩
  | .interrupted => ⟨.info, .supervisor, "Received Ctrl+C", none⟩

/-- Supervises until the child is gone or the user interrupts, which he also does when he has waited
for so many looks at the child. -/
def supervise (sees : Process σ → Bool) : (patience : Nat) → Process σ → Ending × Process σ
  | 0, process => (.interrupted, process)
  | patience + 1, process =>
    match process.isRunning with
    | (false, process) => (.exited, process)
    | (true, process) =>
      match awaitTick sees looksPerTick process with
      | (true, process) => (.interrupted, process)
      | (false, process) => supervise sees patience process

def patience : Nat := 1200

def origin : String := "engine_launcher"

def run (system : σ) (view : View σ) (call : Call) : Outcome :=
  withOptions grammar call fun options =>
    let terminal := (Terminal.ofCall .supervisor options.logLevel call).tell shared
      [Log.startup .supervisor "engine launcher"]
    match TerminateSettings.ofLookup call.lookup with
    | .error fault => terminal.fail fault.message
    | .ok settings =>
      let settings := match options.grace with
        | some ms => { settings with gracePeriod := .ofMillis ms }
        | none => settings
      let process : Process σ := { system, settings, output := options.output }
      match process.start options.path options.args options.directory with
      | (.error fault, process) =>
        ((terminal.tell "supervisor" process.log).tell shared
          [Log.failure .supervisor "Launch" fault.message]).fail fault.message
      | (.ok pid, process) =>
        let (description, process) := process.describe
        let started := (terminal.tell "supervisor" process.log).tell origin
          [⟨.info, .supervisor, description, none⟩]
        let sees (process : Process σ) : Bool := match call.interruptAfter with
          | some text => mentions text (visible view started pid process)
          | none => false
        let (ending, process) := supervise sees patience { process with log := [] }
        let (outcome, process) := process.terminate
        let told := ((started.write (view.inherited false process.system)).tell origin
          [ending.event]).tell "supervisor" process.log
        let told := { told with
          remarks := told.remarks ++ Utf8.lossy (view.inherited true process.system) }
        match outcome with
        | .error fault => told.fail fault.message
        | .ok () => (told.tell shared [Log.shutdown .supervisor "engine stopped"]).finish

end FrameLink.Cli.Launcher
