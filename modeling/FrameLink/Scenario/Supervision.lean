import FrameLink.Child.Lines
import FrameLink.Child.Process
import FrameLink.Sandbox.Machine
/-!
Scenarios for the supervision of one child at a time, in a sandbox with one directory of its own.
That directory is shown by a word, and so are the numbers of children.
-/

namespace FrameLink.Scenario.Supervision

open Child Sandbox

inductive Step where
  | start (path : String) (args : List String) (directory : String)
  | isRunning
  | hasPid
  | describe
  | settings
  | terminate
  /-- waits until nothing runs -/
  | waitStopped
  /-- waits until there is a file -/
  | waitFile (file : String)
  | contents (file : String)
  /-- waits until the child started so many starts after the first is gone -/
  | gone (place : Nat)
  /-- waits for the end of the output, and takes what has been forwarded -/
  | output
  | drop
  | idle

inductive Answer where
  | nothing
  | flag (yes : Bool)
  | text (text : Option String)
  /-- whether the child that was started is the one that is held -/
  | started (same : Bool)
  | settings (settings : TerminateSettings)
  /-- whether it took the time that a child is given -/
  | terminated (waited : Bool)
  | fault (error : Child.Error)
  | forwarded (output error : List String)

structure World where
  process : Process Machine
  /-- the numbers and names of the children, the first start first -/
  started : List (Nat × String) := []
  /-- how many of the children's outputs have been taken -/
  taken : Nat := 0
  dropped : Bool := false

def place : String := "/tmp/frame-link"

def word : String := "$TMP"

def seen (text : String) : String := text.replace place word

namespace World

def machine (world : World) : Machine := world.process.system

def masked (world : World) (text : String) : String :=
  seen (world.started.foldl (fun text (pid, _) => text.replace s!"(PID: {pid})" "(PID: N)") text)

def interval : Duration := .ofMillis 5

/-- Looks again and again until something is so, or so many times. -/
def await (test : World → Bool × World) : Nat → World → Bool × World
  | 0, world => test world
  | looks + 1, world =>
    match test world with
    | (true, world) => (true, world)
    | (false, world) =>
      await test looks { world with
        process := { world.process with system := world.machine.pass interval } }

def looks : Nat := 2000

def file (name : String) (world : World) : Option Bytes :=
  world.machine.store.read? (.file (Store.resolve place (name.replace word place)))

def isOver (child : Nat × String) (world : World) : Bool := !world.machine.isAlive child.1

def start (path : String) (args : List String) (directory : String) (world : World) :
    Answer × World :=
  let real (text : String) : String := text.replace word place
  match world.process.start (real path) (args.map real) (real directory) with
  | (.ok pid, process) =>
    (.started (process.pid? = some pid),
      { world with process, started := world.started ++ [(pid, process.label)] })
  | (.error fault, process) => (.fault fault, { world with process })

def terminate (world : World) : Answer × World :=
  let began := world.machine.now
  match world.process.terminate with
  | (.error fault, process) => (.fault fault, { world with process })
  | (.ok (), process) =>
    (.terminated (began + world.process.settings.gracePeriod.nanos ≤ process.system.now),
      { world with process })

/-- The lines of the children whose output has not been taken, as events. -/
def forwarded (isError : Bool) (world : World) : List Log.Event :=
  if world.process.output = .log then
    (world.started.drop world.taken).flatMap fun (pid, label) =>
      forward label isError (world.machine.piped pid isError)
  else []

def output (world : World) : Answer × World :=
  let (_, world) := world.await (fun world =>
    (world.started.all (world.isOver ·), world)) looks
  let out := world.forwarded false
  let err := world.forwarded true
  let lines (events : List Log.Event) : List String :=
    (events.filter (·.level ≠ .debug)).map (·.message)
  (.forwarded (lines out) (lines err), { world with
    process := { world.process with log := world.process.log ++ out ++ err }
    taken := world.started.length })

def act (world : World) : Step → Answer × World
  | .start path args directory => world.start path args directory
  | .isRunning =>
    let (running, process) := world.process.isRunning
    (.flag running, { world with process })
  | .hasPid => (.flag world.process.pid?.isSome, world)
  | .describe =>
    let (text, process) := world.process.describe
    (.text (some text), { world with process })
  | .settings => (.settings world.process.settings, world)
  | .terminate => world.terminate
  | .waitStopped =>
    let (stopped, world) := world.await (fun world =>
      let (running, process) := world.process.isRunning
      (!running, { world with process })) looks
    (.flag stopped, world)
  | .waitFile name =>
    let (found, world) := world.await (fun world => ((world.file name).isSome, world)) looks
    (.flag found, world)
  | .contents name => (.text ((world.file name).map Utf8.lossy), world)
  | .gone place =>
    let (gone, world) := world.await (fun world =>
      ((world.started[place]?).all (world.isOver ·), world)) looks
    (.flag gone, world)
  | .output => world.output
  | .drop => (.nothing, { world with process := world.process.drop, dropped := true })
  | .idle => (.nothing, world)

end World

def Answer.masked (world : World) : Answer → Answer
  | .text shown => .text (shown.map seen)
  | .fault (.spawnFailed path message) => .fault (.spawnFailed (seen path) message)
  | .forwarded out err => .forwarded (out.map world.masked) (err.map world.masked)
  | answer => answer

structure Entry where
  answer : Answer
  /-- none after the end of supervision -/
  log : Option (List Log.Event)

def enter (world : World) (step : Step) : Entry × World :=
  let (answer, after) := world.act step
  ({ answer := answer.masked after
     log := if world.dropped then none else some (after.process.log.map fun event =>
      { event with message := after.masked event.message }) },
    { after with process := { after.process with log := [] } })

/-- One entry for each step. Nothing answers after the end but the children's deaths. -/
def runFrom : World → List Step → List (Option Entry)
  | _, [] => []
  | world, step :: rest =>
    match world.dropped, step with
    | false, _ | true, .gone _ =>
      let (entry, world) := enter world step
      some entry :: runFrom world rest
    | true, _ => none :: runFrom world rest

def run (settings : TerminateSettings) (output : OutputMode) (steps : List Step) :
    List (Option Entry) :=
  let directories := Program.directories ++ [place]
  runFrom { process := { system := { store := { directories } }, settings, output } } steps

end FrameLink.Scenario.Supervision
