import FrameLink.Sandbox.Program
/-!
Children that run beside each other on one clock. They run only while time passes, so that who starts
a child or asks it to exit sees its reaction after the next pause; every step of a program takes the
same time. A child that is killed is gone at once.
-/

namespace FrameLink.Sandbox

/-- A child with its program, as long as that runs, and the moment up to which it has run. -/
structure Task where
  pid : Nat
  program : Option Shell.State
  time : Instant

structure Machine where
  now : Instant := 0
  store : Store := { directories := Program.directories }
  tasks : List Task := []
  nextPid : Nat := 1000
  /-- where the parent of the children is -/
  directory : String := "/"

/-- How long a step of a program takes, in nanoseconds. -/
def stepTime : Nat := 20000

namespace Task

def diesOnRequest (program : Shell.State) : Bool :=
  program.asked && match program.trap with
    | .default => true
    | _ => false

/-- Replaces a program by another one, which goes on ignoring what the first one ignored. -/
def replaced (words : List String) (program : Shell.State) (store : Store) : Shell.State :=
  match words with
  | [] => program
  | path :: arguments =>
    let trap := match program.trap with
      | .ignore => .ignore
      | _ => .default
    match Program.find path program.directory store with
    | .ok name =>
      { Program.start name path arguments program.streams program.directory program.pid store with
        trap, asked := program.asked }
    | .error _ =>
      { program with
        stack := [.run (Program.complaint s!"{program.name}: 1: exec: {path}: not found\n" 127)] }

def runUntil (moment : Instant) (task : Task) (store : Store) : Task × Store :=
  match task.program with
  | none => (task, store)
  | some program =>
    if task.time < moment then
      if diesOnRequest program then ({ task with program := none }, store)
      else
        let goOn (program : Shell.State) : Task :=
          { task with program := some program, time := task.time + stepTime }
        match program.until? with
        | some wake =>
          if moment < wake then (task, store)
          else
            runUntil moment { goOn { program with until? := none } with
              time := max wake (task.time + stepTime) } store
        | none =>
          match program.step store with
          | (.goesOn program, store) => runUntil moment (goOn program) store
          | (.sleeps span program, store) =>
            runUntil moment (goOn { program with until? := some (task.time + span) }) store
          | (.becomes words program, store) =>
            runUntil moment (goOn (replaced words program store)) store
          | (.exits _, store) | (.dies, store) => ({ task with program := none }, store)
    else (task, store)
termination_by moment - task.time
decreasing_by all_goals simp only [stepTime, Instant] at *; omega

end Task

namespace Machine

def runTasks (moment : Instant) : List Task → Store → List Task × Store
  | [], store => ([], store)
  | task :: rest, store =>
    let (task, store) := task.runUntil moment store
    let (rest, store) := runTasks moment rest store
    (task :: rest, store)

def pass (span : Duration) (machine : Machine) : Machine :=
  let now := machine.now + span.nanos
  let (tasks, store) := runTasks now machine.tasks machine.store
  { machine with now, tasks, store }

def task? (pid : Nat) (machine : Machine) : Option Task :=
  machine.tasks.find? (·.pid = pid)

def update (pid : Nat) (change : Task → Task) (machine : Machine) : Machine :=
  { machine with tasks := machine.tasks.map fun task => if task.pid = pid then change task else task }

def isAlive (pid : Nat) (machine : Machine) : Bool :=
  (machine.task? pid).any (·.program.isSome)

def streamsFor (output : Child.OutputMode) (pid : Nat) : Shell.Streams :=
  match output with
  | .inherit => { output := .parent false, error := .parent true }
  | .discard => { output := .null, error := .null }
  | .log => { output := .pipe pid false, error := .pipe pid true }

def spawn (command : Child.Command) (machine : Machine) : Except String Nat × Machine :=
  let pid := machine.nextPid
  let hasNul (text : String) : Bool := text.contains (Char.ofNat 0)
  let program : Except Refusal Shell.State := do
    if (command.path :: command.directory :: command.args).any hasNul then throw .nul
    let directory ← Program.enter machine.directory command.directory machine.store
    let name ← Program.find command.path directory machine.store
    return Program.start name command.path command.args (streamsFor command.output pid) directory pid
      machine.store
  match program with
  | .error refusal => (.error refusal.message, machine)
  | .ok program =>
    (.ok pid, { machine with
      nextPid := pid + 1, tasks := machine.tasks ++ [⟨pid, some program, machine.now⟩] })

def piped (pid : Nat) (isError : Bool) (machine : Machine) : Bytes :=
  (machine.store.read? (.pipe pid isError)).getD []

instance : Child.System Machine where
  spawn := spawn
  look pid machine :=
    (match machine.task? pid with
      | none => .failed
      | some task => if task.program.isSome then .running else .exited, machine)
  requestExit pid machine :=
    (.ok (machine.task? pid).isSome, machine.update pid fun task =>
      { task with program := task.program.map ({ · with asked := true }) })
  kill pid machine := (.ok (), machine.update pid ({ · with program := none }))
  pause := pass

end Machine

end FrameLink.Sandbox
