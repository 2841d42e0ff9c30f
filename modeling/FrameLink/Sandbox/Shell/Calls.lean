import FrameLink.Sandbox.Shell.Filters
import FrameLink.Text.Utf8
/-!
The commands that change what a shell knows or where it is in its script, and what a step comes to.
-/

namespace FrameLink.Sandbox.Shell

inductive Pace where
  | goesOn (state : State)
  | sleeps (span : Nat) (state : State)
  | exits (status : Nat)
  /-- a signal ends it, by force or on request -/
  | dies
  /-- another program takes its place -/
  | becomes (words : List String) (state : State)

namespace State

def push (frame : Frame) (state : State) : State := { state with stack := frame :: state.stack }

def ofScript (command : Command) (streams : Streams) (directory : String) (pid : Nat)
    (name : String) (arguments : List String) : State :=
  { stack := [.run command], streams, directory, pid, name, arguments }

def restore (streams : Streams) (sameInput : Bool) (state : State) : State :=
  { state with streams :=
      if sameInput then { streams with input := state.streams.input } else streams }

def leave (status : Nat) (state : State) : Option State :=
  match state.stack.dropWhile fun
      | .parent .. => false
      | _ => true with
  | .parent bindings directory trap :: rest =>
    some { state with stack := rest, bindings, directory, trap, status }
  | _ => none

/-- Leaves so many loops; `again` takes up the last of them once more. -/
def unwind (again : Bool) : (loops : Nat) → List Frame → List Frame
  | _, [] => []
  | loops, frame :: rest =>
    match frame with
    | .loop whileTrue condition body _ =>
      if 1 < loops then unwind again (loops - 1) rest
      else if again then .run (.loop whileTrue condition body) :: rest else rest
    | .each .. =>
      if 1 < loops then unwind again (loops - 1) rest else if again then frame :: rest else rest
    | _ => unwind again loops rest

def apply (effect : Effect) (state : State) (store : Store) : State × Store :=
  ({ state with
      status := effect.status
      streams := { state.streams with input := effect.left.getD state.streams.input } },
    (store.append state.streams.output effect.output).append state.streams.error
      (Bytes.ofText effect.error))

/-- Says what happens on the signals named, of which the request to exit and the end of the script
count. -/
def setTrap (action : String) (signals : List String) (state : State) : State :=
  let command := (Reader.script? action).getD .skip
  let state :=
    if signals.any fun signal => signal = "TERM" || signal = "15" || signal = "SIGTERM" then
      { state with trap :=
          if action.isEmpty then .ignore else if action = "-" then .default else .run command }
    else state
  if signals.any fun signal => signal = "EXIT" || signal = "0" then
    { state with farewell := if action.isEmpty || action = "-" then none else some command }
  else state

def exit (status : Nat) (state : State) : Pace :=
  match state.farewell with
  | none => .exits status
  | some command => .goesOn { state with
      farewell := none, status, stack := [.run command, .exit status] }

def return? (status : Nat) (state : State) : Option State :=
  match state.stack.dropWhile fun
      | .call .. | .parent .. => false
      | _ => true with
  | .call arguments :: rest => some { state with stack := rest, arguments, status }
  | _ => none

def assignAll (assigns : List String) (state : State) : State :=
  assigns.foldl (fun state text =>
    match text.splitOn "=" with
    | name :: value :: more => state.assign name ("=".intercalate (value :: more))
    | _ => state) state

/-- Sets options and, after two dashes, the arguments. -/
def set (state : State) : List String → State
  | [] => state
  | "--" :: arguments => { state with arguments }
  | option :: rest =>
    if option.startsWith "-" then set { state with strict := state.strict || option.contains 'e' } rest
    else if option.startsWith "+" then
      set { state with strict := state.strict && !option.contains 'e' } rest
    else { state with arguments := option :: rest }

def isTested (state : State) : Bool :=
  state.stack.any fun
    | .chain .. | .negate | .branch .. | .loop _ _ _ true => true
    | _ => false

/-- A strict script ends where a command fails. -/
def check (state : State) : Pace :=
  if state.strict && state.status ≠ 0 && !state.isTested then
    match state.leave state.status with
    | some state => .goesOn state
    | none => state.exit state.status
  else .goesOn state

/-- Takes a line off the input, and gives its words to the names; the last one gets what is left. -/
def read (names : List String) (state : State) : State :=
  let input := state.streams.input
  let line := Utf8.lossy (input.takeWhile (· ≠ 10))
  let rest := input.dropWhile (· ≠ 10)
  let state := { state with
    status := if rest.isEmpty then 1 else 0
    streams := { state.streams with input := rest.drop 1 } }
  let isBlank (c : Char) : Bool := c = ' ' || c = '\t'
  let rec give (state : State) (cs : List Char) : List String → State
    | [] => state
    | [name] => state.assign name
        (String.ofList ((cs.dropWhile isBlank).reverse.dropWhile isBlank).reverse)
    | name :: names =>
      let cs := cs.dropWhile isBlank
      give (state.assign name (String.ofList (cs.takeWhile (!isBlank ·)))) (cs.dropWhile (!isBlank ·))
        names
  give state line.toList names

/-- Sends a signal to the numbered programs; only the shell itself can be meant. -/
def signal (name : String) (targets : List String) (state : State) : Pace :=
  let own := targets.contains (toString state.pid)
  match name with
  | "9" | "KILL" | "SIGKILL" => if own then .dies else .goesOn { state with status := 1 }
  | "0" => .goesOn { state with status := if own then 0 else 1 }
  | _ => .goesOn { state with asked := state.asked || own, status := if own then 0 else 1 }

def kill (arguments : List String) (state : State) : Pace :=
  match arguments with
  | "-s" :: name :: targets => state.signal name targets
  | first :: targets =>
    if first.startsWith "-" then state.signal ((first.drop 1).toString) targets
    else state.signal "TERM" (first :: targets)
  | [] => .goesOn { state with status := 2 }

def call (words : List String) (state : State) (store : Store) : Pace × Store :=
  let done (effect : Effect) : Pace × Store :=
    let (state, store) := state.apply effect store
    (.goesOn state, store)
  let number (text : String) (other : Nat) : Nat := (text.toNat?).getD other
  match Filters.run? state store words with
  | some effect => done effect
  | none =>
  match words with
  | [] => (.goesOn state, store)
  | ":" :: _ | "true" :: _ | "wait" :: _ | "umask" :: _ => done {}
  | "export" :: assigns | "readonly" :: assigns | "local" :: assigns =>
    (.goesOn ({ state with status := 0 }.assignAll assigns), store)
  | "set" :: options => (.goesOn ({ state with status := 0 }.set options), store)
  | "eval" :: words =>
    match Reader.script? (" ".intercalate words) with
    | some command => (.goesOn ({ state with status := 0 }.push (.run command)), store)
    | none => done (.complain state.name "Syntax error: unexpected token" 2)
  | "false" :: _ => done { status := 1 }
  | "read" :: names => (.goesOn (state.read (names.filter (!·.startsWith "-"))), store)
  | "echo" :: rest => done { output := echo true rest }
  | "printf" :: [] => done (.complain state.name "printf: usage: printf format [arg ...]" 2)
  | "printf" :: format :: rest => done { output := Format.print format rest }
  | "pwd" :: _ => done { output := Bytes.ofText (state.directory ++ "\n") }
  | "seq" :: rest => done (sequence rest)
  | "test" :: rest => done (tested state.name (test state store rest))
  | "[" :: rest => done (tested state.name (test state store rest.dropLast))
  | "cd" :: target :: _ =>
    let path := state.path target
    if store.isDirectory path then (.goesOn { state with directory := path, status := 0 }, store)
    else done (.complain state.name s!"cd: can't cd to {target}" 2)
  | "touch" :: files =>
    (.goesOn { state with status := 0 }, files.foldl (fun store file =>
      store.put (.file (state.path file)) ((store.read? (.file (state.path file))).getD [])) store)
  | "rm" :: files =>
    (.goesOn { state with status := 0 }, files.foldl (fun store file =>
      store.erase (.file (state.path file))) store)
  | "mkdir" :: names =>
    let made := (names.filter fun name => !name.startsWith "-").map state.path
    (.goesOn { state with status := 0 }, { store with directories := store.directories ++ made })
  | "shift" :: _ => (.goesOn { state with arguments := state.arguments.drop 1, status := 0 }, store)
  | "unset" :: names =>
    let bindings := state.bindings.filter fun entry => !names.contains entry.1
    (.goesOn { state with status := 0, bindings }, store)
  | "sleep" :: text :: _ =>
    match span? text with
    | some span => (.sleeps span { state with status := 0 }, store)
    | none => done { status := 1, error := "sleep: invalid time interval '" ++ text ++
        "'\nTry 'sleep --help' for more information.\n" }
  | "sleep" :: [] => done { status := 1, error :=
      "sleep: missing operand\nTry 'sleep --help' for more information.\n" }
  | "return" :: rest =>
    let status := number (rest.headD "") state.status
    match state.return? status with
    | some state => (.goesOn state, store)
    | none => (state.exit status, store)
  | "exit" :: rest =>
    let status := number (rest.headD "") state.status
    match state.leave status with
    | some state => (.goesOn state, store)
    | none => (state.exit status, store)
  | "break" :: rest => (.goesOn { state with
      status := 0, stack := unwind false (number (rest.headD "") 1) state.stack }, store)
  | "continue" :: rest => (.goesOn { state with
      status := 0, stack := unwind true (number (rest.headD "") 1) state.stack }, store)
  | "trap" :: action :: signals => (.goesOn ({ state with status := 0 }.setTrap action signals), store)
  | "kill" :: rest => (state.kill rest, store)
  | "exec" :: [] => (.goesOn state, store)
  | "exec" :: rest => (.becomes rest state, store)
  | name :: _ => done (.complain state.name s!"{name}: not found" 127)

end State

end FrameLink.Sandbox.Shell
