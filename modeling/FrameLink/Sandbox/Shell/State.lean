import FrameLink.Sandbox.Shell.Arithmetic
import FrameLink.Sandbox.Shell.Pattern
import FrameLink.Sandbox.Shell.Reader
import FrameLink.Sandbox.Store
/-!
What a running shell knows: where it is in its script, its parameters, where its streams go, and what
it does when it is asked to exit. Words become fields by putting in the values of their parameters.
-/

namespace FrameLink.Sandbox.Shell

structure Streams where
  /-- what is left to read -/
  input : Bytes := []
  output : Sink
  error : Sink

inductive Trap where
  | default
  | ignore
  | run (command : Command)

inductive Frame where
  | run (command : Command)
  | chain (onSuccess : Bool) (second : Command)
  | negate
  | loop (whileTrue : Bool) (condition body : Command) (testing : Bool)
  | each (name : String) (values : List String) (body : Command)
  | branch (yes no : Command)
  /-- puts the streams back; what is left of the input stays as it is if it is the same input -/
  | streams (streams : Streams) (sameInput : Bool)
  /-- goes on with the second command, which reads what was written -/
  | pipe (second : Command) (written : Sink) (streams : Streams)
  /-- goes on with a command that needed what was written -/
  | fill (command : Command) (written : Sink) (streams : Streams)
  /-- the end of a function, with the arguments of its caller -/
  | call (arguments : List String)
  /-- the end of the whole script -/
  | exit (status : Nat)
  /-- puts the status back after a trap -/
  | status (status : Nat)
  /-- the end of a subshell, with what it had from its parent -/
  | parent (bindings : List (String × String)) (directory : String) (trap : Trap)

structure State where
  stack : List Frame
  streams : Streams
  directory : String
  pid : Nat
  name : String := "sh"
  arguments : List String := []
  bindings : List (String × String) := []
  status : Nat := 0
  trap : Trap := .default
  /-- what is still done at the end of the script -/
  farewell : Option Command := none
  functions : List (String × Command) := []
  /-- a command that fails, and is not a test, ends the script -/
  strict : Bool := false
  /-- a request to exit that has not been answered -/
  asked : Bool := false
  /-- how long the command in the foreground still sleeps -/
  until? : Option Nat := none

namespace State

def valueOf (name : String) (state : State) : String := (state.bindings.lookup name).getD ""

def assign (name value : String) (state : State) : State :=
  { state with bindings := (name, value) :: state.bindings.filter fun entry => entry.1 != name }

/-- The values of a parameter; only the list of all arguments has several. -/
def parameter (name : String) (state : State) : List String :=
  match name with
  | "#" => [toString state.arguments.length]
  | "?" => [toString state.status]
  | "$" => [toString state.pid]
  | "@" | "*" => state.arguments
  | "0" => [state.name]
  | "!" => [""]
  | "-" => [""]
  | "PWD" => [(state.bindings.lookup name).getD state.directory]
  | name =>
    match name.toNat? with
    | some n => [(state.arguments[n - 1]?).getD ""]
    | none => [state.valueOf name]

def expression (state : State) : List Piece → String
  | [] => ""
  | .text text :: rest => text ++ expression state rest
  | .parameter name :: rest => " ".intercalate (state.parameter name) ++ expression state rest
  | _ :: rest => expression state rest

def fallback (name : String) (orEmpty : Bool) (text : String) (state : State) : List String :=
  let values := state.parameter name
  let isUnset := values = [""] && (state.bindings.lookup name).isNone || values = []
  if isUnset || (orEmpty && values = [""]) then [text] else values

def value (state : State) : Piece → List String
  | .text text => [text]
  | .parameter name => state.parameter name
  | .fallback name orEmpty text => state.fallback name orEmpty text
  | .length name => [toString (" ".intercalate (state.parameter name)).length]
  | .substitution _ => []
  | .written text => [text]
  | .arithmetic source =>
    let name (name : String) : Int := (state.valueOf name).toInt?.getD 0
    [toString ((Arithmetic.eval? name (expression state source)).getD 0)]

/-- Fields under construction: those that are complete, and the one that is being made. -/
structure Fields where
  complete : List String := []
  current : Option String := none

namespace Fields

def add (text : String) (fields : Fields) : Fields :=
  { fields with current := some (fields.current.getD "" ++ text) }

def finish (fields : Fields) : Fields :=
  ⟨fields.complete ++ fields.current.toList, none⟩

/-- Several values, of which the first joins what is before it. -/
def addAll (values : List String) (fields : Fields) : Fields :=
  match values with
  | [] => fields
  | first :: rest => rest.foldl (fun fields value => fields.finish.add value) (fields.add first)

def addSplit (value : String) (fields : Fields) : Fields :=
  value.foldl (fun fields c =>
    if c == ' ' || c == '\t' || c == '\n' then fields.finish else fields.add (String.singleton c)) fields

end Fields

/-- The fields of a word; all arguments in quotes are a field each. -/
def expand (word : Word) (state : State) : List String :=
  if let [(true, .text ""), (true, .parameter "@")] := word then state.arguments
  else (word.foldl (fun fields (quoted, piece) =>
    match quoted, piece with
    | true, .parameter "@" => fields.addAll state.arguments
    | true, piece => fields.add (" ".intercalate (state.value piece))
    | false, .text text => fields.add text
    | false, piece => fields.addSplit (" ".intercalate (state.value piece)))
    ({} : Fields)).finish.complete

def expandAll (words : List Word) (state : State) : List String := words.flatMap (expand · state)

/-- The value of a word that is one field whatever it holds. -/
def expandOne (word : Word) (state : State) : String :=
  "".intercalate (word.map fun (_, piece) => " ".intercalate (state.value piece))

def pattern (word : Word) (state : State) : List Pattern.Item :=
  let marked := word.flatMap fun (quoted, piece) =>
    (" ".intercalate (state.value piece)).toList.map fun c => (quoted, c)
  Pattern.ofMarked marked.length marked

def path (name : String) (state : State) : String := Store.resolve state.directory name

/-- Sends the streams where redirections say; none when a file cannot be opened. -/
def redirect : List Redirect → State → Store → Option (State × Store)
  | [], state, store => some (state, store)
  | ⟨stream, target⟩ :: rest, state, store =>
    let send (sink : Sink) : State := { state with streams :=
      if stream = 2 then { state.streams with error := sink }
      else { state.streams with output := sink } }
    match target with
    | .copy source =>
      redirect rest (send (if source = 2 then state.streams.error else state.streams.output)) store
    | .write file append =>
      let path := state.path (state.expandOne file)
      if path = "/dev/null" then redirect rest (send .null) store
      else if store.isDirectory path || !store.isDirectory (Store.parentOf path) then none
      else
        let kept := if append then (store.read? (.file path)).getD [] else []
        redirect rest (send (.file path)) (store.put (.file path) kept)
    | .read file =>
      let path := state.path (state.expandOne file)
      match if path = "/dev/null" then some [] else store.read? (.file path) with
      | none => none
      | some input => redirect rest { state with streams := { state.streams with input } } store

end State

end FrameLink.Sandbox.Shell
