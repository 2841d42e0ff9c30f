import FrameLink.Cli.DotEnv
import FrameLink.Cli.Help
import FrameLink.Bytes
import FrameLink.Log.Filter
import FrameLink.Settings.Lookup
/-!
How a program is called and what it leaves behind: its status, and what it has written to its two
streams. Every program shows its log on its output.
-/

namespace FrameLink.Cli

structure Call where
  words : List String
  environment : DotEnv.Environment := []
  /-- the file of variables beside the program -/
  dotEnv : Option String := none
  /-- the user interrupts the program when a line of its output has this text -/
  interruptAfter : Option String := none

structure Outcome where
  status : Nat
  output : Bytes := []
  error : String := ""
  /-- where it served when the user saw it -/
  serves : Option (Inet.Endpoint × String) := none

def Call.environs (call : Call) : DotEnv.Environment :=
  match call.dotEnv with
  | some content => DotEnv.load content call.environment
  | none => call.environment

def Call.lookup (call : Call) : Settings.Lookup := Settings.Lookup.ofList call.environs

structure Terminal where
  filter : Log.Filter
  /-- what it has said on its error stream -/
  remarks : String := ""
  output : Bytes := []

namespace Terminal

def ofCall (component : Component) (level : String) (call : Call) : Terminal :=
  let (filter, remarks) :=
    Log.Filter.choose (call.lookup "RUST_LOG") (Log.filter component (some level))
  { filter, remarks := String.join (remarks.map (· ++ "\n")) }

def write (bytes : Bytes) (terminal : Terminal) : Terminal :=
  { terminal with output := terminal.output ++ bytes }

def shown (origin : String) (events : List Log.Event) (terminal : Terminal) : String :=
  String.join ((events.filter fun event => terminal.filter.shows origin event.level).map (·.line 0))

def tell (origin : String) (events : List Log.Event) (terminal : Terminal) : Terminal :=
  terminal.write (Bytes.ofText (terminal.shown origin events))

def finish (terminal : Terminal) : Outcome :=
  { status := 0, output := terminal.output, error := terminal.remarks }

def fail (message : String) (terminal : Terminal) : Outcome :=
  { status := 1, output := terminal.output, error := terminal.remarks ++ s!"Error: {message}\n" }

end Terminal

def withOptions {σ : Type} (grammar : Grammar σ) (call : Call) (run : σ → Outcome) : Outcome :=
  match grammar.read call.words with
  | .ok options => run options
  | .error .help => { status := 0, output := Bytes.ofText grammar.helpText }
  | .error (.fault fault) => { status := 2, error := grammar.complaint fault }

def shared : String := "shared"

def mentions (text : String) (output : String) : Bool :=
  (output.splitOn "\n").dropLast.any fun line => (line.splitOn text).length > 1

end FrameLink.Cli
