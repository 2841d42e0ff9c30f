import FrameLink.Text.Ranges
/-!
What becomes of a child's output, and the ways a child cannot be started or stopped.
-/

namespace FrameLink.Child

inductive Error where
  | spawnFailed (path message : String)
  | terminateFailed (pid : Nat) (message : String)
  | invalidOutputMode (value : String)
deriving DecidableEq, Repr

def Error.message : Error → String
  | .spawnFailed path text => s!"Failed to spawn {path}: {text}"
  | .terminateFailed pid text => s!"Process {pid} could not be terminated: {text}"
  | .invalidOutputMode value => s!"Invalid output mode: {value}"

inductive OutputMode where
  /-- the child writes where its parent does -/
  | inherit
  | discard
  /-- each line becomes a log event -/
  | log
deriving DecidableEq, Repr, Inhabited

def OutputMode.text : OutputMode → String
  | .inherit => "inherit"
  | .discard => "discard"
  | .log => "log"

def OutputMode.ofText (text : String) : Except Error OutputMode :=
  match Text.lowerAscii (Text.trim text) with
  | "inherit" => .ok .inherit
  | "discard" | "null" => .ok .discard
  | "log" => .ok .log
  | _ => .error (.invalidOutputMode text)

end FrameLink.Child
