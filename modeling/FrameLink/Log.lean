/-!
Log events and the texts that programs share. Every event names its level and the component that
emitted it.
-/

namespace FrameLink

inductive Component where
  | client
  | host
  | supervisor
deriving DecidableEq, Repr, Inhabited

def Component.text : Component → String
  | .client => "client"
  | .host => "host"
  | .supervisor => "supervisor"

namespace Log

inductive Level where
  | trace
  | debug
  | info
  | warn
  | error
deriving DecidableEq, Repr

def Level.text : Level → String
  | .trace => "trace"
  | .debug => "debug"
  | .info => "info"
  | .warn => "warn"
  | .error => "error"

structure Event where
  level : Level
  component : Component
  message : String
  error : Option String := none
deriving DecidableEq

def startup (component : Component) (details : String) : Event :=
  ⟨.info, component, "🚀 Starting " ++ details, none⟩

def shutdown (component : Component) (reason : String) : Event :=
  ⟨.info, component, "🛑 Shutting down: " ++ reason, none⟩

def failure (component : Component) (context error : String) : Event :=
  ⟨.error, component, s!"❌ {context} failed: {error}", some error⟩

/-- Which levels of which parts of a program built around `component` are shown. -/
def filter (component : Component) (level : Option String) : String :=
  let level := level.getD "info"
  match component with
  | .client => s!"client={level},shared={level},tungstenite=warn,tokio_tungstenite=warn"
  | .host => s!"host={level},shared={level},tungstenite=warn,tokio_tungstenite=warn"
  | .supervisor => s!"supervisor={level},client={level},host={level},shared={level}"

def padded (width n : Nat) : String :=
  let digits := toString n
  "".pushn '0' (width - digits.length) ++ digits

def stamp (millis : Nat) : String :=
  s!"{padded 2 (millis / 3600000 % 24)}:{padded 2 (millis / 60000 % 60)}:{padded 2 (millis / 1000 % 60)}" ++
    s!".{padded 3 (millis % 1000)}"

def Event.line (millis : Nat) (event : Event) : String :=
  let error := (event.error.map fun error => s!" error={error}").getD ""
  s!"{stamp millis} {event.level.text.toUpper} {event.message} " ++
    s!"component={event.component.text}{error}\n"

end Log

end FrameLink
