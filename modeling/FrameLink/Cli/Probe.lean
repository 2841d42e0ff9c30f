import FrameLink.Cli.Outcome
import FrameLink.Link.Connection.Handshake
import FrameLink.Wire.Compound
/-!
The program that sends payloads to an endpoint and tells what came back.
-/

namespace FrameLink.Cli.Probe

open Link

structure Options where
  address : String := "127.0.0.1"
  port : UInt16 := 8167
  payloads : List String := []
  timeout : UInt64 := 5000
  correlated : Bool := false
  verbose : Bool := false
  logLevel : String := "info"

def grammar : Grammar Options where
  program := "engine-probe"
  about := "Send payloads to an engine endpoint and report the responses"
  start := {}
  switches := [
    { name := "address", help := "Engine address", default := some "127.0.0.1"
      action := .value "ADDRESS" false (text fun address options => { options with address }) },
    { name := "port", help := "Engine port", default := some "8167"
      action := .value "PORT" false (port fun port options => { options with port }) },
    { name := "payload", help := "Payload to send (repeatable)", default := some "ping"
      action := .value "PAYLOADS" true (text fun payload options =>
        { options with payloads := options.payloads ++ [payload] }) },
    { name := "timeout-ms", help := "Per-response timeout in milliseconds", default := some "5000"
      action := .value "TIMEOUT_MS" false (count fun timeout options => { options with timeout }) },
    { name := "correlated", help := "Pair responses by correlation id instead of arrival order"
      action := .flag ({ · with correlated := true }) },
    { name := "verbose", help := "Log every message at info level"
      action := .flag ({ · with verbose := true }) },
    { name := "log-level", help := "Log level (trace, debug, info, warn, error)"
      default := some "info"
      action := .value "LOG_LEVEL" false (text fun logLevel options =>
        { options with logLevel }) }]

structure Trial where
  sent : String
  outcome : Except Error Bytes
  elapsed : Nat

/-! The summary is written as one object, indented by two spaces. -/

def escaped (c : Char) : String :=
  match c with
  | '"' => "\\\""
  | '\\' => "\\\\"
  | '\n' => "\\n"
  | '\r' => "\\r"
  | '\t' => "\\t"
  | c =>
    if c.toNat = 8 then "\\b"
    else if c.toNat = 12 then "\\f"
    else if c.toNat < 32 then
      "\\u00" ++ String.ofList [Bytes.hexDigit (c.toNat / 16), Bytes.hexDigit (c.toNat % 16)]
    else String.singleton c

def literal (text : String) : String :=
  "\"" ++ text.foldl (fun done c => done ++ escaped c) "" ++ "\""

def Trial.text (trial : Trial) : String :=
  let (received, error) := match trial.outcome with
    | .ok body => (literal (Utf8.lossy body), "null")
    | .error fault => ("null", literal fault.message)
  let line (name value : String) : String := s!"      \"{name}\": {value}"
  "    \x7b\n" ++ ",\n".intercalate [line "sent" (literal trial.sent), line "received" received,
    line "elapsed_ms" (toString trial.elapsed), line "error" error] ++ "\n    \x7d"

def summary (url : String) (trials : List Trial) : String :=
  let body := match trials with
    | [] => "[]"
    | trials => "[\n" ++ ",\n".intercalate (trials.map Trial.text) ++ "\n  ]"
  s!"\x7b\n  \"endpoint\": {literal url},\n  \"exchanges\": {body}\n\x7d\n"

variable {σ : Type} [Transport σ]

/-- The name under which the program itself speaks. -/
def origin : String := "engine_probe"

def say (level : Log.Level) (message : String) : Log.Event := ⟨level, .client, message, none⟩

def report (terminal : Terminal) (connection : Connection σ Bytes) : Terminal × Connection σ Bytes :=
  let closes := List.replicate connection.exchange.callbacks.closes
    (say .warn "Engine closed the connection")
  ((terminal.tell "client" connection.log).tell origin closes,
    { connection with log := [], exchange.callbacks.closes := 0 })

def exchange (options : Options) (payload : String) (terminal : Terminal)
    (connection : Connection σ Bytes) : Except Error Bytes × Terminal × Connection σ Bytes :=
  let timeout := Duration.ofMillis options.timeout
  let body := Bytes.ofText payload
  let ticket := connection.tickets
  let wait (terminal : Terminal) (begun : Option (Except Error Bytes) × Connection σ Bytes) :=
    match Connection.await ticket begun with
    | (outcome, _, connection) =>
      (outcome.getD (.error .connectionClosed), report terminal connection)
  if options.correlated then wait terminal (connection.beginRequest body timeout)
  else
    match connection.send body with
    | (.error fault, connection) => (.error fault, report terminal connection)
    | (.ok none, connection) =>
      match connection.state with
      | (state, connection) => (.error (.notConnected state), report terminal connection)
    | (.ok (some id), connection) =>
      let (terminal, connection) := report terminal connection
      wait (terminal.tell origin [say .info s!"Sent payload as {id.text}"])
        (connection.beginReceive timeout)

def exchangeAll (options : Options) : List String → Terminal → Connection σ Bytes →
    List Trial × Terminal × Connection σ Bytes
  | [], terminal, connection => ([], terminal, connection)
  | payload :: rest, terminal, connection =>
    match exchange options payload terminal connection with
    | (outcome, terminal, after) =>
      match exchangeAll options rest terminal after with
      | (trials, terminal, last) =>
        (⟨payload, outcome, (after.now - connection.now) / 1000000⟩ :: trials, terminal, last)

def run (transport : ConnectSettings → σ) (call : Call) : Outcome :=
  withOptions grammar call fun options =>
    let terminal := (Terminal.ofCall .client options.logLevel call).tell shared
      [Log.startup .client "engine probe"]
    match ConnectSettings.ofLookup call.lookup with
    | .error fault => terminal.fail fault.message
    | .ok settings =>
      let settings := { settings with timeoutPolicy := .failCall }
      match Url.ofEndpoint options.address options.port settings.path with
      | .error message => terminal.fail (Error.invalidEndpoint message).message
      | .ok url =>
        let connection : Connection σ Bytes := { settings, transport := transport settings }
        let connection := { connection with exchange.callbacks.onClosed := some 1 }
        let (outcome, connected) := connection.connect options.address options.port options.verbose
        let (terminal, connected) := report terminal connected
        match outcome with
        | .error fault =>
          (terminal.tell shared [Log.failure .client "Connect" fault.message]).fail fault.message
        | .ok () =>
          let payloads := if options.payloads.isEmpty then ["ping"] else options.payloads
          let (trials, terminal, connected) := exchangeAll options payloads terminal connected
          let (terminal, _) := report (terminal.write (Bytes.ofText (summary url.text trials)))
            connected.disconnect
          (terminal.tell shared [Log.shutdown .client "probe complete"]).finish

end FrameLink.Cli.Probe
