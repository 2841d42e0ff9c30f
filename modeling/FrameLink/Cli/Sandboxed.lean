import FrameLink.Cli.Launcher
import FrameLink.Cli.Outcome
import FrameLink.Cli.Probe
import FrameLink.Host.Echo
import FrameLink.Sandbox.Isolated
import FrameLink.Sandbox.Machine
import FrameLink.Wire.Compound
/-!
The program that serves an endpoint until the user interrupts it, and answers every request with its
own payload; and all programs by name, each in a sandbox of its own: on a host that reaches nobody, with
children that run on a clock of their own.
-/

namespace FrameLink.Cli.Host

open FrameLink.Host

structure Options where
  port : Option UInt16 := none
  bind : Option Inet.Address := none
  idleTimeout : Option UInt64 := none
  logLevel : String := "info"

def grammar : Grammar Options where
  program := "engine-host"
  about := "Serve an engine endpoint that echoes every request"
  start := {}
  switches := [
    { name := "port", help := "Port to listen on (overrides ENGINE_LINK_PORT)"
      action := .value "PORT" false (port fun port options => { options with port := some port }) },
    { name := "bind", help := "Address to bind (overrides ENGINE_LINK_BIND_ADDRESS)"
      action := .value "BIND" false (address fun bind options =>
        { options with bind := some bind }) },
    { name := "idle-timeout-secs", help := "Close sockets that stay silent this many seconds"
      action := .value "IDLE_TIMEOUT_SECS" false (count fun idle options =>
        { options with idleTimeout := some idle }) },
    { name := "log-level", help := "Log level (trace, debug, info, warn, error)"
      default := some "info"
      action := .value "LOG_LEVEL" false (text fun logLevel options =>
        { options with logLevel }) }]

/-- The settings of the environment, where the options do not say otherwise. -/
def settings (options : Options) (lookup : Settings.Lookup) : Except SettingError ServeSettings := do
  let settings ← ServeSettings.ofLookup lookup
  return { settings with
    port := options.port.getD settings.port
    bindAddress := options.bind.getD settings.bindAddress
    idleTimeout := match options.idleTimeout with
      | some secs => some (.ofSecs secs)
      | none => settings.idleTimeout }

def origin : String := "engine_host"

def run (bind : Inet.Endpoint → Except String Inet.Endpoint) (call : Call) : Outcome :=
  withOptions grammar call fun options =>
    let terminal := (Terminal.ofCall .host options.logLevel call).tell shared
      [Log.startup .host "echo engine host"]
    match settings options call.lookup with
    | .error fault => terminal.fail fault.message
    | .ok settings =>
      match ({} : Server Bytes Bytes).listen bind settings with
      | (.error fault, server) =>
        ((terminal.tell "host" server.board.log).tell shared
          [Log.failure .host "Listen" fault.message]).fail fault.message
      | (.ok endpoint, server) =>
        let line := terminal.shown "host" server.board.log
        let serves := if mentions (call.interruptAfter.getD "") line then
            some (endpoint, settings.path) else none
        let host := ({ hosting := { server, settings } } : Echo Bytes).run [.goesOn]
        let served := terminal.tell "host" host.hosting.server.board.log
        let ended := match host.turn with
          | .stopped fault => served.tell shared [Log.failure .host "Serving" fault.message]
          | _ => served.tell origin [⟨.info, .host, "Received Ctrl+C", none⟩]
        match { host.hosting.server with board.log := [] }.shutdown with
        | (.error fault, server) => (ended.tell "host" server.board.log).fail fault.message
        | (.ok (), server) =>
          { ((ended.tell "host" server.board.log).tell shared
              [Log.shutdown .host "signal received"]).finish with serves }

end FrameLink.Cli.Host

namespace FrameLink.Cli

open Sandbox

def view : Launcher.View Machine where
  inherited isError machine := (machine.store.read? (.parent isError)).getD []
  piped := Machine.piped

def run? (program : String) (call : Call) : Option Outcome :=
  match program with
  | "engine-probe" => some (Probe.run (fun settings : ConnectSettings =>
      ({ sockets := .ofSettings settings } : Isolated)) call)
  | "engine-host" => some (Host.run bind call)
  | "engine-launcher" => some (Launcher.run ({} : Machine) view call)
  | _ => none

end FrameLink.Cli
