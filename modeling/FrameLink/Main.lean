import FrameLink.Cli.Sandboxed
/-!
The command line: the name of a program, and its arguments.
-/

namespace FrameLink.Cli

def variableNames : List String :=
  ["RUST_LOG", "ENGINE_LINK_PATH", "ENGINE_LINK_POLL_INTERVAL_MS", "ENGINE_LINK_MAX_ATTEMPTS",
    "ENGINE_LINK_AUTO_RECONNECT", "ENGINE_LINK_MAX_FRAME_BYTES", "ENGINE_LINK_TIMEOUT_POLICY",
    "ENGINE_LINK_BIND_ADDRESS", "ENGINE_LINK_PORT", "ENGINE_LINK_IDLE_TIMEOUT_MS",
    "ENGINE_LINK_PURGE_ON_DISCONNECT", "ENGINE_LINK_GRACE_PERIOD_MS",
    "ENGINE_LINK_TERMINATE_POLL_MS"]

def environment : IO DotEnv.Environment :=
  variableNames.filterMapM fun name => return (← IO.getEnv name).map (name, ·)

end FrameLink.Cli

open FrameLink

def main (arguments : List String) : IO UInt32 := do
  let dotEnv ← try some <$> IO.FS.readFile ".env" catch _ => pure none
  let environment ← Cli.environment
  match arguments with
  | [] => return 2
  | program :: words =>
    match Cli.run? program { words, environment, dotEnv } with
    | none =>
      (← IO.getStderr).putStrLn s!"error: no program {program}"
      return 2
    | some outcome =>
      (← IO.getStdout).write ⟨outcome.output.toArray⟩
      (← IO.getStderr).putStr outcome.error
      return UInt32.ofNat outcome.status
