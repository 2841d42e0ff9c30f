import FrameLink.Settings.Lookup
import FrameLink.Duration
/-!
How a client connects: where, how often it looks for the handshake, and what a timeout does.
-/

namespace FrameLink

inductive TimeoutPolicy where
  /-- close the socket and discard the unread responses -/
  | disconnect
  /-- fail the one call -/
  | failCall
deriving DecidableEq, Repr, Inhabited

/-- In any case of letters. Beyond ASCII only the Kelvin sign and the dotted I have lower forms
with ASCII letters, and neither makes one of these words. -/
def TimeoutPolicy.ofText? (text : String) : Option TimeoutPolicy :=
  match Text.lowerAscii text with
  | "disconnect" => some .disconnect
  | "fail-call" | "fail_call" | "failcall" => some .failCall
  | _ => none

def TimeoutPolicy.read (text : String) : Except SettingError TimeoutPolicy :=
  match TimeoutPolicy.ofText? text with
  | some policy => .ok policy
  | none => .error ⟨"timeout_policy", text⟩

structure ConnectSettings where
  path : String := Settings.defaultPath
  pollInterval : Duration := .ofMillis 1000
  maxAttempts : UInt32 := 30
  autoReconnect : Bool := true
  reconnectBackoff : Duration := .ofMillis 1000
  maxFrameBytes : UInt64 := Settings.defaultMaxFrameBytes
  timeoutPolicy : TimeoutPolicy := .disconnect
deriving DecidableEq, Inhabited

namespace ConnectSettings

open Settings

/-- The whole time a connect waits for the handshake; absent when no duration is that long. -/
def handshakeBudget? (settings : ConnectSettings) : Option Duration :=
  settings.pollInterval.times? settings.maxAttempts.toNat

/-- The settings are read in this order, and the first bad one is reported. -/
def ofLookup (lookup : Lookup) : Except SettingError ConnectSettings := do
  let start : ConnectSettings := match lookup "ENGINE_LINK_PATH" with
    | some path => { path }
    | none => {}
  let s ← override readMillis lookup "ENGINE_LINK_POLL_INTERVAL_MS"
    (fun ms s => { s with pollInterval := .ofMillis ms }) start
  let s ← override readCount lookup "ENGINE_LINK_MAX_ATTEMPTS"
    (fun count s => { s with maxAttempts := count }) s
  let s ← override readSwitch lookup "ENGINE_LINK_AUTO_RECONNECT"
    (fun on s => { s with autoReconnect := on }) s
  let s ← override readSize lookup "ENGINE_LINK_MAX_FRAME_BYTES"
    (fun size s => { s with maxFrameBytes := size }) s
  override TimeoutPolicy.ofText? lookup "ENGINE_LINK_TIMEOUT_POLICY"
    (fun policy s => { s with timeoutPolicy := policy }) s

end ConnectSettings

end FrameLink
