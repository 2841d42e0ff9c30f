import FrameLink.Settings.Lookup
import FrameLink.Duration
/-!
How a host listens, and what becomes of a client that falls silent or leaves.
-/

namespace FrameLink

structure ServeSettings where
  bindAddress : Inet.Address := .loopback
  port : UInt16 := 8167
  path : String := Settings.defaultPath
  /-- sockets that stay silent this long are closed -/
  idleTimeout : Option Duration := none
  maxFrameBytes : UInt64 := Settings.defaultMaxFrameBytes
  /-- drops what a departed client left queued -/
  purgeOnDisconnect : Bool := true
deriving DecidableEq, Inhabited

namespace ServeSettings

open Settings

/-- The settings are read in this order, and the first bad one is reported. An idle timeout of zero
milliseconds means none. -/
def ofLookup (lookup : Lookup) : Except SettingError ServeSettings := do
  let s ← override Inet.Address.ofText? lookup "ENGINE_LINK_BIND_ADDRESS"
    (fun address s => { s with bindAddress := address }) ({} : ServeSettings)
  let s ← override readPort lookup "ENGINE_LINK_PORT" (fun port s => { s with port := port }) s
  let s := match lookup "ENGINE_LINK_PATH" with
    | some path => { s with path := path }
    | none => s
  let s ← override readMillis lookup "ENGINE_LINK_IDLE_TIMEOUT_MS"
    (fun ms s => { s with idleTimeout := if ms = 0 then none else some (.ofMillis ms) }) s
  let s ← override readSize lookup "ENGINE_LINK_MAX_FRAME_BYTES"
    (fun size s => { s with maxFrameBytes := size }) s
  override readSwitch lookup "ENGINE_LINK_PURGE_ON_DISCONNECT"
    (fun on s => { s with purgeOnDisconnect := on }) s

end ServeSettings

end FrameLink
