import FrameLink.Settings.Lookup
import FrameLink.Duration
/-!
How long a child process may take to exit on request before it is killed, and how often it is
looked at.
-/

namespace FrameLink

structure TerminateSettings where
  gracePeriod : Duration := .ofSecs 5
  pollInterval : Duration := .ofMillis 100
deriving DecidableEq, Inhabited

namespace TerminateSettings

open Settings

/-- The poll interval is raised to a millisecond at least. -/
def ofLookup (lookup : Lookup) : Except SettingError TerminateSettings := do
  let s ← override readMillis lookup "ENGINE_LINK_GRACE_PERIOD_MS"
    (fun ms s => { s with gracePeriod := .ofMillis ms }) ({} : TerminateSettings)
  override readMillis lookup "ENGINE_LINK_TERMINATE_POLL_MS"
    (fun ms s => { s with pollInterval := .ofMillis (max ms 1) }) s

end TerminateSettings

end FrameLink
