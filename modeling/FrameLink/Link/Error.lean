import FrameLink.Duration
import FrameLink.Frame
import FrameLink.Settings.Lookup
/-!
The states of a client's connection and the ways its calls fail.
-/

namespace FrameLink.Link

inductive Readiness where
  | connecting
  | ready
  | closing
  | closed
deriving DecidableEq, Repr, Inhabited

def Readiness.name : Readiness → String
  | .connecting => "Connecting"
  | .ready => "Open"
  | .closing => "Closing"
  | .closed => "Closed"

/-- A connection is idle until it is first started. -/
inductive State where
  | idle
  | socket (readiness : Readiness)
deriving DecidableEq, Repr, Inhabited

def State.text : State → String
  | .idle => "idle"
  | .socket .connecting => "connecting"
  | .socket .ready => "open"
  | .socket .closing => "closing"
  | .socket .closed => "closed"

inductive Error where
  | handshakeTimeout (url : String) (attempts : Nat) (state : State)
  | notConnected (state : State)
  | receiveTimeout (timeout : Duration)
  | connectionClosed
  | invalidEndpoint (message : String)
  | transport (message : String)
  | frame (error : FrameError)
  | setting (error : SettingError)
deriving DecidableEq

def Error.message : Error → String
  | .handshakeTimeout url attempts state =>
    s!"Handshake with {url} not complete after {attempts} attempts (state: {state.text})"
  | .notConnected state => s!"Connection is not open (state: {state.text})"
  | .receiveTimeout timeout => s!"No response within {timeout.text}"
  | .connectionClosed => "Connection closed before the response arrived"
  | .invalidEndpoint text => "Invalid endpoint: " ++ text
  | .transport text => "Transport error: " ++ text
  | .frame error => "Shared component error: " ++ error.message
  | .setting error => "Shared component error: " ++ error.message

def Error.isRetryable : Error → Bool
  | .handshakeTimeout .. | .receiveTimeout _ | .connectionClosed | .notConnected _ => true
  | _ => false

end FrameLink.Link
