import FrameLink.Duration
import FrameLink.Frame
import FrameLink.ClientId
import FrameLink.Settings.Lookup
/-!
The ways a host's operations fail.
-/

namespace FrameLink.Host

inductive Error where
  | alreadyListening (endpoint : Inet.Endpoint)
  | listenFailed (address message : String)
  | listenerUnavailable
  | clientNotFound (client : ClientId)
  | requestTimeout (timeout : Duration)
  | registryUnavailable
  | handler (message : String)
  | runtimeUnavailable (message : String)
  | frame (error : FrameError)
  | setting (error : SettingError)
deriving DecidableEq

def Error.message : Error → String
  | .alreadyListening endpoint => s!"Server is already listening on {endpoint.text}"
  | .listenFailed address text => s!"Listening on {address} failed: {text}"
  | .listenerUnavailable => "Server cannot listen again after a failed or stopped listener"
  | .clientNotFound client => s!"Client not connected: {client.text}"
  | .requestTimeout timeout => s!"No request arrived within {timeout.text}"
  | .registryUnavailable => "Client registry is no longer running"
  | .handler text => "Request handler error: " ++ text
  | .runtimeUnavailable text => "No async runtime available: " ++ text
  | .frame error => "Shared component error: " ++ error.message
  | .setting error => "Shared component error: " ++ error.message

end FrameLink.Host
