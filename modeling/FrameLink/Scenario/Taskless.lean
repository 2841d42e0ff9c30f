import FrameLink.Host.Error
import FrameLink.Link.SocketTransport
/-!
What becomes of the parts that need tasks, on a host that runs none.
-/

namespace FrameLink.Scenario.Taskless

open Link

def reason : String :=
  "there is no reactor running, must be called from the context of a Tokio 1.x runtime"

/-- No task would serve the board of clients. -/
def openBoard : Except Host.Error Unit := .error (.runtimeUnavailable reason)

/-- No task would run the session, so that none begins. -/
def start (_url : String) (transport : SocketTransport) : Except Error Unit × SocketTransport :=
  (.error (.transport s!"No async runtime available: {reason}"), transport)

structure Account where
  board : Except Host.Error Unit
  before : Readiness
  started : Except Error Unit
  sent : Except Error Unit
  after : Readiness

def run (url : String) (payload : Bytes) : Account :=
  let transport : SocketTransport := {}
  let (started, idle) := start url transport
  let (sent, last) := idle.send payload
  { board := openBoard, before := transport.readiness, started, sent, after := last.readiness }

end FrameLink.Scenario.Taskless
