import FrameLink.Bytes
import FrameLink.Link.Error
/-!
What a connection needs of the socket that carries its messages. Each start is given a channel, and
what happens on that socket is reported on the channel of its start.
-/

namespace FrameLink.Link

inductive Event where
  /-- the handshake is complete, also after an automatic reconnect -/
  | opened
  | message (data : Bytes)
  /-- the socket went away, with the reason of the peer if it gave one -/
  | closed (reason : Option String)
deriving DecidableEq

structure Report where
  channel : Nat
  event : Event
deriving DecidableEq

/-- The operations of a socket, with the reports that each makes at once. -/
class Transport (σ : Type) where
  /-- begins a handshake, in place of any earlier session -/
  start (url : String) (channel : Nat) (now : Instant) : σ → Except Error Unit × σ × List Report
  send (payload : Bytes) : σ → Except Error Unit × σ
  readiness (now : Instant) : σ → Readiness × σ × List Report
  /-- closes the socket for good -/
  stop : σ → σ × List Report

end FrameLink.Link
