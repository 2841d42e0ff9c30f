import FrameLink.Link.Connection
/-!
What the pump does with the events of a session. A response whose number a request waits for goes to
that request, one whose request gave up is dropped, and all others go to the inbox.
-/

namespace FrameLink.Link.Connection

variable {σ α : Type}

def queue (id : Correlation) (size : Nat) (body : α) (connection : Connection σ α) : Connection σ α :=
  { connection with exchange := connection.exchange.push body }.chat
    s!"📥 Response {id.text} queued ({size} bytes)"

def deliver [Wire α] (data : Bytes) (connection : Connection σ α) : Connection σ α :=
  match (Frame.decode data connection.limit : Except FrameError (Frame α)) with
  | .error fault =>
    connection.say .warn s!"Dropping undecodable message ({data.length} bytes): {fault.message}"
  | .ok ⟨id, body⟩ =>
    if id.isSome then
      match connection.exchange.resolve id body with
      | (.resolved, exchange) =>
        { connection with exchange }.chat s!"📥 Response {id.text} handed to its request"
      | (.expired, exchange) =>
        { connection with exchange }.say .debug s!"Late response {id.text} dropped"
      | (.unclaimed body, exchange) => { connection with exchange }.queue id data.length body
    else connection.queue id data.length body

/-- A closed socket fails every request that waits. -/
def closed (reason : Option String) (connection : Connection σ α) : Connection σ α :=
  match connection.exchange.abandon with
  | (abandoned, exchange) =>
    let reason := reason.getD "none"
    { connection with exchange := exchange.fireClosed }.say .info
      s!"🔌 Connection closed (reason: {reason}, abandoned requests: {abandoned})"

def take [Wire α] (connection : Connection σ α) : Event → Connection σ α
  | .opened => connection.say .debug "Transport open"
  | .message data => connection.deliver data
  | .closed reason => connection.closed reason

def drain [Wire α] (connection : Connection σ α) : Connection σ α :=
  match connection.pump with
  | none => connection
  | some pump =>
    pump.events.foldl take { connection with pump := some { pump with events := [] } }

end FrameLink.Link.Connection
