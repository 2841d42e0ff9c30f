import FrameLink.Link.Connection.Inbound
/-!
Sending, and the calls that wait for a response: how each begins, looks, gives up and runs out of
time.
-/

namespace FrameLink.Link.Connection

open Wait

variable {σ α β : Type}

abbrev Outcome (α : Type) := Except Error α

/-- What runs out of time does to the connection. -/
def handleTimeout [Transport σ] (timeout : Duration) (connection : Connection σ α) :
    Connection σ α :=
  let treated := match connection.settings.timeoutPolicy with
    | .disconnect =>
      let stopped := (connection.say .warn
        s!"⏱️ No response within {timeout.text}; dropping the connection").stop
      match stopped.exchange.clear with
      | (0, exchange) => { stopped with exchange }
      | (discarded, exchange) =>
        { stopped with exchange }.say .debug s!"Discarded {discarded} unread responses"
    | .failCall => connection.say .warn s!"⏱️ No response within {timeout.text}"
  { treated with exchange := treated.exchange.fireTimeout }

/-- Sends a request that expects no answer of its own. Nothing is sent unless the socket is open. -/
def send [Transport σ] [Wire β] (body : β) (connection : Connection σ α) :
    Except Error (Option Correlation) × Connection σ α :=
  match connection.state with
  | (.socket .ready, connection) =>
    let (id, counter) := connection.counter.draw
    let connection := { connection with counter }
    match (Frame.mk id body).encode connection.limit with
    | .error fault => (.error (.frame fault), connection)
    | .ok payload =>
      match Transport.send payload connection.transport with
      | (.error fault, transport) => (.error fault, { connection with transport })
      | (.ok (), transport) =>
        (.ok (some id), { connection with transport }.chat
          s!"📤 Sent request {id.text} ({payload.length} bytes)")
  | (state, connection) =>
    (.ok none, connection.say .warn s!"Send skipped: connection is {state.text}")

def wait (purpose : Purpose) (timeout : Duration) (connection : Connection σ α) : Connection σ α :=
  { connection with
    calls := connection.calls ++
      [⟨connection.tickets, purpose, timeout, connection.now + timeout.nanos⟩]
    tickets := connection.tickets + 1 }

def beginReceive (timeout : Duration) (connection : Connection σ α) :
    Option (Outcome α) × Connection σ α :=
  match connection.exchange.inbox.attend connection.tickets with
  | (found, inbox) =>
    let connection := { connection with exchange := { connection.exchange with inbox } }
    match found with
    | some body => (some (.ok body), { connection with tickets := connection.tickets + 1 })
    | none => (none, connection.wait .receive timeout)

/-- Begins a request: it fails at once, or is sent and waits. -/
def beginRequest [Transport σ] [Wire β] (body : β) (timeout : Duration)
    (connection : Connection σ α) : Option (Outcome α) × Connection σ α :=
  match connection.state with
  | (.socket .ready, connection) =>
    let (id, counter) := connection.counter.draw
    let connection := { connection with counter }
    match (Frame.mk id body).encode connection.limit with
    | .error fault => (some (.error (.frame fault)), connection)
    | .ok payload =>
      let ticket := connection.tickets
      let registered := connection.exchange.register id ticket
      match Transport.send payload connection.transport with
      | (.error fault, transport) =>
        (some (.error fault), { connection with
          transport
          exchange := (registered.forget id).release ticket
          tickets := ticket + 1 })
      | (.ok (), transport) =>
        (none, ({ connection with transport, exchange := registered }.chat
          s!"📤 Sent correlated request {id.text}").wait (.request id) timeout)
  | (state, connection) => (some (.error (.notConnected state)), connection)

/-- A call looks for what it waits for. One that is parked sees nothing. -/
def attend (call : Call) (connection : Connection σ α) : Option (Outcome α) × Connection σ α :=
  let exchange := connection.exchange
  match call.purpose with
  | .receive =>
    if call.ticket ∈ exchange.inbox.bell.woken then
      match exchange.inbox.wake call.ticket with
      | (found, inbox) =>
        (found.map .ok, { connection with exchange := { exchange with inbox } })
    else (none, connection)
  | .request _ =>
    match exchange.receipt? call.ticket with
    | some .pending => (none, connection)
    | some (.answered body) =>
      (some (.ok body), { connection with exchange := exchange.release call.ticket })
    | some .closed | none =>
      (some (.error .connectionClosed), { connection with exchange := exchange.release call.ticket })

def quit (call : Call) (connection : Connection σ α) : Connection σ α :=
  let exchange := connection.exchange
  { connection with
    exchange := match call.purpose with
      | .receive => { exchange with inbox := exchange.inbox.leave call.ticket }
      | .request _ => exchange.release call.ticket }

def remove (ticket : Ticket) (connection : Connection σ α) : Connection σ α :=
  { connection with calls := connection.calls.filter fun call => call.ticket != ticket }

def call? (ticket : Ticket) (connection : Connection σ α) : Option Call :=
  connection.calls.find? fun call => call.ticket == ticket

def cancel (ticket : Ticket) (connection : Connection σ α) : Bool × Connection σ α :=
  match connection.call? ticket with
  | none => (false, connection)
  | some call => (true, (connection.quit call).remove ticket)

/-- The number of a request that ran out of time stays reserved. -/
def retire (call : Call) (connection : Connection σ α) : Connection σ α :=
  match call.purpose with
  | .receive => connection
  | .request id => { connection with exchange := connection.exchange.expire id }

/-- A call at its deadline looks once more, and then fails. -/
def lapse [Transport σ] (call : Call) (connection : Connection σ α) :
    Outcome α × Connection σ α :=
  match connection.attend call with
  | (some outcome, connection) => (outcome, connection.remove call.ticket)
  | (none, connection) =>
    (.error (.receiveTimeout call.timeout),
      (((connection.quit call).retire call).handleTimeout call.timeout).remove call.ticket)

end FrameLink.Link.Connection
