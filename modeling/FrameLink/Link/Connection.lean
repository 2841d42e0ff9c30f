import FrameLink.Link.Exchange
import FrameLink.Link.Transport
import FrameLink.Log
import FrameLink.Settings.Connect
import FrameLink.Url
/-!
A client's connection over a transport. Calls that wait are part of its state: each has a ticket and
a deadline, so that its wake-ups, its end and its cancellation are steps of the connection.
-/

namespace FrameLink.Link

open Wait

inductive Purpose where
  /-- the oldest response in the inbox -/
  | receive
  /-- the response with this number -/
  | request (id : Correlation)
deriving DecidableEq

structure Call where
  ticket : Ticket
  purpose : Purpose
  timeout : Duration
  deadline : Instant
deriving DecidableEq

/-- The task that takes a session's events, and those that it has not taken yet. -/
structure Pump where
  channel : Nat
  events : List Event := []
deriving DecidableEq

structure Connection (σ α : Type) where
  settings : ConnectSettings
  transport : σ
  exchange : Exchange α := {}
  counter : Correlation.Counter := {}
  started : Bool := false
  pump : Option Pump := none
  /-- in the order in which they began -/
  calls : List Call := []
  tickets : Ticket := 0
  channels : Nat := 0
  now : Instant := 0
  log : List Log.Event := []

namespace Connection

variable {σ α : Type}

def say (level : Log.Level) (message : String) (connection : Connection σ α) : Connection σ α :=
  { connection with log := connection.log ++ [⟨level, .client, message, none⟩] }

/-- Says what concerns one message, in the foreground only when asked to. -/
def chat (message : String) (connection : Connection σ α) : Connection σ α :=
  connection.say (if connection.exchange.verbose then .info else .trace) message

def limit (connection : Connection σ α) : Nat := connection.settings.maxFrameBytes.toNat

def hear (reports : List Report) (connection : Connection σ α) : Connection σ α :=
  match connection.pump with
  | none => connection
  | some pump =>
    let events := reports.filterMap fun report =>
      if report.channel = pump.channel then some report.event else none
    { connection with pump := some { pump with events := pump.events ++ events } }

variable [Transport σ]

def readiness (connection : Connection σ α) : Readiness × Connection σ α :=
  match Transport.readiness connection.now connection.transport with
  | (readiness, transport, reports) => (readiness, { connection with transport }.hear reports)

def state (connection : Connection σ α) : State × Connection σ α :=
  if connection.started then
    match connection.readiness with
    | (readiness, connection) => (.socket readiness, connection)
  else (.idle, connection)

def stop (connection : Connection σ α) : Connection σ α :=
  match Transport.stop connection.transport with
  | (transport, reports) => { connection with transport }.hear reports

/-- Stops the transport unless it is closing or closed. -/
def disconnect (connection : Connection σ α) : Connection σ α :=
  match connection.state with
  | (.idle, connection) | (.socket .closing, connection) | (.socket .closed, connection) => connection
  | (state, connection) => (connection.say .debug s!"Disconnecting ({state.text})").stop

def drop (connection : Connection σ α) : Connection σ α :=
  { connection.disconnect with pump := none }

end Connection

end FrameLink.Link
