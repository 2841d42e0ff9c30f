import FrameLink.Link.Connection.Handshake
import FrameLink.Scenario.Rehearsed
import FrameLink.Scenario.Tags
/-!
Scenarios for one connection of texts over a rehearsed transport, on a clock that moves only when all
tasks wait.
-/

namespace FrameLink.Scenario.Connection

open Wait Link
open Link.Connection (Outcome Finished)

inductive Step where
  | connect (address : String) (port : UInt16) (verbose : Bool)
  | send (body : String)
  | receive (timeout : Duration)
  | receiveStart (tag : String) (timeout : Duration)
  | request (body : String) (timeout : Duration)
  | requestStart (tag body : String) (timeout : Duration)
  | cancel (tag : String)
  /-- the socket reports an event -/
  | report (event : Event)
  /-- the socket closes by itself -/
  | close (reason : Option String) (keep : Bool)
  | transport (settings : List Rehearsed.Setting)
  | onTimeout (weight : Nat)
  | onClosed (weight : Nat)
  | clearCallbacks
  | disconnect
  | sleep (span : Duration)
  | config
  | drop
  | idle

inductive Answer where
  | nothing
  | connected (outcome : Except Error Unit)
  | sent (outcome : Except Error (Option Correlation))
  | outcome (outcome : Outcome String)
  | started (replaced : Bool)
  | flag (yes : Bool)
  | settings (settings : ConnectSettings)
  | busy

structure Standing where
  state : State
  queued : Nat
  outstanding : Nat

structure Entry where
  answer : Answer
  done : List (String × Outcome String)
  /-- none once the connection is gone -/
  standing : Option Standing
  /-- what went out in this step -/
  sent : List Bytes
  urls : List String
  stops : Nat
  timeouts : Nat
  closes : Nat
  now : Instant
  log : List Log.Event

abbrev Subject := Link.Connection Rehearsed String

structure World where
  connection : Subject
  calls : Tags := {}
  gone : Bool := false

namespace World

def alter (change : Subject → Subject) (world : World) : World :=
  { world with connection := change world.connection }

def cancel (tag : String) (world : World) : Bool × World :=
  match world.calls.find? tag with
  | none => (false, world)
  | some ticket =>
    (true, { world with
      connection := (world.connection.cancel ticket).2, calls := world.calls.erase tag })

/-- The result of a call that is waited for, with the results of the others that end meanwhile. -/
def await (begin : Subject → Option (Outcome String) × Subject) (world : World) :
    Answer × List (Finished String) × World :=
  match Link.Connection.await world.connection.tickets (begin world.connection) with
  | (outcome, finished, connection) =>
    ((outcome.map .outcome).getD .nothing, finished, { world with connection })

/-- Starts a call under a name, in place of the call that has it. -/
def start (tag : String) (begin : Subject → Option (Outcome String) × Subject) (world : World) :
    Answer × List (Finished String) × World :=
  match world.cancel tag with
  | (replaced, world) =>
    let ticket := world.connection.tickets
    match begin world.connection with
    | (outcome, connection) =>
      (.started replaced, (outcome.map (ticket, ·)).toList, { world with
        connection := { connection with tickets := max connection.tickets (ticket + 1) }
        calls := world.calls.put tag ticket })

def report (made : Rehearsed × List Report) (world : World) : Answer × List (Finished String) × World :=
  let heard := match world.connection.transport.channel, world.connection.pump with
    | some channel, some pump => channel == pump.channel
    | _, _ => false
  (.flag heard, [], world.alter fun connection =>
    { connection with transport := made.1 }.hear made.2)

def withCallbacks (change : Callbacks → Callbacks) : World → World :=
  alter fun connection => { connection with
    exchange := { connection.exchange with callbacks := change connection.exchange.callbacks } }

def act (world : World) : Step → Answer × List (Finished String) × World
  | .connect address port verbose =>
    if world.connection.calls.isEmpty then
      match world.connection.connect address port verbose with
      | (outcome, connection) => (.connected outcome, [], { world with connection })
    else (.busy, [], world)
  | .send body =>
    match world.connection.send body with
    | (outcome, connection) => (.sent outcome, [], { world with connection })
  | .receive timeout => world.await (·.beginReceive timeout)
  | .receiveStart tag timeout => world.start tag (·.beginReceive timeout)
  | .request body timeout => world.await (·.beginRequest body timeout)
  | .requestStart tag body timeout => world.start tag (·.beginRequest body timeout)
  | .cancel tag =>
    match world.cancel tag with
    | (found, world) => (.flag found, [], world)
  | .report event =>
    world.report (world.connection.transport, world.connection.transport.report event)
  | .close reason keep => world.report (world.connection.transport.close reason keep)
  | .transport settings => (.nothing, [], world.alter fun connection =>
      { connection with transport := settings.foldl Rehearsed.set connection.transport })
  | .onTimeout weight => (.nothing, [], world.withCallbacks ({ · with onTimeout := some weight }))
  | .onClosed weight => (.nothing, [], world.withCallbacks ({ · with onClosed := some weight }))
  | .clearCallbacks =>
    (.nothing, [], world.withCallbacks ({ · with onTimeout := none, onClosed := none }))
  | .disconnect => (.nothing, [], world.alter (·.disconnect))
  | .sleep span =>
    match world.connection.sleep span with
    | (finished, connection) => (.nothing, finished, { world with connection })
  | .config => (.settings world.connection.settings, [], world)
  | .drop =>
    let quit := world.connection.calls.foldl (fun connection call =>
      (connection.cancel call.ticket).2) world.connection
    (.nothing, [], { world with connection := quit.drop, calls := {}, gone := true })
  | .idle => (.nothing, [], world)

def standing (world : World) : Option Standing × World :=
  if world.gone then (none, world)
  else match world.connection.state with
    | (state, connection) =>
      (some ⟨state, connection.exchange.queued, connection.exchange.outstanding⟩,
        { world with connection })

def step (world : World) (step : Step) : Entry × World :=
  match world.act step with
  | (answer, finished, acted) =>
    match acted.connection.sleep .zero with
    | (woken, connection) =>
      match acted.calls.finish (finished ++ woken) with
      | (done, calls) =>
        match standing { acted with connection, calls } with
        | (standing, after) =>
          let transport := after.connection.transport
          let callbacks := after.connection.exchange.callbacks
          let before := world.connection.transport
          (⟨answer, done, standing, transport.sent.drop before.sent.length,
            transport.urls.drop before.urls.length, transport.stops, callbacks.timeouts,
            callbacks.closes, connection.now, connection.log⟩,
            after.alter ({ · with log := [] }))

end World

/-- One entry for each step up to the end of the connection, and none for the steps after it. -/
def runFrom : World → List Step → List (Option Entry)
  | _, [] => []
  | world, step :: rest =>
    if world.gone then none :: runFrom world rest
    else match world.step step with
      | (entry, world) => some entry :: runFrom world rest

def run (settings : ConnectSettings) (steps : List Step) : List (Option Entry) :=
  runFrom { connection := { settings, transport := {} } } steps

end FrameLink.Scenario.Connection
