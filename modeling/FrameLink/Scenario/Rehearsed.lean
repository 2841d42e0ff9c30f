import FrameLink.Link.Transport
/-!
A transport that behaves as it is told and keeps what it was given.
-/

namespace FrameLink.Scenario

open Link

structure Rehearsed where
  ready : Readiness := .closed
  /-- the channel that is told what happens -/
  channel : Option Nat := none
  onStart : Readiness := .ready
  /-- how long after a start the socket opens -/
  openAfter : Option Duration := none
  opensAt : Option Instant := none
  onStop : Readiness := .closed
  startError : Option String := none
  sendError : Option String := none
  urls : List String := []
  sent : List Bytes := []
  stops : Nat := 0
deriving Inhabited

namespace Rehearsed

inductive Setting where
  | ready (readiness : Readiness)
  | onStart (readiness : Readiness)
  | onStop (readiness : Readiness)
  | openAfter (span : Option Duration)
  | startError (message : Option String)
  | sendError (message : Option String)

def set (transport : Rehearsed) : Setting → Rehearsed
  | .ready readiness => { transport with ready := readiness }
  | .onStart readiness => { transport with onStart := readiness }
  | .onStop readiness => { transport with onStop := readiness }
  | .openAfter span => { transport with openAfter := span }
  | .startError message => { transport with startError := message }
  | .sendError message => { transport with sendError := message }

def report (event : Event) (transport : Rehearsed) : List Report :=
  transport.channel.toList.map fun channel => ⟨channel, event⟩

def start (url : String) (channel : Nat) (now : Instant) (transport : Rehearsed) :
    Except Error Unit × Rehearsed × List Report :=
  let transport := { transport with urls := transport.urls ++ [url] }
  match transport.startError with
  | some message => (.error (.transport message), transport, [])
  | none =>
    let opensAt := transport.openAfter.map fun span => now + span.nanos
    let transport := { transport with
      channel := some channel, ready := transport.onStart, opensAt }
    (.ok (), transport, if transport.ready = .ready then transport.report .opened else [])

def send (payload : Bytes) (transport : Rehearsed) : Except Error Unit × Rehearsed :=
  match transport.sendError with
  | some message => (.error (.transport message), transport)
  | none => (.ok (), { transport with sent := transport.sent ++ [payload] })

/-- The first look when the time has come finds the socket open. -/
def look (now : Instant) (transport : Rehearsed) : Readiness × Rehearsed × List Report :=
  if transport.opensAt.any (· ≤ now) then
    (.ready, { transport with ready := .ready, opensAt := none }, transport.report .opened)
  else (transport.ready, transport, [])

def stop (transport : Rehearsed) : Rehearsed × List Report :=
  let stopped := { transport with
    stops := transport.stops + 1, ready := transport.onStop, opensAt := none }
  if stopped.ready = .closed then ({ stopped with channel := none }, stopped.report (.closed none))
  else (stopped, [])

def close (reason : Option String) (keep : Bool) (transport : Rehearsed) : Rehearsed × List Report :=
  (if keep then transport else { transport with ready := .closed, channel := none },
    transport.report (.closed reason))

instance : Transport Rehearsed := ⟨start, send, look, stop⟩

end Rehearsed

end FrameLink.Scenario
