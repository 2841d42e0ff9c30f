import FrameLink.Wire.Compound
import FrameLink.ClientId
import FrameLink.Log
import FrameLink.Settings.Connect
import FrameLink.Settings.Serve
import FrameLink.Settings.Terminate
/-!
Wire forms of the library's own types. Records are written field by field in the order of their
declaration.
-/

namespace FrameLink.Wire

instance : Wire Duration where
  size _ := 12
  encode d := encode (UInt64.ofNat d.secs) ++ encode (UInt32.ofNat d.subsecNanos)
  decode := andThen (word 8) fun secs => andThen (word 4) fun nanos =>
    match Duration.ofParts? secs nanos with
    | some d => pure d
    | none => fail .durationOverflow

def encodeOctets (count n : Nat) : Bytes := (Bytes.ofNat count n).reverse

def octets (count : Nat) : Reader Nat :=
  mapReader (fun bytes => Bytes.toNat bytes.reverse) (take .outOfData count)

instance : Wire Inet.Address where
  size
    | .v4 _ => 8
    | .v6 _ => 20
  encode
    | .v4 bits => Bytes.ofNat 4 0 ++ encodeOctets 4 bits.toNat
    | .v6 bits => Bytes.ofNat 4 1 ++ encodeOctets 16 bits.toNat
  decode := andThen (word 4) fun kind =>
    match kind with
    | 0 => mapReader (fun n => .v4 (BitVec.ofNat 32 n)) (octets 4)
    | 1 => mapReader (fun n => .v6 (BitVec.ofNat 128 n)) (octets 16)
    | n => fail (.badAddressKind n)

/-- An identifier is written as a byte string, whose length is checked after it was read. -/
instance : Wire ClientId where
  size _ := 24
  encode id := Bytes.ofNat 8 16 ++ encodeOctets 16 id.bits.toNat
  decode := andThen (word 8) fun n => andThen (take .outOfBytes n) fun bytes =>
    if bytes.length = 16 then pure (.ofNat (Bytes.toNat bytes.reverse))
    else fail (.badIdLength bytes.length)

def componentAt : Nat → Option Component
  | 0 => some .client
  | 1 => some .host
  | 2 => some .supervisor
  | _ => none

instance : Wire Component where
  size _ := 4
  encode
    | .client => Bytes.ofNat 4 0
    | .host => Bytes.ofNat 4 1
    | .supervisor => Bytes.ofNat 4 2
  decode := variant 3 componentAt

def policyAt : Nat → Option TimeoutPolicy
  | 0 => some .disconnect
  | 1 => some .failCall
  | _ => none

instance : Wire TimeoutPolicy where
  size _ := 4
  encode
    | .disconnect => Bytes.ofNat 4 0
    | .failCall => Bytes.ofNat 4 1
  decode := variant 2 policyAt

instance : Wire ConnectSettings where
  size s := size s.path + size s.pollInterval + size s.maxAttempts + size s.autoReconnect +
    size s.reconnectBackoff + size s.maxFrameBytes + size s.timeoutPolicy
  encode s := encode s.path ++ encode s.pollInterval ++ encode s.maxAttempts ++
    encode s.autoReconnect ++ encode s.reconnectBackoff ++ encode s.maxFrameBytes ++
    encode s.timeoutPolicy
  decode := andThen decode fun path => andThen decode fun pollInterval =>
    andThen decode fun maxAttempts => andThen decode fun autoReconnect =>
    andThen decode fun reconnectBackoff => andThen decode fun maxFrameBytes =>
    mapReader (fun timeoutPolicy => ⟨path, pollInterval, maxAttempts, autoReconnect,
      reconnectBackoff, maxFrameBytes, timeoutPolicy⟩) decode

instance : Wire ServeSettings where
  size s := size s.bindAddress + size s.port + size s.path + size s.idleTimeout +
    size s.maxFrameBytes + size s.purgeOnDisconnect
  encode s := encode s.bindAddress ++ encode s.port ++ encode s.path ++ encode s.idleTimeout ++
    encode s.maxFrameBytes ++ encode s.purgeOnDisconnect
  decode := andThen decode fun bindAddress => andThen decode fun port =>
    andThen decode fun path => andThen decode fun idleTimeout =>
    andThen decode fun maxFrameBytes =>
    mapReader (fun purgeOnDisconnect => ⟨bindAddress, port, path, idleTimeout, maxFrameBytes,
      purgeOnDisconnect⟩) decode

instance : Wire TerminateSettings where
  size s := size s.gracePeriod + size s.pollInterval
  encode s := encode s.gracePeriod ++ encode s.pollInterval
  decode := andThen decode fun gracePeriod =>
    mapReader (fun pollInterval => ⟨gracePeriod, pollInterval⟩) decode

end FrameLink.Wire
