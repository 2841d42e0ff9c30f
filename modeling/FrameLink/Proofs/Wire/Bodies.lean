import Mathlib
import FrameLink.Proofs.Wire.ReadBack
import FrameLink.Wire.Table
/-!
Every type that frames are exchanged with is written in so many bytes as are counted, and reads back.
So a frame can be written exactly if its full length is within the limit, and its bytes, with anything
behind them, are that frame again.
-/

namespace FrameLink

namespace Wire

/-! ## Times and addresses -/

theorem ofParts?_parts (d : Duration) : Duration.ofParts? d.secs d.subsecNanos = some d := by
  have whole : d.secs * Duration.second + d.subsecNanos = d.nanos := by
    rw [Nat.mul_comm]
    exact Nat.div_add_mod d.nanos Duration.second
  rw [Duration.ofParts?, whole, Duration.ofNanos?, dif_pos d.bounded]

theorem secs_lt (d : Duration) : d.secs < 18446744073709551616 := by
  have bounded := d.bounded
  unfold durationBound at bounded
  exact Nat.div_lt_of_lt_mul (Nat.mul_comm _ _ ▸ bounded)

theorem subsecNanos_lt (d : Duration) : d.subsecNanos < 1000000000 := Nat.mod_lt _ (by decide)

instance : Lawful Duration where
  length_encode _ := by
    change (Bytes.ofNat 8 _ ++ Bytes.ofNat 4 _).length = 12
    rw [List.length_append, Bytes.length_ofNat, Bytes.length_ofNat]
  reads d _ := by
    have secs := secs_lt d
    have nanos := subsecNanos_lt d
    have low : (UInt64.ofNat d.secs).toNat = d.secs := UInt64.toNat_ofNat_of_lt' secs
    have high : (UInt32.ofNat d.subsecNanos).toNat = d.subsecNanos :=
      UInt32.toNat_ofNat_of_lt' (Nat.lt_trans nanos (by decide))
    change Reads decode (Bytes.ofNat 8 (UInt64.ofNat d.secs).toNat ++
      Bytes.ofNat 4 (UInt32.ofNat d.subsecNanos).toNat) d
    rw [low, high]
    refine (reads_word 8 d.secs (by omega)).andThen ?_
    rw [← List.append_nil (Bytes.ofNat 4 d.subsecNanos)]
    refine (reads_word 4 d.subsecNanos (by omega)).andThen ?_
    simp only [ofParts?_parts]
    exact reads_pure d

theorem length_encodeOctets (count n : Nat) : (encodeOctets count n).length = count := by
  rw [encodeOctets, List.length_reverse, Bytes.length_ofNat]

theorem reads_octets (count n : Nat) (fits : n < 256 ^ count) :
    Reads (octets count) (encodeOctets count n) n := by
  have taken := (reads_take .outOfData (encodeOctets count n)).map
    fun bytes => Bytes.toNat bytes.reverse
  rwa [length_encodeOctets, encodeOctets, List.reverse_reverse, Bytes.toNat_ofNat count n fits]
    at taken

instance : Lawful Inet.Address where
  length_encode
    | .v4 bits => by
      change (Bytes.ofNat 4 0 ++ encodeOctets 4 bits.toNat).length = 8
      rw [List.length_append, Bytes.length_ofNat, length_encodeOctets]
    | .v6 bits => by
      change (Bytes.ofNat 4 1 ++ encodeOctets 16 bits.toNat).length = 20
      rw [List.length_append, Bytes.length_ofNat, length_encodeOctets]
  reads
    | .v4 bits, _ => by
      have octets := (reads_octets 4 bits.toNat bits.isLt).map fun n => Inet.Address.v4 (.ofNat 32 n)
      rw [BitVec.ofNat_toNat, BitVec.setWidth_eq] at octets
      exact (reads_word 4 0 (by decide)).andThen octets
    | .v6 bits, _ => by
      have octets := (reads_octets 16 bits.toNat bits.isLt).map fun n => Inet.Address.v6 (.ofNat 128 n)
      rw [BitVec.ofNat_toNat, BitVec.setWidth_eq] at octets
      exact (reads_word 4 1 (by decide)).andThen octets

instance : Lawful ClientId where
  length_encode id := by
    change (Bytes.ofNat 8 16 ++ encodeOctets 16 id.bits.toNat).length = 24
    rw [List.length_append, Bytes.length_ofNat, length_encodeOctets]
  reads id _ := by
    have length := length_encodeOctets 16 id.bits.toNat
    have same : ClientId.ofNat (Bytes.toNat (encodeOctets 16 id.bits.toNat).reverse) = id := by
      rw [encodeOctets, List.reverse_reverse, Bytes.toNat_ofNat 16 _ id.bits.isLt, ClientId.ofNat,
        BitVec.ofNat_toNat, BitVec.setWidth_eq]
    have octets := reads_take .outOfBytes (encodeOctets 16 id.bits.toNat)
    rw [length] at octets
    refine (reads_word 8 16 (by decide)).andThen ?_
    rw [← List.append_nil (encodeOctets 16 id.bits.toNat)]
    refine octets.andThen ?_
    rw [if_pos length, same]
    exact reads_pure id

/-! ## Variants without fields -/

theorem reads_variant {α : Type} {pick : Nat → Option α} {n : Nat} {a : α} (count : Nat)
    (picks : pick n = some a) (fits : n < 256 ^ 4) :
    Reads (variant count pick) (Bytes.ofNat 4 n) a := by
  rw [← List.append_nil (Bytes.ofNat 4 n)]
  refine (reads_word 4 n fits).andThen ?_
  simp only [picks]
  exact reads_pure a

instance : Lawful Component where
  length_encode component := by cases component <;> rfl
  reads component _ := by
    cases component with
    | client | host | supervisor => exact reads_variant 3 rfl (by decide)

instance : Lawful TimeoutPolicy where
  length_encode policy := by cases policy <;> rfl
  reads policy _ := by
    cases policy with
    | disconnect | failCall => exact reads_variant 2 rfl (by decide)

instance : Lawful Correlation where
  length_encode id := length_encode id.value
  reads id fits := (Lawful.reads id.value fits).map Correlation.mk

/-! ## Records -/

theorem reads_field {α β : Type} [Wire α] [Lawful α] (a : α) (fits : size a < 256 ^ 8)
    {next : α → Reader β} {back : Bytes} {b : β} (after : Reads (next a) back b) :
    Reads (andThen decode next) (encode a ++ back) b :=
  (Lawful.reads a fits).andThen after

instance : Lawful ConnectSettings where
  length_encode s := by
    change (encode s.path ++ encode s.pollInterval ++ encode s.maxAttempts ++
      encode s.autoReconnect ++ encode s.reconnectBackoff ++ encode s.maxFrameBytes ++
      encode s.timeoutPolicy).length = size s.path + size s.pollInterval + size s.maxAttempts +
        size s.autoReconnect + size s.reconnectBackoff + size s.maxFrameBytes + size s.timeoutPolicy
    simp only [List.length_append, length_encode]
  reads s fits := by
    change size s.path + size s.pollInterval + size s.maxAttempts + size s.autoReconnect +
      size s.reconnectBackoff + size s.maxFrameBytes + size s.timeoutPolicy < 256 ^ 8 at fits
    change Reads decode (encode s.path ++ encode s.pollInterval ++ encode s.maxAttempts ++
      encode s.autoReconnect ++ encode s.reconnectBackoff ++ encode s.maxFrameBytes ++
      encode s.timeoutPolicy) s
    simp only [List.append_assoc]
    refine reads_field s.path (by omega) ?_
    refine reads_field s.pollInterval (by omega) ?_
    refine reads_field s.maxAttempts (by omega) ?_
    refine reads_field s.autoReconnect (by omega) ?_
    refine reads_field s.reconnectBackoff (by omega) ?_
    refine reads_field s.maxFrameBytes (by omega) ?_
    exact (Lawful.reads s.timeoutPolicy (by omega)).map _

instance : Lawful ServeSettings where
  length_encode s := by
    change (encode s.bindAddress ++ encode s.port ++ encode s.path ++ encode s.idleTimeout ++
      encode s.maxFrameBytes ++ encode s.purgeOnDisconnect).length =
        size s.bindAddress + size s.port + size s.path + size s.idleTimeout +
          size s.maxFrameBytes + size s.purgeOnDisconnect
    simp only [List.length_append, length_encode]
  reads s fits := by
    change size s.bindAddress + size s.port + size s.path + size s.idleTimeout +
      size s.maxFrameBytes + size s.purgeOnDisconnect < 256 ^ 8 at fits
    change Reads decode (encode s.bindAddress ++ encode s.port ++ encode s.path ++
      encode s.idleTimeout ++ encode s.maxFrameBytes ++ encode s.purgeOnDisconnect) s
    simp only [List.append_assoc]
    refine reads_field s.bindAddress (by omega) ?_
    refine reads_field s.port (by omega) ?_
    refine reads_field s.path (by omega) ?_
    refine reads_field s.idleTimeout (by omega) ?_
    refine reads_field s.maxFrameBytes (by omega) ?_
    exact (Lawful.reads s.purgeOnDisconnect (by omega)).map _

instance : Lawful TerminateSettings where
  length_encode s := by
    change (encode s.gracePeriod ++ encode s.pollInterval).length =
      size s.gracePeriod + size s.pollInterval
    rw [List.length_append, length_encode, length_encode]
  reads s fits := by
    change size s.gracePeriod + size s.pollInterval < 256 ^ 8 at fits
    exact reads_field s.gracePeriod (by omega) ((Lawful.reads s.pollInterval (by omega)).map _)

instance : Lawful Record where
  length_encode r := by
    change (encode r.name ++ encode r.tags ++ encode r.level ++ encode r.active ++ encode r.glyph ++
      encode r.offset).length =
        size r.name + size r.tags + size r.level + size r.active + size r.glyph + size r.offset
    simp only [List.length_append, length_encode]
  reads r fits := by
    change size r.name + size r.tags + size r.level + size r.active + size r.glyph +
      size r.offset < 256 ^ 8 at fits
    change Reads decode (encode r.name ++ encode r.tags ++ encode r.level ++ encode r.active ++
      encode r.glyph ++ encode r.offset) r
    simp only [List.append_assoc]
    refine reads_field r.name (by omega) ?_
    refine reads_field r.tags (by omega) ?_
    refine reads_field r.level (by omega) ?_
    refine reads_field r.active (by omega) ?_
    refine reads_field r.glyph (by omega) ?_
    exact (Lawful.reads r.offset (by omega)).map _

/-! ## Requests -/

theorem encodeAll_eq (requests : List Request) :
    Request.encodeAll requests = requests.flatMap Request.encode := by
  induction requests with
  | nil => rw [Request.encodeAll, List.flatMap_nil]
  | cons request requests ih => rw [Request.encodeAll, ih, List.flatMap_cons]

theorem request_sizeAll_eq (requests : List Request) :
    Request.sizeAll requests = sizeAll Request.size requests := by
  induction requests with
  | nil => rw [Request.sizeAll, sizeAll]
  | cons request requests ih => rw [Request.sizeAll, ih, sizeAll]

theorem request_size_pos (request : Request) : 0 < request.size := by
  cases request <;> rw [Request.size] <;> omega

mutual

theorem length_encode_request (request : Request) : request.encode.length = request.size := by
  cases request with
  | ping => rw [Request.encode, Request.size, Bytes.length_ofNat]
  | step count =>
    rw [Request.encode, Request.size, List.length_append, Bytes.length_ofNat, length_encode]
  | chat text =>
    rw [Request.encode, Request.size, List.length_append, Bytes.length_ofNat, length_encode]
  | move dx dy =>
    rw [Request.encode, Request.size, List.length_append, List.length_append, Bytes.length_ofNat,
      length_encode, length_encode]
  | batch requests =>
    rw [Request.encode, Request.size, List.length_append, List.length_append, Bytes.length_ofNat,
      Bytes.length_ofNat, length_encodeAll requests]

theorem length_encodeAll (requests : List Request) :
    (Request.encodeAll requests).length = Request.sizeAll requests := by
  cases requests with
  | nil => rw [Request.encodeAll, Request.sizeAll, List.length_nil]
  | cons request requests =>
    rw [Request.encodeAll, Request.sizeAll, List.length_append, length_encode_request request,
      length_encodeAll requests]

end

/-- Every batch takes bytes of its own, so a depth that is greater than the size is never used up. -/
theorem reads_request (depth : Nat) (request : Request) (fits : request.size < 256 ^ 8)
    (deep : request.size < depth) : Reads (Request.decodeWithin depth) request.encode request := by
  induction depth generalizing request with
  | zero => exact absurd deep (Nat.not_lt_zero _)
  | succ depth ih =>
    rw [Request.decodeWithin]
    cases request with
    | ping =>
      rw [Request.encode, ← List.append_nil (Bytes.ofNat 4 0)]
      exact (reads_word 4 0 (by decide)).andThen (reads_pure Request.ping)
    | step count =>
      rw [Request.size] at fits
      rw [Request.encode]
      exact (reads_word 4 1 (by decide)).andThen ((Lawful.reads count (by omega)).map _)
    | chat text =>
      rw [Request.size] at fits
      rw [Request.encode]
      exact (reads_word 4 2 (by decide)).andThen ((Lawful.reads text (by omega)).map _)
    | move dx dy =>
      rw [Request.size] at fits
      rw [Request.encode, List.append_assoc]
      refine (reads_word 4 3 (by decide)).andThen (reads_field dx (by omega) ?_)
      exact (Lawful.reads dy (by omega)).map _
    | batch requests =>
      rw [Request.size, request_sizeAll_eq] at fits deep
      have few := length_le_sizeAll request_size_pos requests
      have each : ∀ request ∈ requests,
          Reads (Request.decodeWithin depth) request.encode request := by
        intro request member
        have part := size_le_sizeAll Request.size member
        exact ih request (by omega) (by omega)
      rw [Request.encode, encodeAll_eq, List.append_assoc]
      refine (reads_word 4 4 (by decide)).andThen ?_
      exact (reads_word 8 requests.length (by omega)).andThen ((reads_items each).map _)

instance : Lawful Request where
  length_encode := length_encode_request
  reads request fits rest := by
    have deep : request.size < (request.encode ++ rest).length + 1 := by
      rw [List.length_append, length_encode_request]
      omega
    exact reads_request _ request fits deep rest

/-! ## Frames -/

instance {α : Type} [Wire α] [Lawful α] : Lawful (Frame α) where
  length_encode frame := by
    change (encode frame.correlation ++ encode frame.body).length =
      size frame.correlation + size frame.body
    rw [List.length_append, length_encode, length_encode]
  reads frame fits := by
    change size frame.correlation + size frame.body < 256 ^ 8 at fits
    exact reads_field frame.correlation (by omega) ((Lawful.reads frame.body (by omega)).map _)

end Wire

open Wire

theorem BodyType.lawful (type : BodyType) : Lawful type.Value := by
  cases type <;> exact inferInstanceAs (Lawful _)

namespace Frame

variable {α : Type} [Wire α] [Lawful α]

theorem encode_eq (frame : Frame α) (limit : Nat) : frame.encode limit =
    if (Wire.encode frame).length ≤ limit then .ok (Wire.encode frame)
    else .error (.tooLarge (Wire.encode frame).length limit) := by
  rw [length_encode]
  rfl

theorem decode_append (frame : Frame α) (trailing : Bytes) (limit : UInt64) :
    decode (Wire.encode frame ++ trailing) limit.toNat =
      if (Wire.encode frame).length + trailing.length ≤ limit.toNat then .ok frame
      else .error (.tooLarge ((Wire.encode frame).length + trailing.length) limit.toNat) := by
  rw [decode, List.length_append]
  split
  next beyond => rw [if_neg (Nat.not_le.mpr beyond)]
  next within =>
    have small := limit.toNat_lt
    have fits : Wire.size frame < 256 ^ 8 := by
      rw [← length_encode frame]
      omega
    rw [if_pos (Nat.not_lt.mp within), Lawful.reads frame fits trailing]

/-- For every type of the table, a frame is encoded exactly if its full encoding is within the limit,
and refused with the size of that encoding otherwise; and an encoding with anything behind it is decoded
to its frame, the number included, exactly if all of it is within the limit. -/
theorem encoded_and_decoded_within_limit (type : BodyType) (frame : Frame type.Value)
    (limit : UInt64) :
    (frame.encode limit.toNat =
      if (Wire.encode frame).length ≤ limit.toNat then .ok (Wire.encode frame)
      else .error (.tooLarge (Wire.encode frame).length limit.toNat)) ∧
    ∀ trailing : Bytes, decode (Wire.encode frame ++ trailing) limit.toNat =
      if (Wire.encode frame).length + trailing.length ≤ limit.toNat then .ok frame
      else .error (.tooLarge ((Wire.encode frame).length + trailing.length) limit.toNat) := by
  have := type.lawful
  exact ⟨encode_eq frame limit.toNat, fun trailing => decode_append frame trailing limit⟩

/-- A batch within a batch, read back in front of two more bytes. -/
example : let frame : Frame Request := ⟨⟨7⟩, .batch [.step 3, .batch [.chat "é"]]⟩
    (decode (α := Request) (Wire.encode frame ++ [1, 2]) 64).toOption.map Wire.encode =
      some (Wire.encode frame) := by
  decide +kernel

end Frame

end FrameLink
