import Mathlib
import FrameLink.Proofs.Wire.Canonical
/-!
The bytes of a value tell where they end: whatever a reader takes, it takes in front of anything, and
what is written for the value is no longer. So of a frame that was cut off nothing is read, no frame's
bytes begin another's, and a frame that was read can be written in the room that it came in, and is then
read again. Where the wire form leaves no choice, the bytes that are written are the bytes that were
taken.
-/

namespace FrameLink

namespace Wire

variable {α β : Type}

/-- A front of the data was taken for what was read: one that stands for the same value in front of
anything, and that is no shorter than the value's cost. Lengths take eight bytes, so nothing longer than
they can tell is asked for. -/
def Takes (read : Reader α) (cost : α → Nat) : Prop :=
  ∀ data a rest, data.length < 256 ^ 8 → read data = .ok (a, rest) →
    ∃ front, data = front ++ rest ∧ cost a ≤ front.length ∧ Reads read front a

theorem takes_pure {a : α} {cost : α → Nat} (free : cost a = 0) : Takes (pure a) cost := by
  intro data b rest _ taken
  obtain ⟨rfl, rfl⟩ := pure_eq_ok.mp taken
  exact ⟨[], rfl, free.le, reads_pure a⟩

theorem takes_fail (fault : Fault) (cost : α → Nat) : Takes (fail fault) cost := by
  intro data a rest _ taken
  exact absurd taken fail_ne_ok

theorem Takes.andThen {first : Reader α} {next : α → Reader β} {price : α → Nat} {cost : β → Nat}
    (takes : Takes first price) (after : ∀ a, Takes (next a) fun b => cost b - price a) :
    Takes (andThen first next) cost := by
  intro data b rest short taken
  obtain ⟨a, middle, read, more⟩ := andThen_eq_ok.mp taken
  obtain ⟨front, rfl, paid, reads⟩ := takes data a middle short read
  rw [List.length_append] at short
  obtain ⟨back, rfl, left, follows⟩ := after a middle b rest (by omega) more
  refine ⟨front ++ back, (List.append_assoc ..).symm, ?_, reads.andThen follows⟩
  dsimp only at left
  rw [List.length_append]
  omega

theorem Takes.map {read : Reader α} {price : α → Nat} {cost : β → Nat} {f : α → β}
    (takes : Takes read price) (fair : ∀ a, cost (f a) ≤ price a) :
    Takes (mapReader f read) cost := by
  apply takes.andThen
  intro a
  exact takes_pure (Nat.sub_eq_zero_of_le (fair a))

theorem takes_word (width : Nat) : Takes (word width) fun _ => width := by
  intro data n rest _ taken
  obtain ⟨rfl, fits⟩ := word_ok taken
  exact ⟨Bytes.ofNat width n, rfl, (Bytes.length_ofNat width n).ge, reads_word width n fits⟩

/-- What is read was taken from the front, and takes no more bytes when it is written again. -/
class SelfDelimiting (α : Type) [Wire α] : Prop where
  takes : Takes (decode : Reader α) size

instance [Wire α] [Lawful α] [Canonical α] : SelfDelimiting α where
  takes := by
    intro data a rest short taken
    obtain rfl := Canonical.written taken
    have length := length_encode a
    rw [List.length_append] at short
    exact ⟨encode a, rfl, length.ge, Lawful.reads a (by omega)⟩

/-! ## Values of more than one form -/

instance : SelfDelimiting Duration where
  takes := by
    apply (takes_word 8).andThen
    intro secs
    apply (takes_word 4).andThen
    intro nanos
    split
    next d _ => exact takes_pure rfl
    next => exact takes_fail _ _

instance [Wire α] [SelfDelimiting α] : SelfDelimiting (Option α) where
  takes := by
    apply (takes_word 1).andThen
    intro tag
    split
    next => exact takes_pure rfl
    next =>
      apply SelfDelimiting.takes.map
      intro a
      exact (Nat.add_sub_cancel_left ..).le
    next => exact takes_fail _ _

theorem sizeAll_insertEntry_le (key : String) (value : UInt32) (entries : List (String × UInt32)) :
    sizeAll size (Dictionary.insertEntry key value entries) ≤
      size (key, value) + sizeAll size entries := by
  induction entries with
  | nil => exact le_refl _
  | cons head rest ih =>
    obtain ⟨k, v⟩ := head
    rw [Dictionary.insertEntry]
    split
    next => exact le_refl _
    next =>
      split
      next =>
        simp only [sizeAll]
        omega
      next =>
        simp only [sizeAll]
        omega

theorem sizeAll_foldl_insert_le (entries : List (String × UInt32)) (front : Dictionary) :
    sizeAll size (entries.foldl Dictionary.insert front).entries ≤
      sizeAll size front.entries + sizeAll size entries := by
  induction entries generalizing front with
  | nil => exact le_refl _
  | cons entry entries ih =>
    have later := ih (front.insert entry)
    have now : sizeAll size (front.insert entry).entries ≤ size entry + sizeAll size front.entries :=
      sizeAll_insertEntry_le entry.1 entry.2 front.entries
    rw [List.foldl_cons, sizeAll]
    omega

/-- A text that comes more than once is kept once, so a dictionary is no longer than what it was made
from. -/
theorem size_ofList_le (entries : List (String × UInt32)) :
    size (Dictionary.ofList entries) ≤ size entries := by
  have kept := sizeAll_foldl_insert_le entries Dictionary.empty
  change 8 + sizeAll size (entries.foldl Dictionary.insert Dictionary.empty).entries ≤
    8 + sizeAll size entries
  change _ ≤ 0 + sizeAll size entries at kept
  omega

instance : SelfDelimiting Dictionary where
  takes := SelfDelimiting.takes.map size_ofList_le

instance : SelfDelimiting ConnectSettings where
  takes := by
    refine SelfDelimiting.takes.andThen fun path => SelfDelimiting.takes.andThen fun interval =>
      SelfDelimiting.takes.andThen fun attempts => SelfDelimiting.takes.andThen fun reconnects =>
      SelfDelimiting.takes.andThen fun backoff => SelfDelimiting.takes.andThen fun most =>
      SelfDelimiting.takes.map fun policy => ?_
    change size path + size interval + size attempts + size reconnects + size backoff + size most +
      size policy - size path - size interval - size attempts - size reconnects - size backoff -
      size most ≤ size policy
    omega

instance : SelfDelimiting ServeSettings where
  takes := by
    refine SelfDelimiting.takes.andThen fun address => SelfDelimiting.takes.andThen fun port =>
      SelfDelimiting.takes.andThen fun path => SelfDelimiting.takes.andThen fun idle =>
      SelfDelimiting.takes.andThen fun most => SelfDelimiting.takes.map fun purges => ?_
    change size address + size port + size path + size idle + size most + size purges -
      size address - size port - size path - size idle - size most ≤ size purges
    omega

instance : SelfDelimiting TerminateSettings where
  takes := by
    refine SelfDelimiting.takes.andThen fun grace => SelfDelimiting.takes.map fun interval => ?_
    exact (Nat.add_sub_cancel_left ..).le

instance [Wire α] [SelfDelimiting α] : SelfDelimiting (Frame α) where
  takes := by
    refine SelfDelimiting.takes.andThen fun correlation => SelfDelimiting.takes.map fun body => ?_
    exact (Nat.add_sub_cancel_left ..).le

/-- What is read from a front of a value's bytes is the value, from all of them. -/
theorem whole_of_read [Wire α] [Lawful α] [SelfDelimiting α] {a b : α} {front rest : Bytes}
    (fits : size a < 256 ^ 8) (begins : front <+: encode a)
    (read : decode front = .ok (b, rest)) : front = encode a ∧ b = a := by
  obtain ⟨behind, whole⟩ := begins
  have short : front.length < 256 ^ 8 := by
    have length := congrArg List.length whole
    rw [List.length_append, length_encode] at length
    omega
  obtain ⟨taken, parts, -, reads⟩ := SelfDelimiting.takes front b rest short read
  have both : (.ok (b, rest ++ behind) : Except Fault (α × Bytes)) = .ok (a, []) := by
    calc .ok (b, rest ++ behind)
        = decode (taken ++ (rest ++ behind)) := (reads (rest ++ behind)).symm
      _ = decode (encode a ++ []) := by
          rw [← List.append_assoc, ← parts, whole, List.append_nil]
      _ = .ok (a, []) := Lawful.reads a fits []
  simp only [Except.ok.injEq, Prod.mk.injEq, List.append_eq_nil_iff] at both
  obtain ⟨same, -, rfl⟩ := both
  exact ⟨by rw [← whole, List.append_nil], same⟩

end Wire

open Wire

namespace BodyType

theorem selfDelimiting (type : BodyType) : SelfDelimiting type.Value := by
  cases type <;> exact inferInstanceAs (SelfDelimiting _)

/-- Whether the values of a type have one wire form each: those that hold no time and are no
dictionary. -/
def hasOneForm : BodyType → Bool
  | .map | .connectConfig | .serverConfig | .terminateConfig => false
  | _ => true

theorem canonical (type : BodyType) (plain : type.hasOneForm = true) : Canonical type.Value := by
  cases type with
  | map | connectConfig | serverConfig | terminateConfig => cases plain
  | _ => exact inferInstanceAs (Canonical _)

end BodyType

namespace Frame

variable {α : Type} [Wire α]

theorem decode_eq_ok {data : Bytes} {limit : Nat} {frame : Frame α} :
    decode data limit = .ok frame ↔
      data.length ≤ limit ∧ ∃ rest, Wire.decode data = .ok (frame, rest) := by
  unfold decode
  dsimp only
  split
  next beyond => simp [Nat.not_le.mpr beyond]
  next within =>
    split
    next read rest taken => simp [taken, Nat.not_lt.mp within]
    next fault taken => simp [taken]

/-- Within the limit all that can go wrong is that the bytes spell no frame. -/
theorem decode_of_not_ok {data : Bytes} {limit : Nat} (within : data.length ≤ limit)
    (unread : ∀ (frame : Frame α) rest, Wire.decode data ≠ .ok (frame, rest)) :
    ∃ message, decode (α := α) data limit = .error (.deserialization message) := by
  unfold decode
  dsimp only
  rw [if_neg (Nat.not_lt.mpr within)]
  split
  next frame rest taken => exact absurd taken (unread frame rest)
  next fault _ => exact ⟨fault.message, rfl⟩

theorem encode_eq_ok {frame : Frame α} {limit : Nat} {bytes : Bytes} :
    frame.encode limit = .ok bytes ↔ Wire.size frame ≤ limit ∧ Wire.encode frame = bytes := by
  unfold encode
  dsimp only
  split
  next within => simp [within]
  next beyond => simp [beyond]

/-- No front of a frame's bytes but the whole of them is decoded, whatever the limit that it is within;
and the bytes of a frame begin those of no other frame of the type. -/
theorem truncated_never_decoded (type : BodyType) (frame : Frame type.Value) (most : UInt64)
    (bytes : Bytes) (written : frame.encode most.toNat = .ok bytes) :
    (∀ front, front <+: bytes → front ≠ bytes → ∀ limit : UInt64, front.length ≤ limit.toNat →
      ∃ message, decode (α := type.Value) front limit.toNat = .error (.deserialization message)) ∧
    ∀ (other : Frame type.Value) (more : UInt64) (otherBytes : Bytes),
      other.encode more.toNat = .ok otherBytes → bytes <+: otherBytes →
        otherBytes = bytes ∧ other = frame := by
  have := type.lawful
  have := type.selfDelimiting
  obtain ⟨within, rfl⟩ := encode_eq_ok.mp written
  have small := most.toNat_lt
  constructor
  · intro front begins shorter limit short
    apply decode_of_not_ok short
    intro read rest taken
    exact shorter (whole_of_read (by omega) begins taken).1
  · intro other more otherBytes otherWritten begins
    obtain ⟨otherWithin, rfl⟩ := encode_eq_ok.mp otherWritten
    have otherSmall := more.toNat_lt
    have read := Lawful.reads frame (by omega) []
    rw [List.append_nil] at read
    obtain ⟨same, whole⟩ := whole_of_read (by omega) begins read
    exact ⟨same.symm, whole.symm⟩

/-- A batch whose last text is cut off within a character. -/
theorem truncated_batch_not_decoded :
    let frame : Frame BodyType.request.Value := ⟨⟨7⟩, .batch [.step 3, .batch [.chat "é"]]⟩
    let limit : UInt64 := 64
    frame.encode limit.toNat = .ok (Wire.encode frame) ∧ ∃ message,
      decode (α := BodyType.request.Value) (Wire.encode frame).dropLast limit.toNat =
        .error (.deserialization message) := by
  intro frame limit
  have written : frame.encode limit.toNat = .ok (Wire.encode frame) :=
    encode_eq_ok.mpr ⟨by decide +kernel, rfl⟩
  have cut := (truncated_never_decoded .request frame limit _ written).1
  exact ⟨written, cut _ (List.dropLast_prefix _) (by decide +kernel) limit (by decide +kernel)⟩

/-- A decoded frame is encoded within the same limit, in no more bytes than were taken for it, and those
decode to it again. Where its type has one form, they are the bytes that were taken, and all data that
are read as this frame begin with them. -/
theorem decoded_encodes_no_longer (type : BodyType) (data : Bytes) (limit : UInt64)
    (frame : Frame type.Value) (decoded : decode data limit.toNat = .ok frame) :
    ∃ taken rest bytes, data = taken ++ rest ∧ Wire.decode data = .ok (frame, rest) ∧
      frame.encode limit.toNat = .ok bytes ∧ bytes.length ≤ taken.length ∧
      decode bytes limit.toNat = .ok frame ∧
      (type.hasOneForm = true → bytes = taken ∧
        ∀ other behind, Wire.decode other = .ok (frame, behind) → other = bytes ++ behind) := by
  have := type.lawful
  have := type.selfDelimiting
  obtain ⟨within, rest, read⟩ := decode_eq_ok.mp decoded
  have small := limit.toNat_lt
  obtain ⟨taken, parts, cost, -⟩ := SelfDelimiting.takes data frame rest (by omega) read
  have length := length_encode frame
  have room : taken.length ≤ limit.toNat := by
    rw [parts, List.length_append] at within
    omega
  have again := Lawful.reads frame (by omega) []
  rw [List.append_nil] at again
  refine ⟨taken, rest, Wire.encode frame, parts, read, encode_eq_ok.mpr ⟨by omega, rfl⟩, by omega,
    decode_eq_ok.mpr ⟨by omega, [], again⟩, ?_⟩
  intro plain
  have := type.canonical plain
  constructor
  · have written : data = Wire.encode frame ++ rest := Canonical.written read
    exact List.append_cancel_right (written.symm.trans parts)
  · intro other behind spelled
    exact Canonical.written spelled

/-- A dictionary that came with its texts out of order, one of them twice, and a byte behind it. -/
theorem repeated_text_written_once :
    let entries : List (String × UInt32) := [("b", 1), ("a", 2), ("b", 3)]
    let data := Bytes.ofNat 8 7 ++ Wire.encode entries ++ [9]
    let frame : Frame BodyType.map.Value := ⟨⟨7⟩, .ofList entries⟩
    let limit : UInt64 := 64
    decode data limit.toNat = .ok frame ∧ ∃ bytes, frame.encode limit.toNat = .ok bytes ∧
      bytes.length + 14 = data.length ∧ decode bytes limit.toNat = .ok frame := by
  intro entries data frame limit
  have decoded : decode data limit.toNat = .ok frame :=
    decode_eq_ok.mpr ⟨by decide +kernel, [9], by decide +kernel⟩
  obtain ⟨_, _, bytes, -, -, written, -, again, -⟩ :=
    decoded_encodes_no_longer .map data limit frame decoded
  obtain ⟨-, rfl⟩ := encode_eq_ok.mp written
  exact ⟨decoded, _, written, by decide +kernel, again⟩

end Frame

end FrameLink
