import Mathlib
import FrameLink.Proofs.Wire.Bodies
/-!
What is read is what would be written. Each reader is taken apart once, into what it took and what it
left; a type is canonical when what was taken for a value is the writing of that value. All types are,
but for times, whose nanoseconds may carry into the seconds, and dictionaries, whose texts may come in
any order and more than once.
-/

namespace FrameLink

namespace Wire

variable {α β : Type}

/-! ## Readers taken apart -/

theorem andThen_eq_ok {first : Reader α} {next : α → Reader β} {data : Bytes} {b : β}
    {rest : Bytes} : andThen first next data = .ok (b, rest) ↔
      ∃ a middle, first data = .ok (a, middle) ∧ next a middle = .ok (b, rest) := by
  unfold andThen
  split
  next a middle read => simp [read]
  next fault read => simp [read]

theorem pure_eq_ok {a b : α} {data rest : Bytes} :
    pure a data = .ok (b, rest) ↔ a = b ∧ data = rest := by
  simp [pure]

theorem fail_ne_ok {fault : Fault} {a : α} {data rest : Bytes} :
    fail fault data ≠ .ok (a, rest) := by
  intro taken
  cases taken

theorem mapReader_eq_ok {f : α → β} {read : Reader α} {data : Bytes} {b : β} {rest : Bytes} :
    mapReader f read data = .ok (b, rest) ↔ ∃ a, read data = .ok (a, rest) ∧ f a = b := by
  simp only [mapReader, andThen_eq_ok, pure_eq_ok]
  constructor
  · rintro ⟨a, middle, read, made, rfl⟩
    exact ⟨a, read, made⟩
  · rintro ⟨a, read, made⟩
    exact ⟨a, rest, read, made, rfl⟩

theorem take_ok {fault : Fault} {n : Nat} {data bytes rest : Bytes}
    (taken : take fault n data = .ok (bytes, rest)) : data = bytes ++ rest ∧ bytes.length = n := by
  unfold take at taken
  dsimp only at taken
  split at taken
  next enough =>
    cases taken
    exact ⟨(List.take_append_drop n data).symm, enough⟩
  next => cases taken

theorem word_ok {width n : Nat} {data rest : Bytes} (taken : word width data = .ok (n, rest)) :
    data = Bytes.ofNat width n ++ rest ∧ n < 256 ^ width := by
  unfold word at taken
  split at taken
  next bytes left read =>
    cases taken
    obtain ⟨whole, rfl⟩ := take_ok read
    exact ⟨by rw [Bytes.ofNat_toNat, whole], Bytes.toNat_lt bytes⟩
  next => cases taken

theorem octets_ok {count n : Nat} {data rest : Bytes} (taken : octets count data = .ok (n, rest)) :
    data = encodeOctets count n ++ rest ∧ n < 256 ^ count := by
  obtain ⟨bytes, read, rfl⟩ := mapReader_eq_ok.mp taken
  obtain ⟨rfl, rfl⟩ := take_ok read
  have bound := Bytes.toNat_lt bytes.reverse
  have back := Bytes.ofNat_toNat bytes.reverse
  rw [List.length_reverse] at bound back
  exact ⟨by rw [encodeOctets, back, List.reverse_reverse], bound⟩

theorem variant_ok {count : Nat} {pick : Nat → Option α} {a : α} {data rest : Bytes}
    (taken : variant count pick data = .ok (a, rest)) :
    ∃ n, data = Bytes.ofNat 4 n ++ rest ∧ pick n = some a := by
  obtain ⟨n, middle, read, picked⟩ := andThen_eq_ok.mp taken
  obtain ⟨rfl, -⟩ := word_ok read
  cases found : pick n with
  | none =>
    rw [found] at picked
    exact absurd picked fail_ne_ok
  | some b =>
    rw [found] at picked
    obtain ⟨rfl, rfl⟩ := pure_eq_ok.mp picked
    exact ⟨n, rfl, found⟩

theorem items_ok {read : Reader α} {write : α → Bytes}
    (each : ∀ {data a rest}, read data = .ok (a, rest) → data = write a ++ rest) {count : Nat}
    {data : Bytes} {values : List α} {rest : Bytes} (taken : items read count data = .ok (values, rest)) :
    data = values.flatMap write ++ rest ∧ values.length = count := by
  induction count generalizing data values with
  | zero =>
    obtain ⟨rfl, rfl⟩ := pure_eq_ok.mp taken
    exact ⟨rfl, rfl⟩
  | succ count ih =>
    obtain ⟨a, middle, first, later⟩ := andThen_eq_ok.mp taken
    obtain ⟨others, following, rfl⟩ := mapReader_eq_ok.mp later
    obtain ⟨whole, length⟩ := ih following
    refine ⟨?_, by rw [List.length_cons, length]⟩
    rw [each first, whole, List.flatMap_cons, List.append_assoc]

/-- What is taken for a value is what would be written for it. -/
class Canonical (α : Type) [Wire α] : Prop where
  written {data : Bytes} {a : α} {rest : Bytes} :
    decode data = .ok (a, rest) → data = encode a ++ rest

/-! ## Numbers -/

theorem number_written {width : Nat} {data : Bytes} {a : α} {rest : Bytes} (ofNat : Nat → α)
    (toNat : α → Nat) (back : ∀ n < 256 ^ width, toNat (ofNat n) = n)
    (taken : mapReader ofNat (word width) data = .ok (a, rest)) :
    data = Bytes.ofNat width (toNat a) ++ rest := by
  obtain ⟨n, read, rfl⟩ := mapReader_eq_ok.mp taken
  obtain ⟨rfl, fits⟩ := word_ok read
  rw [back n fits]

instance : Canonical UInt8 where
  written := number_written _ UInt8.toNat fun _ fits => UInt8.toNat_ofNat_of_lt' fits

instance : Canonical UInt16 where
  written := number_written _ UInt16.toNat fun _ fits => UInt16.toNat_ofNat_of_lt' fits

instance : Canonical UInt32 where
  written := number_written _ UInt32.toNat fun _ fits => UInt32.toNat_ofNat_of_lt' fits

instance : Canonical UInt64 where
  written := number_written _ UInt64.toNat fun _ fits => UInt64.toNat_ofNat_of_lt' fits

instance : Canonical Int8 where
  written := number_written _ (fun n : Int8 => n.toUInt8.toNat) fun n fits => by
    rw [UInt8.toUInt8_toInt8, UInt8.toNat_ofNat_of_lt' fits]

instance : Canonical Int16 where
  written := number_written _ (fun n : Int16 => n.toUInt16.toNat) fun n fits => by
    rw [UInt16.toUInt16_toInt16, UInt16.toNat_ofNat_of_lt' fits]

instance : Canonical Int32 where
  written := number_written _ (fun n : Int32 => n.toUInt32.toNat) fun n fits => by
    rw [UInt32.toUInt32_toInt32, UInt32.toNat_ofNat_of_lt' fits]

instance : Canonical Int64 where
  written := number_written _ (fun n : Int64 => n.toUInt64.toNat) fun n fits => by
    rw [UInt64.toUInt64_toInt64, UInt64.toNat_ofNat_of_lt' fits]

instance : Canonical Bool where
  written taken := by
    obtain ⟨n, middle, read, told⟩ := andThen_eq_ok.mp taken
    obtain ⟨rfl, -⟩ := word_ok read
    split at told
    next =>
      obtain ⟨rfl, rfl⟩ := pure_eq_ok.mp told
      rfl
    next =>
      obtain ⟨rfl, rfl⟩ := pure_eq_ok.mp told
      rfl
    next => exact absurd told fail_ne_ok

instance : Canonical Unit where
  written taken := (pure_eq_ok.mp taken).2

/-! ## Texts and characters -/

instance : Canonical String where
  written {data text rest} taken := by
    obtain ⟨n, middle, read, more⟩ := andThen_eq_ok.mp taken
    obtain ⟨rfl, -⟩ := word_ok read
    obtain ⟨bytes, last, front, spelled⟩ := andThen_eq_ok.mp more
    obtain ⟨rfl, rfl⟩ := take_ok front
    unfold textOf at spelled
    split at spelled
    next found decoded =>
      cases spelled
      obtain rfl := Utf8.ofText_of_decode decoded
      change _ = Bytes.ofNat 8 text.utf8ByteSize ++ Bytes.ofText text ++ _
      rw [length_ofText, List.append_assoc]
    next => cases spelled

instance : Canonical Char where
  written {data c rest} taken := by
    cases data with
    | nil => cases taken
    | cons first more =>
      change (if _ then _ else _) = _ at taken
      split at taken
      next => cases taken
      next =>
        split at taken
        next text decoded =>
          split at taken
          next found alone =>
            cases taken
            have single : text = String.singleton c := by
              rw [← String.toList_inj, alone, String.toList_singleton]
            have front := Utf8.ofText_of_decode decoded
            change _ = Bytes.ofText (String.singleton c) ++ _
            rw [← single, front, List.take_append_drop]
          next => cases taken
        next => cases taken

/-! ## Options, pairs and lists -/

instance [Wire α] [Canonical α] : Canonical (Option α) where
  written taken := by
    obtain ⟨n, middle, read, more⟩ := andThen_eq_ok.mp taken
    obtain ⟨rfl, -⟩ := word_ok read
    split at more
    next =>
      obtain ⟨rfl, rfl⟩ := pure_eq_ok.mp more
      rfl
    next =>
      obtain ⟨a, found, rfl⟩ := mapReader_eq_ok.mp more
      rw [Canonical.written found]
      rfl
    next => exact absurd more fail_ne_ok

instance [Wire α] [Wire β] [Canonical α] [Canonical β] : Canonical (α × β) where
  written taken := by
    obtain ⟨a, middle, first, more⟩ := andThen_eq_ok.mp taken
    obtain ⟨b, second, rfl⟩ := mapReader_eq_ok.mp more
    rw [Canonical.written first, Canonical.written second, ← List.append_assoc]
    rfl

instance [Wire α] [Canonical α] : Canonical (List α) where
  written {data values rest} taken := by
    obtain ⟨count, middle, read, more⟩ := andThen_eq_ok.mp taken
    obtain ⟨rfl, -⟩ := word_ok read
    obtain ⟨rfl, rfl⟩ := items_ok Canonical.written more
    change _ = Bytes.ofNat 8 values.length ++ values.flatMap encode ++ rest
    rw [List.append_assoc]

/-! ## The library's own types -/

theorem octets_fit {count n : Nat} (fits : n < 256 ^ count) : n < 2 ^ (8 * count) := by
  rwa [Nat.pow_mul]

instance : Canonical Inet.Address where
  written taken := by
    obtain ⟨kind, middle, read, more⟩ := andThen_eq_ok.mp taken
    obtain ⟨rfl, -⟩ := word_ok read
    split at more
    next =>
      obtain ⟨n, found, rfl⟩ := mapReader_eq_ok.mp more
      obtain ⟨rfl, fits⟩ := octets_ok found
      change _ = Bytes.ofNat 4 0 ++ encodeOctets 4 (BitVec.ofNat 32 n).toNat ++ _
      rw [BitVec.toNat_ofNat, Nat.mod_eq_of_lt (octets_fit fits), List.append_assoc]
    next =>
      obtain ⟨n, found, rfl⟩ := mapReader_eq_ok.mp more
      obtain ⟨rfl, fits⟩ := octets_ok found
      change _ = Bytes.ofNat 4 1 ++ encodeOctets 16 (BitVec.ofNat 128 n).toNat ++ _
      rw [BitVec.toNat_ofNat, Nat.mod_eq_of_lt (octets_fit fits), List.append_assoc]
    next => exact absurd more fail_ne_ok

instance : Canonical ClientId where
  written taken := by
    obtain ⟨n, middle, read, more⟩ := andThen_eq_ok.mp taken
    obtain ⟨rfl, -⟩ := word_ok read
    obtain ⟨bytes, last, front, told⟩ := andThen_eq_ok.mp more
    obtain ⟨rfl, rfl⟩ := take_ok front
    split at told
    next sixteen =>
      obtain ⟨rfl, rfl⟩ := pure_eq_ok.mp told
      have bound := Bytes.toNat_lt bytes.reverse
      have back := Bytes.ofNat_toNat bytes.reverse
      rw [List.length_reverse, sixteen] at bound back
      change _ = Bytes.ofNat 8 16 ++
        encodeOctets 16 (BitVec.ofNat 128 (Bytes.toNat bytes.reverse)).toNat ++ _
      rw [BitVec.toNat_ofNat, Nat.mod_eq_of_lt (octets_fit bound), encodeOctets, back, List.reverse_reverse,
        sixteen, List.append_assoc]
    next => exact absurd told fail_ne_ok

instance : Canonical Component where
  written taken := by
    obtain ⟨n, rfl, picked⟩ := variant_ok taken
    unfold componentAt at picked
    split at picked <;> cases picked <;> rfl

instance : Canonical TimeoutPolicy where
  written taken := by
    obtain ⟨n, rfl, picked⟩ := variant_ok taken
    unfold policyAt at picked
    split at picked <;> cases picked <;> rfl

instance : Canonical Correlation where
  written taken := by
    obtain ⟨n, read, rfl⟩ := mapReader_eq_ok.mp taken
    exact Canonical.written (α := UInt64) read

instance : Canonical Record where
  written {data r rest} taken := by
    obtain ⟨name, _, atName, more⟩ := andThen_eq_ok.mp taken
    obtain ⟨tags, _, atTags, more⟩ := andThen_eq_ok.mp more
    obtain ⟨level, _, atLevel, more⟩ := andThen_eq_ok.mp more
    obtain ⟨active, _, atActive, more⟩ := andThen_eq_ok.mp more
    obtain ⟨glyph, _, atGlyph, more⟩ := andThen_eq_ok.mp more
    obtain ⟨offset, atOffset, rfl⟩ := mapReader_eq_ok.mp more
    rw [Canonical.written atName, Canonical.written atTags, Canonical.written atLevel,
      Canonical.written atActive, Canonical.written atGlyph, Canonical.written atOffset]
    change _ = encode name ++ encode tags ++ encode level ++ encode active ++ encode glyph ++
      encode offset ++ rest
    simp only [List.append_assoc]

/-! ## Requests -/

theorem request_written {depth : Nat} {data : Bytes} {request : Request} {rest : Bytes}
    (taken : Request.decodeWithin depth data = .ok (request, rest)) :
    data = request.encode ++ rest := by
  induction depth generalizing data request rest with
  | zero => exact absurd taken fail_ne_ok
  | succ depth ih =>
    rw [Request.decodeWithin] at taken
    obtain ⟨kind, middle, read, more⟩ := andThen_eq_ok.mp taken
    obtain ⟨rfl, -⟩ := word_ok read
    split at more
    next =>
      obtain ⟨rfl, rfl⟩ := pure_eq_ok.mp more
      rw [Request.encode]
    next =>
      obtain ⟨count, found, rfl⟩ := mapReader_eq_ok.mp more
      rw [Canonical.written found, Request.encode, List.append_assoc]
    next =>
      obtain ⟨text, found, rfl⟩ := mapReader_eq_ok.mp more
      rw [Canonical.written found, Request.encode, List.append_assoc]
    next =>
      obtain ⟨dx, _, atX, more⟩ := andThen_eq_ok.mp more
      obtain ⟨dy, atY, rfl⟩ := mapReader_eq_ok.mp more
      rw [Canonical.written atX, Canonical.written atY, Request.encode]
      simp only [List.append_assoc]
    next =>
      obtain ⟨count, _, atCount, others⟩ := andThen_eq_ok.mp more
      obtain ⟨rfl, -⟩ := word_ok atCount
      obtain ⟨requests, found, rfl⟩ := mapReader_eq_ok.mp others
      obtain ⟨rfl, rfl⟩ := items_ok ih found
      rw [Request.encode, encodeAll_eq]
      simp only [List.append_assoc]
    next => exact absurd more fail_ne_ok

instance : Canonical Request where
  written := request_written

/-! ## Frames -/

instance [Wire α] [Canonical α] : Canonical (Frame α) where
  written {data frame rest} taken := by
    obtain ⟨correlation, _, atCorrelation, more⟩ := andThen_eq_ok.mp taken
    obtain ⟨body, atBody, rfl⟩ := mapReader_eq_ok.mp more
    rw [Canonical.written atCorrelation, Canonical.written atBody]
    change _ = encode correlation ++ encode body ++ rest
    rw [List.append_assoc]

end Wire

end FrameLink
