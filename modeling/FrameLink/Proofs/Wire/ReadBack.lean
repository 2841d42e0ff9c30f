import Mathlib
import FrameLink.Wire.Basic
import FrameLink.Wire.Compound
/-!
What is written reads back, in front of anything: the reader takes the bytes of a value, all of them and
no more. The laws of a type are made from those of its parts, as its reader is made from theirs.
-/

namespace FrameLink.Bytes

theorem toNat_ofNat (width n : Nat) (fits : n < 256 ^ width) : toNat (ofNat width n) = n := by
  induction width generalizing n with
  | zero => simp [ofNat, toNat]; simp at fits; omega
  | succ width ih =>
    have high : n / 256 < 256 ^ width := by
      rw [Nat.pow_succ] at fits
      exact Nat.div_lt_of_lt_mul (by omega)
    simp only [ofNat, toNat, ih _ high, UInt8.toNat_ofNat']
    omega

theorem toNat_lt (bytes : Bytes) : toNat bytes < 256 ^ bytes.length := by
  induction bytes with
  | nil => simp [toNat]
  | cons byte rest ih =>
    have small := byte.toNat_lt
    simp only [toNat, List.length_cons, Nat.pow_succ]
    omega

end FrameLink.Bytes

namespace FrameLink.Wire

variable {α β : Type}

def Reads (read : Reader α) (bytes : Bytes) (a : α) : Prop :=
  ∀ rest, read (bytes ++ rest) = .ok (a, rest)

theorem reads_pure (a : α) : Reads (pure a) [] a := fun _ => rfl

theorem Reads.andThen {first : Reader α} {next : α → Reader β} {front back : Bytes} {a : α} {b : β}
    (reads : Reads first front a) (after : Reads (next a) back b) :
    Reads (andThen first next) (front ++ back) b := by
  intro rest
  simp only [Wire.andThen, List.append_assoc, reads (back ++ rest), after rest]

theorem Reads.map {read : Reader α} {bytes : Bytes} {a : α} (reads : Reads read bytes a)
    (f : α → β) : Reads (mapReader f read) bytes (f a) := by
  have both : Reads (mapReader f read) (bytes ++ []) (f a) := reads.andThen (reads_pure (f a))
  rwa [List.append_nil] at both

theorem reads_take (fault : Fault) (bytes : Bytes) : Reads (take fault bytes.length) bytes bytes := by
  intro rest
  simp [take]

theorem reads_word (width n : Nat) (fits : n < 256 ^ width) :
    Reads (word width) (Bytes.ofNat width n) n := by
  intro rest
  have taken := reads_take .outOfData (Bytes.ofNat width n) rest
  rw [Bytes.length_ofNat] at taken
  simp only [word, taken, Bytes.toNat_ofNat width n fits]

theorem reads_items {read : Reader α} {write : α → Bytes} {values : List α}
    (each : ∀ a ∈ values, Reads read (write a) a) :
    Reads (items read values.length) (values.flatMap write) values := by
  induction values with
  | nil => exact reads_pure []
  | cons a values ih =>
    have others := ih fun b member => each b (List.mem_cons_of_mem _ member)
    exact (each a (List.mem_cons_self ..)).andThen (others.map (a :: ·))

/-- The counted size is that of what is written, and what is written reads back. Lengths and counts take
eight bytes, so nothing longer than they can tell is asked for. -/
class Lawful (α : Type) [Wire α] : Prop where
  length_encode (a : α) : (encode a).length = size a
  reads (a : α) : size a < 256 ^ 8 → Reads decode (encode a) a

export Lawful (length_encode)

/-- Every value takes at least a byte, so a list has no more items than it has bytes. -/
class Tangible (α : Type) [Wire α] : Prop where
  size_pos (a : α) : 0 < size a

/-! ## Numbers -/

instance : Lawful UInt8 where
  length_encode n := Bytes.length_ofNat 1 n.toNat
  reads n _ := by
    have reads := (reads_word 1 n.toNat n.toNat_lt).map UInt8.ofNat
    rwa [UInt8.ofNat_toNat] at reads

instance : Lawful UInt16 where
  length_encode n := Bytes.length_ofNat 2 n.toNat
  reads n _ := by
    have reads := (reads_word 2 n.toNat n.toNat_lt).map UInt16.ofNat
    rwa [UInt16.ofNat_toNat] at reads

instance : Lawful UInt32 where
  length_encode n := Bytes.length_ofNat 4 n.toNat
  reads n _ := by
    have reads := (reads_word 4 n.toNat n.toNat_lt).map UInt32.ofNat
    rwa [UInt32.ofNat_toNat] at reads

instance : Lawful UInt64 where
  length_encode n := Bytes.length_ofNat 8 n.toNat
  reads n _ := by
    have reads := (reads_word 8 n.toNat n.toNat_lt).map UInt64.ofNat
    rwa [UInt64.ofNat_toNat] at reads

instance : Lawful Int8 where
  length_encode n := Bytes.length_ofNat 1 n.toUInt8.toNat
  reads n _ := by
    have reads := (reads_word 1 n.toUInt8.toNat n.toUInt8.toNat_lt).map fun m => (UInt8.ofNat m).toInt8
    rwa [UInt8.ofNat_toNat, Int8.toInt8_toUInt8] at reads

instance : Lawful Int16 where
  length_encode n := Bytes.length_ofNat 2 n.toUInt16.toNat
  reads n _ := by
    have reads := (reads_word 2 n.toUInt16.toNat n.toUInt16.toNat_lt).map
      fun m => (UInt16.ofNat m).toInt16
    rwa [UInt16.ofNat_toNat, Int16.toInt16_toUInt16] at reads

instance : Lawful Int32 where
  length_encode n := Bytes.length_ofNat 4 n.toUInt32.toNat
  reads n _ := by
    have reads := (reads_word 4 n.toUInt32.toNat n.toUInt32.toNat_lt).map
      fun m => (UInt32.ofNat m).toInt32
    rwa [UInt32.ofNat_toNat, Int32.toInt32_toUInt32] at reads

instance : Lawful Int64 where
  length_encode n := Bytes.length_ofNat 8 n.toUInt64.toNat
  reads n _ := by
    have reads := (reads_word 8 n.toUInt64.toNat n.toUInt64.toNat_lt).map
      fun m => (UInt64.ofNat m).toInt64
    rwa [UInt64.ofNat_toNat, Int64.toInt64_toUInt64] at reads

instance : Lawful Bool where
  length_encode _ := rfl
  reads
    | false, _ => (reads_word 1 0 (by decide)).andThen (reads_pure false)
    | true, _ => (reads_word 1 1 (by decide)).andThen (reads_pure true)

instance : Lawful Unit where
  length_encode _ := rfl
  reads _ _ := reads_pure ()

instance : Tangible UInt8 := ⟨fun _ => Nat.one_pos⟩

instance : Tangible UInt32 := ⟨fun _ => by change 0 < 4; decide⟩

/-! ## Texts and characters -/

theorem length_ofText (text : String) : (Bytes.ofText text).length = text.utf8ByteSize := by
  simp [Bytes.ofText]

theorem reads_textOf (text : String) : Reads (textOf (Bytes.ofText text)) [] text := by
  intro rest
  simp [textOf, Utf8.decode_ofText]

instance : Lawful String where
  length_encode text := by
    change (Bytes.ofNat 8 text.utf8ByteSize ++ Bytes.ofText text).length = 8 + text.utf8ByteSize
    rw [List.length_append, Bytes.length_ofNat, length_ofText]
  reads text fits := by
    change 8 + text.utf8ByteSize < 256 ^ 8 at fits
    have body := (reads_take .outOfBytes (Bytes.ofText text)).andThen (reads_textOf text)
    rw [length_ofText, List.append_nil] at body
    exact (reads_word 8 text.utf8ByteSize (by omega)).andThen body

instance : Tangible String := ⟨fun text => by change 0 < 8 + text.utf8ByteSize; omega⟩

theorem ofText_singleton (c : Char) :
    Bytes.ofText (String.singleton c) = String.utf8EncodeChar c := by
  simp [Bytes.ofText, String.toByteArray_singleton, List.utf8Encode_singleton]

theorem width_ofNat {n : Nat} (small : n < 256) : Utf8.width (UInt8.ofNat n) =
    if n < 0x80 then 1 else if n < 0xC2 then 0 else if n < 0xE0 then 2
    else if n < 0xF0 then 3 else if n < 0xF5 then 4 else 0 := by
  have same : (UInt8.ofNat n).toNat = n := by
    rw [UInt8.toNat_ofNat']
    omega
  simp only [Utf8.width, UInt8.lt_iff_toNat_lt, same]
  rfl

theorem width_utf8EncodeChar (c : Char) :
    ∃ first more, String.utf8EncodeChar c = first :: more ∧ Utf8.width first = c.utf8Size := by
  have valid : c.val.toNat < 0x110000 := by
    rcases c.valid with low | high
    · exact Nat.lt_trans low (by decide)
    · exact high.2
  rw [← String.length_utf8EncodeChar]
  unfold String.utf8EncodeChar
  dsimp only
  split
  next one =>
    refine ⟨_, _, rfl, ?_⟩
    rw [width_ofNat (by omega), if_pos (by omega)]
    rfl
  next =>
    split
    next two =>
      refine ⟨_, _, rfl, ?_⟩
      rw [width_ofNat (by omega), if_neg (by omega), if_neg (by omega), if_pos (by omega)]
      rfl
    next =>
      split
      next three =>
        refine ⟨_, _, rfl, ?_⟩
        rw [width_ofNat (by omega), if_neg (by omega), if_neg (by omega), if_neg (by omega),
          if_pos (by omega)]
        rfl
      next four =>
        refine ⟨_, _, rfl, ?_⟩
        rw [width_ofNat (by omega), if_neg (by omega), if_neg (by omega), if_neg (by omega),
          if_neg (by omega), if_pos (by omega)]
        rfl

instance : Lawful Char where
  length_encode c := by
    change (Bytes.ofText (String.singleton c)).length = c.utf8Size
    rw [ofText_singleton, String.length_utf8EncodeChar]
  reads c _ rest := by
    obtain ⟨first, more, bytes, width⟩ := width_utf8EncodeChar c
    have length : (first :: more).length = c.utf8Size := by
      rw [← bytes, String.length_utf8EncodeChar]
    have whole : encode c = first :: more := (ofText_singleton c).trans bytes
    have text : Utf8.decode (first :: more) = .ok (String.singleton c) := by
      rw [← whole]
      exact Utf8.decode_ofText (String.singleton c)
    have taken : (first :: (more ++ rest)).take c.utf8Size = first :: more := List.take_left' length
    have dropped : (first :: (more ++ rest)).drop c.utf8Size = rest := List.drop_left' length
    have some : c.utf8Size ≠ 0 := Nat.pos_iff_ne_zero.mp c.utf8Size_pos
    rw [whole, List.cons_append]
    simp only [decode, width, taken, dropped, length, text]
    simp [some]

/-! ## Options, pairs and lists -/

instance [Wire α] [Lawful α] : Lawful (Option α) where
  length_encode
    | none => rfl
    | some a => by
      change (1 :: encode a).length = 1 + size a
      rw [List.length_cons, length_encode, Nat.add_comm]
  reads
    | none, _ => (reads_word 1 0 (by decide)).andThen (reads_pure none)
    | some a, fits => by
      change 1 + size a < 256 ^ 8 at fits
      have body := (Lawful.reads a (by omega)).map some
      exact (reads_word 1 1 (by decide)).andThen body

instance [Wire α] : Tangible (Option α) where
  size_pos
    | none => Nat.one_pos
    | some a => by
      change 0 < 1 + size a
      omega

instance [Wire α] [Wire β] [Lawful α] [Lawful β] : Lawful (α × β) where
  length_encode pair := by
    change (encode pair.1 ++ encode pair.2).length = size pair.1 + size pair.2
    rw [List.length_append, length_encode, length_encode]
  reads pair fits := by
    change size pair.1 + size pair.2 < 256 ^ 8 at fits
    have second := (Lawful.reads pair.2 (by omega)).map fun b => (pair.1, b)
    exact (Lawful.reads pair.1 (by omega)).andThen second

instance [Wire α] [Wire β] [Tangible α] : Tangible (α × β) where
  size_pos pair := Nat.lt_of_lt_of_le (Tangible.size_pos pair.1) (Nat.le_add_right _ (size pair.2))

theorem length_flatMap {write : α → Bytes} {size : α → Nat}
    (each : ∀ a, (write a).length = size a) (values : List α) :
    (values.flatMap write).length = sizeAll size values := by
  induction values with
  | nil => rfl
  | cons a values ih => rw [List.flatMap_cons, List.length_append, each, ih, sizeAll]

theorem size_le_sizeAll (size : α → Nat) {values : List α} {a : α} (member : a ∈ values) :
    size a ≤ sizeAll size values := by
  induction values with
  | nil => cases member
  | cons b values ih =>
    rw [sizeAll]
    rcases List.mem_cons.mp member with rfl | later
    · exact Nat.le_add_right _ _
    · exact Nat.le_add_left_of_le (ih later)

theorem length_le_sizeAll {size : α → Nat} (each : ∀ a, 0 < size a) (values : List α) :
    values.length ≤ sizeAll size values := by
  induction values with
  | nil => exact Nat.zero_le _
  | cons a values ih =>
    have first := each a
    rw [List.length_cons, sizeAll]
    omega

instance [Wire α] [Lawful α] [Tangible α] : Lawful (List α) where
  length_encode values := by
    change (Bytes.ofNat 8 values.length ++ values.flatMap encode).length = 8 + sizeAll size values
    rw [List.length_append, Bytes.length_ofNat, length_flatMap length_encode]
  reads values fits := by
    change 8 + sizeAll size values < 256 ^ 8 at fits
    have few := length_le_sizeAll Tangible.size_pos values
    have each : ∀ a ∈ values, Reads decode (encode a) a := by
      intro a member
      have part := size_le_sizeAll size member
      exact Lawful.reads a (by omega)
    exact (reads_word 8 values.length (by omega)).andThen (reads_items each)

instance [Wire α] : Tangible (List α) where
  size_pos values := by
    change 0 < 8 + sizeAll size values
    omega

/-! ## Dictionaries -/

theorem insertEntry_last (key : String) (value : UInt32) {entries : List (String × UInt32)}
    (behind : ∀ entry ∈ entries, entry.1 < key) :
    Dictionary.insertEntry key value entries = entries ++ [(key, value)] := by
  induction entries with
  | nil => rfl
  | cons head rest ih =>
    have before := behind head (List.mem_cons_self ..)
    have others := ih fun entry member => behind entry (List.mem_cons_of_mem _ member)
    rw [Dictionary.insertEntry, if_neg (String.lt_asymm before),
      if_neg (fun same => String.lt_irrefl _ (same ▸ before)), others, List.cons_append]

theorem entries_foldl_insert (entries : List (String × UInt32)) (front : Dictionary)
    (ascending : (front.entries ++ entries).Pairwise (·.1 < ·.1)) :
    (entries.foldl Dictionary.insert front).entries = front.entries ++ entries := by
  induction entries generalizing front with
  | nil => exact (List.append_nil _).symm
  | cons entry entries ih =>
    have behind : ∀ earlier ∈ front.entries, earlier.1 < entry.1 := fun earlier member =>
      (List.pairwise_append.mp ascending).2.2 earlier member entry (List.mem_cons_self ..)
    have last : (front.insert entry).entries = front.entries ++ [entry] :=
      insertEntry_last entry.1 entry.2 behind
    have parts : front.entries ++ entry :: entries = (front.insert entry).entries ++ entries := by
      rw [last, List.append_assoc, List.singleton_append]
    rw [parts] at ascending ⊢
    exact ih (front.insert entry) ascending

theorem eq_of_entries {d e : Dictionary} (same : d.entries = e.entries) : d = e := by
  cases d
  cases e
  cases same
  rfl

theorem ofList_entries (d : Dictionary) : Dictionary.ofList d.entries = d :=
  eq_of_entries (entries_foldl_insert d.entries Dictionary.empty d.ascending)

instance : Lawful Dictionary where
  length_encode d := length_encode d.entries
  reads d fits := by
    have reads := (Lawful.reads d.entries fits).map Dictionary.ofList
    rwa [ofList_entries] at reads

end FrameLink.Wire
