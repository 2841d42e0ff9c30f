import FrameLink.Wire.Basic
/-!
Wire forms made of others: options, pairs, counted lists, variants without fields, and dictionaries
whose keys stand in the order of their bytes.
-/

namespace FrameLink

/-- Texts with numbers, in the order of the texts and each text once. -/
structure Dictionary where
  entries : List (String × UInt32)
  ascending : entries.Pairwise (·.1 < ·.1)
deriving DecidableEq

namespace Dictionary

/-- A number put under a text that is there replaces the older one. -/
def insertEntry (key : String) (value : UInt32) : List (String × UInt32) → List (String × UInt32)
  | [] => [(key, value)]
  | (k, v) :: rest =>
    if key < k then (key, value) :: (k, v) :: rest
    else if key = k then (key, value) :: rest
    else (k, v) :: insertEntry key value rest

theorem key_of_mem_insertEntry {key : String} {value : UInt32} {entries : List (String × UInt32)}
    {entry : String × UInt32} (member : entry ∈ insertEntry key value entries) :
    entry.1 = key ∨ entry ∈ entries := by
  induction entries with
  | nil => exact .inl (by rw [List.mem_singleton.mp member])
  | cons head rest ih =>
    rw [insertEntry] at member
    split at member
    · rcases List.mem_cons.mp member with same | later
      · exact .inl (by rw [same])
      · exact .inr later
    · split at member
      · rcases List.mem_cons.mp member with same | later
        · exact .inl (by rw [same])
        · exact .inr (List.mem_cons_of_mem _ later)
      · rcases List.mem_cons.mp member with same | later
        · exact .inr (same ▸ List.mem_cons_self)
        · exact (ih later).imp id (List.mem_cons_of_mem _)

theorem insertEntry_ascending (key : String) (value : UInt32) {entries : List (String × UInt32)}
    (ascending : entries.Pairwise (·.1 < ·.1)) :
    (insertEntry key value entries).Pairwise (·.1 < ·.1) := by
  induction entries with
  | nil => exact List.pairwise_singleton _ _
  | cons head rest ih =>
    have ⟨first, others⟩ := List.pairwise_cons.mp ascending
    rw [insertEntry]
    split
    next before =>
      refine List.pairwise_cons.mpr ⟨fun entry member => ?_, ascending⟩
      rcases List.mem_cons.mp member with same | later
      · exact same ▸ before
      · exact String.lt_trans before (first entry later)
    next notBefore =>
      split
      next same => exact List.pairwise_cons.mpr ⟨fun entry member => same ▸ first entry member, others⟩
      next other =>
        refine List.pairwise_cons.mpr ⟨fun entry member => ?_, ih others⟩
        rcases key_of_mem_insertEntry member with same | later
        · rw [same]
          exact Std.lt_of_le_of_ne (String.not_lt.mp notBefore) (Ne.symm other)
        · exact first entry later

def empty : Dictionary := ⟨[], .nil⟩

def insert (d : Dictionary) (entry : String × UInt32) : Dictionary :=
  ⟨insertEntry entry.1 entry.2 d.entries, insertEntry_ascending _ _ d.ascending⟩

def ofList (entries : List (String × UInt32)) : Dictionary := entries.foldl insert empty

end Dictionary

namespace Wire

instance [Wire α] : Wire (Option α) where
  size
    | none => 1
    | some a => 1 + size a
  encode
    | none => [0]
    | some a => 1 :: encode a
  decode := andThen (word 1) fun tag =>
    match tag with
    | 0 => pure none
    | 1 => mapReader some decode
    | n => fail (.badTag n)

instance [Wire α] [Wire β] : Wire (α × β) where
  size pair := size pair.1 + size pair.2
  encode pair := encode pair.1 ++ encode pair.2
  decode := andThen decode fun a => mapReader (fun b => (a, b)) decode

def items (read : Reader α) : (count : Nat) → Reader (List α)
  | 0 => pure []
  | count + 1 => andThen read fun a => mapReader (a :: ·) (items read count)

def sizeAll (size : α → Nat) : List α → Nat
  | [] => 0
  | a :: rest => size a + sizeAll size rest

def sizeList (size : α → Nat) (values : List α) : Nat := 8 + sizeAll size values

def encodeList (write : α → Bytes) (values : List α) : Bytes :=
  Bytes.ofNat 8 values.length ++ values.flatMap write

instance [Wire α] : Wire (List α) where
  size := sizeList size
  encode := encodeList encode
  decode := andThen (word 8) fun count => items decode count

instance : Wire Dictionary where
  size d := sizeList size d.entries
  encode d := encodeList encode d.entries
  decode := mapReader Dictionary.ofList decode

def variant (count : Nat) (pick : Nat → Option α) : Reader α :=
  andThen (word 4) fun n =>
    match pick n with
    | some a => pure a
    | none => fail (.badVariant n count)

end Wire

end FrameLink
