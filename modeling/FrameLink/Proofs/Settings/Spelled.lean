import Mathlib
import FrameLink.Settings.Connect
import FrameLink.Proofs.Inet.Spelling
import FrameLink.Proofs.Text.Decimal
/-!
The texts that the values of settings have. The reader of each type takes exactly its texts, each for the
value it spells.
-/

namespace FrameLink

/-- The words for a policy; letters of either case may stand in them. -/
def TimeoutPolicy.words : TimeoutPolicy → List String
  | .disconnect => ["disconnect"]
  | .failCall => ["fail-call", "fail_call", "failcall"]

namespace Settings

/-! ## Texts of values -/

class Spelled (α : Type) where
  Spells : String → α → Prop

export Spelled (Spells)

instance : Spelled UInt64 := ⟨fun text n => Numeral.Spells text n.toNat⟩

instance : Spelled UInt32 := ⟨fun text n => Numeral.Spells text n.toNat⟩

instance : Spelled UInt16 := ⟨fun text n => Numeral.Spells text n.toNat⟩

instance : Spelled Bool := ⟨fun text on => text = if on then "true" else "false"⟩

instance : Spelled TimeoutPolicy := ⟨fun text policy => Text.lowerAscii text ∈ policy.words⟩

instance : Spelled Inet.Address := ⟨Inet.Address.Spells⟩

/-- Whether a reader takes exactly the texts of its type, each for its value. -/
def Reads {α : Type} [Spelled α] (read : String → Option α) : Prop :=
  ∀ text a, read text = some a ↔ Spells text a

theorem readUpTo?_map_eq_some {α : Type} {ofNat : Nat → α} {toNat : α → Nat} {size : Nat}
    (below : ∀ a, toNat a < size) (ofNat_toNat : ∀ a, ofNat (toNat a) = a)
    (toNat_ofNat : ∀ {n}, n < size → toNat (ofNat n) = n) (text : String) (a : α) :
    (Numeral.readUpTo? (size - 1) text).map ofNat = some a ↔ Numeral.Spells text (toNat a) := by
  simp only [Option.map_eq_some_iff, Numeral.readUpTo?_eq_some]
  constructor
  · rintro ⟨n, ⟨spells, within⟩, rfl⟩
    have positive := below (ofNat n)
    rw [toNat_ofNat (by omega)]
    exact spells
  · intro spells
    exact ⟨toNat a, ⟨spells, Nat.le_sub_one_of_lt (below a)⟩, ofNat_toNat a⟩

theorem reads_millis : Reads readMillis :=
  readUpTo?_map_eq_some UInt64.toNat_lt_size (fun _ => UInt64.ofNat_toNat) UInt64.toNat_ofNat_of_lt'

theorem reads_size : Reads readSize := reads_millis

theorem reads_count : Reads readCount :=
  readUpTo?_map_eq_some UInt32.toNat_lt_size (fun _ => UInt32.ofNat_toNat) UInt32.toNat_ofNat_of_lt'

theorem reads_port : Reads readPort :=
  readUpTo?_map_eq_some UInt16.toNat_lt_size (fun _ => UInt16.ofNat_toNat) UInt16.toNat_ofNat_of_lt'

theorem reads_switch : Reads readSwitch := by
  intro text on
  unfold readSwitch
  split <;> cases on <;> simp_all [Spells]

theorem reads_policy : Reads TimeoutPolicy.ofText? := by
  intro text policy
  unfold TimeoutPolicy.ofText?
  split <;> cases policy <;> simp_all [Spells, TimeoutPolicy.words]

theorem reads_address : Reads Inet.Address.ofText? := fun _ _ => Inet.Address.ofText?_eq_some

end Settings

end FrameLink
