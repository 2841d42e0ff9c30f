import FrameLink.Proofs.Wire.ReadBack
import FrameLink.Frame
/-!
No value is longer when it is written again than what it was read from. So what passed a limit on the
way in passes the same limit on the way out.
-/

namespace FrameLink

namespace Wire

variable {α β : Type}

/-- Takes at least so many bytes for each value that it reads. -/
def Spends (read : Reader α) (cost : α → Nat) : Prop :=
  ∀ data a rest, read data = .ok (a, rest) → cost a + rest.length ≤ data.length

theorem Spends.andThen {first : Reader α} {next : α → Reader β} {price : α → Nat} {cost : β → Nat}
    (spends : Spends first price) (after : ∀ a, Spends (next a) fun b => cost b - price a) :
    Spends (andThen first next) cost := by
  intro data b rest taken
  unfold Wire.andThen at taken
  split at taken
  next a middle read =>
    have paid := spends data a middle read
    have left := after a middle b rest taken
    dsimp only at left
    omega
  next => cases taken

theorem Spends.map {read : Reader α} {price : α → Nat} {cost : β → Nat} {f : α → β}
    (spends : Spends read price) (fair : ∀ a, cost (f a) ≤ price a) :
    Spends (mapReader f read) cost := by
  apply spends.andThen
  intro a data b rest taken
  cases taken
  have := fair a
  dsimp only
  omega

theorem spends_word (width : Nat) : Spends (word width) fun _ => width := by
  intro data n rest taken
  unfold word take at taken
  dsimp only at taken
  split at taken
  next bytes left read =>
    split at read
    next enough =>
      cases read
      cases taken
      rw [List.length_take] at enough
      have shorter : (data.drop width).length = data.length - width := List.length_drop
      dsimp only
      omega
    next => cases read
  next => cases taken

theorem Spends.items {read : Reader α} {size : α → Nat} (spends : Spends read size) (count : Nat) :
    Spends (items read count) (sizeAll size) := by
  induction count with
  | zero =>
    intro data values rest taken
    cases taken
    exact (Nat.zero_add _).le
  | succ count ih =>
    apply spends.andThen
    intro a
    apply ih.map
    intro values
    exact (Nat.add_sub_cancel_left ..).le

/-- What is read takes no more bytes when it is written again. -/
class Thrifty (α : Type) [Wire α] : Prop where
  spends : Spends (decode : Reader α) size

instance : Thrifty UInt8 where
  spends := (spends_word 1).map fun _ => le_refl _

instance : Thrifty UInt64 where
  spends := (spends_word 8).map fun _ => le_refl _

instance [Wire α] [Thrifty α] : Thrifty (List α) where
  spends := by
    apply (spends_word 8).andThen
    intro count data values rest taken
    have spent := Thrifty.spends.items count data values rest taken
    change 8 + sizeAll size values - 8 + rest.length ≤ data.length
    omega

instance : Thrifty Correlation where
  spends := Thrifty.spends.map fun _ => le_refl _

instance [Wire α] [Thrifty α] : Thrifty (Frame α) where
  spends := by
    apply Thrifty.spends.andThen
    intro correlation
    apply Thrifty.spends.map
    intro body
    exact (Nat.add_sub_cancel_left ..).le

end Wire

/-- A frame that was read within a limit can be written within the same limit. -/
theorem Frame.size_le_of_decode {α : Type} [Wire α] [Wire.Thrifty α] {data : Bytes} {limit : Nat}
    {frame : Frame α} (decoded : Frame.decode data limit = .ok frame) :
    Wire.size frame ≤ limit := by
  unfold Frame.decode at decoded
  dsimp only at decoded
  split at decoded
  next => cases decoded
  next within =>
    split at decoded
    next read rest taken =>
      cases decoded
      have spent := Wire.Thrifty.spends data frame rest taken
      omega
    next => cases decoded

end FrameLink
