import FrameLink.Wire.Basic
/-!
Numbers that tie a response to its request. Zero ties nothing; a counter hands out the others from
one on.
-/

namespace FrameLink

structure Correlation where
  value : UInt64
deriving DecidableEq, Inhabited

namespace Correlation

def none : Correlation := ⟨0⟩

def isSome (id : Correlation) : Bool := id.value != 0

def text (id : Correlation) : String := s!"#{id.value}"

def compare (a b : Correlation) : Ordering := Ord.compare a.value b.value

structure Counter where
  next : UInt64 := 1
deriving DecidableEq, Inhabited

def Counter.draw (counter : Counter) : Correlation × Counter := (⟨counter.next⟩, ⟨counter.next + 1⟩)

def Counter.draws : (count : Nat) → Counter → List Correlation
  | 0, _ => []
  | count + 1, counter => counter.draw.1 :: draws count counter.draw.2

end Correlation

instance : Wire Correlation where
  size id := Wire.size id.value
  encode id := Wire.encode id.value
  decode := Wire.mapReader Correlation.mk Wire.decode

end FrameLink
