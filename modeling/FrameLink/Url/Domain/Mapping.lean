import FrameLink.Text.Ranges
import FrameLink.Url.Domain.Table
/-!
What the characters of a host name stand for.
-/

namespace FrameLink.Url.Domain

open Text.Table (words number char range)

/-- Every so-many-th character of a range stands for the one as far away as the first one's. -/
structure Shift where
  first : Nat
  last : Nat
  step : Nat
  target : Nat

def Shift.ofWord (word : String) : Shift :=
  match word.splitOn ">" with
  | [characters, target] =>
    match characters.splitOn "/" with
    | [first, last] => ⟨number first, number last, 2, number target⟩
    | _ =>
      let (first, last) := range characters
      ⟨first, last, 1, number target⟩
  | _ => ⟨1, 0, 1, 0⟩

def Shift.image? (c : Char) (shift : Shift) : Option Char :=
  if shift.first ≤ c.toNat && c.toNat ≤ shift.last && (c.toNat - shift.first) % shift.step = 0 then
    some (Char.ofNat (shift.target + (c.toNat - shift.first)))
  else none

def shifts : List Shift := (words Table.shifts).map Shift.ofWord

structure Images where
  first : Nat
  images : List (List Char)

def Images.ofWord (word : String) : Images :=
  match word.splitOn ">" with
  | [first, images] =>
    ⟨number first, (images.splitOn ",").map fun image => (image.splitOn ".").map char⟩
  | _ => ⟨0, []⟩

def Images.image? (c : Char) (row : Images) : Option (List Char) :=
  if row.first ≤ c.toNat then row.images[c.toNat - row.first]? else none

def images : List Images := (words Table.images).map Images.ofWord

def known : Text.Ranges := .ofTable Table.known

def ignored : Text.Ranges := .ofTable Table.ignored

/-- What a character stands for; none when no name may have it. -/
def image? (c : Char) : Option (List Char) :=
  if c.toNat < 0x80 then some [c.toLower]
  else if !known.has c then none
  else if ignored.has c then some []
  else match shifts.findSome? (Shift.image? c) with
    | some image => some [image]
    | none => some ((images.findSome? (Images.image? c)).getD [c])

def isPlain (c : Char) : Bool := image? c == some [c]

end FrameLink.Url.Domain
