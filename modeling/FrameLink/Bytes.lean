/-!
Byte strings as lists: little-endian words of a fixed width, and hexadecimal text. The main statement
is `ofNat_toNat`: each word of a width has one spelling.
-/

namespace FrameLink

abbrev Bytes := List UInt8

namespace Bytes

/-- The `width` low bytes of a number, the lowest first. -/
def ofNat : (width : Nat) → Nat → Bytes
  | 0, _ => []
  | width + 1, n => UInt8.ofNat n :: ofNat width (n / 256)

def toNat : Bytes → Nat
  | [] => 0
  | byte :: rest => byte.toNat + 256 * toNat rest

theorem length_ofNat (width n : Nat) : (ofNat width n).length = width := by
  induction width generalizing n with
  | zero => rfl
  | succ width ih => simp [ofNat, ih]

theorem ofNat_toNat (bytes : Bytes) : ofNat bytes.length (toNat bytes) = bytes := by
  induction bytes with
  | nil => rfl
  | cons byte rest ih =>
    have small := byte.toNat_lt
    have low : UInt8.ofNat (byte.toNat + 256 * toNat rest) = byte := by
      apply UInt8.toNat_inj.mp
      rw [UInt8.toNat_ofNat']
      omega
    have high : (byte.toNat + 256 * toNat rest) / 256 = toNat rest := by omega
    simp only [toNat, List.length_cons, ofNat, low, high, ih]

def hexDigit (n : Nat) : Char :=
  if n < 10 then Char.ofNat (48 + n) else Char.ofNat (87 + n)

def hexValue? (c : Char) : Option Nat :=
  if '0' ≤ c ∧ c ≤ '9' then some (c.toNat - 48)
  else if 'a' ≤ c ∧ c ≤ 'f' then some (c.toNat - 87)
  else if 'A' ≤ c ∧ c ≤ 'F' then some (c.toNat - 55)
  else none

/-- Two lower-case digits a byte. -/
def hex (bytes : Bytes) : String :=
  bytes.foldl (fun text byte =>
    (text.push (hexDigit (byte.toNat / 16))).push (hexDigit (byte.toNat % 16))) ""

def ofHexDigits? : List Char → Option Bytes
  | [] => some []
  | high :: low :: rest => do
    let high ← hexValue? high
    let low ← hexValue? low
    let rest ← ofHexDigits? rest
    return UInt8.ofNat (16 * high + low) :: rest
  | [_] => none

def ofHex? (text : String) : Option Bytes := ofHexDigits? text.toList

def ofText (text : String) : Bytes := text.toByteArray.data.toList

end Bytes

end FrameLink
