import FrameLink.Bytes
/-!
Percent encoding: which characters each part of a URL spells as `%` and two digits, byte by byte.
Everything beyond ASCII is spelled so in every part.
-/

namespace FrameLink.Url

/-- The ASCII characters that a part spells with percent signs beside the controls. -/
abbrev Part := List Char

def fragmentPart : Part := [' ', '"', '<', '>', '\x60']

def pathPart : Part := fragmentPart ++ ['#', '?', '\x7b', '\x7d']

def queryPart : Part := [' ', '"', '#', '<', '>', '\x27']

def userPart : Part := pathPart ++ ['/', ':', ';', '=', '@', '[', '\\', ']', '^', '|']

def upperHexDigit (n : Nat) : Char :=
  if n < 10 then Char.ofNat (48 + n) else Char.ofNat (55 + n)

def percent (byte : UInt8) : List Char :=
  ['%', upperHexDigit (byte.toNat / 16), upperHexDigit (byte.toNat % 16)]

def encodeChar (part : Part) (c : Char) : List Char :=
  if c.toNat < 0x20 || 0x7F ≤ c.toNat || part.contains c then
    (Bytes.ofText (String.singleton c)).flatMap percent
  else [c]

def encode (part : Part) (cs : List Char) : List Char := cs.flatMap (encodeChar part)

/-- A percent sign that no two digits follow stands for itself. -/
def decodePercent : Bytes → Bytes
  | 0x25 :: high :: low :: rest =>
    match Bytes.hexValue? (Char.ofNat high.toNat), Bytes.hexValue? (Char.ofNat low.toNat) with
    | some h, some l => UInt8.ofNat (16 * h + l) :: decodePercent rest
    | _, _ => 0x25 :: decodePercent (high :: low :: rest)
  | byte :: rest => byte :: decodePercent rest
  | [] => []

end FrameLink.Url
