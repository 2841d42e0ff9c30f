import FrameLink.Text.Utf8
/-!
The wire form of values: fixed-width little-endian numbers, counts and lengths of eight bytes, tags
of one byte for options and of four for variants. A type has a wire form when it is an instance of
`Wire`; reading takes a value off the front and leaves the rest. How long a value is on the wire is
counted before anything is written.
-/

namespace FrameLink

namespace Wire

inductive Fault where
  /-- the data ends inside a number, a tag, a count or before a character -/
  | outOfData
  /-- a text or byte string is longer than what is left -/
  | outOfBytes
  | badText (fault : Utf8.Fault)
  | badBoolean (found : Nat)
  | badCharacter
  | badTag (found : Nat)
  | badVariant (found count : Nat)
  | badAddressKind (found : Nat)
  | badIdLength (found : Nat)
  | durationOverflow
deriving DecidableEq, Repr

def Fault.message : Fault → String
  | .outOfData => "io error: unexpected end of file"
  | .outOfBytes => "io error: "
  | .badText fault => "string is not valid utf8: " ++ fault.message
  | .badBoolean n => s!"invalid u8 while decoding bool, expected 0 or 1, found {n}"
  | .badCharacter => "char is not valid"
  | .badTag n => s!"tag for enum is not valid, found {n}"
  | .badVariant n count =>
    "invalid value: integer \x60" ++ toString n ++ "\x60, expected variant index 0 <= i < " ++
      toString count
  | .badAddressKind n =>
    "invalid value: integer \x60" ++ toString n ++ "\x60, expected \x60V4\x60 or \x60V6\x60"
  | .badIdLength n => s!"UUID parsing failed: invalid length: expected 16 bytes, found {n}"
  | .durationOverflow => "overflow deserializing Duration"

abbrev Reader (α : Type) := Bytes → Except Fault (α × Bytes)

end Wire

class Wire (α : Type) where
  /-- how many bytes are written -/
  size : α → Nat
  encode : α → Bytes
  decode : Wire.Reader α

namespace Wire

/-- The first `n` bytes, or `fault` when there are fewer. -/
def take (fault : Fault) (n : Nat) : Reader Bytes := fun data =>
  let front := data.take n
  if front.length = n then .ok (front, data.drop n) else .error fault

def word (width : Nat) : Reader Nat := fun data =>
  match take .outOfData width data with
  | .ok (bytes, rest) => .ok (bytes.toNat, rest)
  | .error fault => .error fault

def andThen (first : Reader α) (next : α → Reader β) : Reader β := fun data =>
  match first data with
  | .ok (a, rest) => next a rest
  | .error fault => .error fault

def pure (a : α) : Reader α := fun data => .ok (a, data)

def fail (fault : Fault) : Reader α := fun _ => .error fault

def mapReader (f : α → β) (read : Reader α) : Reader β := andThen read fun a => pure (f a)

instance : Wire UInt8 where
  size _ := 1
  encode n := Bytes.ofNat 1 n.toNat
  decode := mapReader UInt8.ofNat (word 1)

instance : Wire UInt16 where
  size _ := 2
  encode n := Bytes.ofNat 2 n.toNat
  decode := mapReader UInt16.ofNat (word 2)

instance : Wire UInt32 where
  size _ := 4
  encode n := Bytes.ofNat 4 n.toNat
  decode := mapReader UInt32.ofNat (word 4)

instance : Wire UInt64 where
  size _ := 8
  encode n := Bytes.ofNat 8 n.toNat
  decode := mapReader UInt64.ofNat (word 8)

/-! Signed numbers are written in two's complement. -/

instance : Wire Int8 where
  size _ := 1
  encode n := Bytes.ofNat 1 n.toUInt8.toNat
  decode := mapReader (fun n => (UInt8.ofNat n).toInt8) (word 1)

instance : Wire Int16 where
  size _ := 2
  encode n := Bytes.ofNat 2 n.toUInt16.toNat
  decode := mapReader (fun n => (UInt16.ofNat n).toInt16) (word 2)

instance : Wire Int32 where
  size _ := 4
  encode n := Bytes.ofNat 4 n.toUInt32.toNat
  decode := mapReader (fun n => (UInt32.ofNat n).toInt32) (word 4)

instance : Wire Int64 where
  size _ := 8
  encode n := Bytes.ofNat 8 n.toUInt64.toNat
  decode := mapReader (fun n => (UInt64.ofNat n).toInt64) (word 8)

instance : Wire Bool where
  size _ := 1
  encode b := [if b then 1 else 0]
  decode := andThen (word 1) fun n =>
    match n with
    | 0 => pure false
    | 1 => pure true
    | n => fail (.badBoolean n)

instance : Wire Unit where
  size _ := 0
  encode _ := []
  decode := pure ()

def textOf (bytes : Bytes) : Reader String := fun rest =>
  match Utf8.decode bytes with
  | .ok text => .ok (text, rest)
  | .error fault => .error (.badText fault)

instance : Wire String where
  size text := 8 + text.utf8ByteSize
  encode text := Bytes.ofNat 8 text.utf8ByteSize ++ Bytes.ofText text
  decode := andThen (word 8) fun n => andThen (take .outOfBytes n) textOf

/-- A character stands as its UTF-8 bytes; the first byte tells how many there are. -/
instance : Wire Char where
  size c := c.utf8Size
  encode c := Bytes.ofText (String.singleton c)
  decode data :=
    match data with
    | [] => .error .outOfData
    | first :: _ =>
      let width := Utf8.width first
      let front := data.take width
      if width = 0 || front.length < width then .error .badCharacter
      else match Utf8.decode front with
        | .ok text =>
          match text.toList with
          | [c] => .ok (c, data.drop width)
          | _ => .error .badCharacter
        | .error _ => .error .badCharacter

end Wire

end FrameLink
