import FrameLink.Bytes
/-!
Reading bytes as UTF-8 text. A text that cannot be read is described by its first fault: how many
bytes before it are good, and how many bytes the bad sequence has, unless the data simply ends
inside a sequence. The main statements are `decode_ofText` and `ofText_of_decode`: what was written as
text reads back, and what is read is what was written.
-/

namespace FrameLink.Utf8

/-- `length` is absent when the data ends before the sequence does. -/
structure Fault where
  position : Nat
  length : Option Nat
deriving DecidableEq, Repr

def Fault.message (fault : Fault) : String :=
  match fault.length with
  | some n => s!"invalid utf-8 sequence of {n} bytes from index {fault.position}"
  | none => s!"incomplete utf-8 byte sequence from index {fault.position}"

/-- How many bytes a sequence has by its first byte; 0 for a byte that starts none. -/
def width (first : UInt8) : Nat :=
  if first < 0x80 then 1
  else if first < 0xC2 then 0
  else if first < 0xE0 then 2
  else if first < 0xF0 then 3
  else if first < 0xF5 then 4
  else 0

def isTail (byte : UInt8) : Bool := 0x80 ≤ byte && byte < 0xC0

/-- The second byte is narrowed after E0, ED, F0 and F4, so that no character has two spellings, no
surrogate is spelled and nothing lies beyond U+10FFFF. -/
def isSecond (first second : UInt8) : Bool :=
  if first = 0xE0 then 0xA0 ≤ second && second < 0xC0
  else if first = 0xED then 0x80 ≤ second && second < 0xA0
  else if first = 0xF0 then 0x90 ≤ second && second < 0xC0
  else if first = 0xF4 then 0x80 ≤ second && second < 0x90
  else isTail second

inductive Scan where
  | done
  | sequence (width : Nat)
  | broken (length : Nat)
  | cut
deriving DecidableEq, Repr

def scanTail (width seen : Nat) : Bytes → Scan
  | bytes =>
    if width ≤ seen then .sequence width
    else match bytes with
      | [] => .cut
      | byte :: rest => if isTail byte then scanTail width (seen + 1) rest else .broken seen

def scan : Bytes → Scan
  | [] => .done
  | first :: rest =>
    match width first, rest with
    | 0, _ => .broken 1
    | 1, _ => .sequence 1
    | _, [] => .cut
    | n, second :: rest => if isSecond first second then scanTail n 2 rest else .broken 1

def faultFrom (position : Nat) (skip : Nat) : Bytes → Option Fault
  | [] => none
  | bytes@(_ :: rest) =>
    match skip with
    | skip + 1 => faultFrom (position + 1) skip rest
    | 0 =>
      match scan bytes with
      | .done => none
      | .sequence n => faultFrom (position + 1) (n - 1) rest
      | .broken n => some ⟨position, some n⟩
      | .cut => some ⟨position, none⟩

def fault? (bytes : Bytes) : Option Fault := faultFrom 0 0 bytes

def decode (bytes : Bytes) : Except Fault String :=
  match String.fromUTF8? bytes.toByteArray with
  | some text => .ok text
  | none => .error ((fault? bytes).getD ⟨0, none⟩)

theorem decode_ofText (text : String) : decode (Bytes.ofText text) = .ok text := by
  have same : (Bytes.ofText text).toByteArray = text.toByteArray := by
    apply ByteArray.ext
    apply Array.toList_inj.mp
    simp [Bytes.ofText]
  simp only [decode, same, String.fromUTF8?, text.isValidUTF8, dite_true]
  rfl

theorem ofText_of_decode {bytes : Bytes} {text : String} (decoded : decode bytes = .ok text) :
    Bytes.ofText text = bytes := by
  unfold decode String.fromUTF8? at decoded
  split at decoded
  next spelled found =>
    cases decoded
    split at found
    next valid =>
      cases found
      change (List.toByteArray bytes).data.toList = bytes
      simp
    next => cases found
  next => cases decoded

/-- Each bad sequence is replaced by one replacement character. -/
def lossyFrom (skip : Nat) (text : String) : Bytes → String
  | [] => text
  | bytes@(_ :: rest) =>
    match skip with
    | skip + 1 => lossyFrom skip text rest
    | 0 =>
      match scan bytes with
      | .done => text
      | .sequence n =>
        let shown := (String.fromUTF8? (bytes.take n).toByteArray).getD "\uFFFD"
        lossyFrom (n - 1) (text ++ shown) rest
      | .broken n => lossyFrom (n - 1) (text.push '\uFFFD') rest
      | .cut => text.push '\uFFFD'

def lossy (bytes : Bytes) : String := lossyFrom 0 "" bytes

end FrameLink.Utf8
