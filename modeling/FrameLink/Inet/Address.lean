import FrameLink.Text.Numeral
import FrameLink.Text.Quoted
/-!
Internet addresses and their texts. Reading is strict: four decimal octets without leading zeros,
or groups of at most four hexadecimal digits with one gap, of which the last two may be spelled as
four octets. Printing closes the longest gap of two groups or more.
-/

namespace FrameLink.Inet

inductive Address where
  | v4 (bits : BitVec 32)
  | v6 (bits : BitVec 128)
deriving DecidableEq

instance : Inhabited Address := ⟨.v4 0⟩

structure Endpoint where
  address : Address
  port : UInt16
deriving DecidableEq, Inhabited

namespace Address

def loopback : Address := .v4 0x7F000001

def ofOctets (octets : List Nat) : BitVec 32 :=
  BitVec.ofNat 32 (octets.foldl (fun bits octet => 256 * bits + octet) 0)

def ofGroups (groups : List Nat) : BitVec 128 :=
  BitVec.ofNat 128 (groups.foldl (fun bits group => 65536 * bits + group) 0)

def digitsOf (base : Nat) : (count n : Nat) → List Nat
  | 0, _ => []
  | count + 1, n => digitsOf base count (n / base) ++ [n % base]

def octets (bits : BitVec 32) : List Nat := digitsOf 256 4 bits.toNat

def groups (bits : BitVec 128) : List Nat := digitsOf 65536 8 bits.toNat

/-! Reading. A reader takes characters off the front, or declines. -/

abbrev Reader (α : Type) := List Char → Option (α × List Char)

def hexDigitValue? (c : Char) : Option Nat :=
  if '0' ≤ c ∧ c ≤ '9' then some (c.toNat - 48)
  else if 'a' ≤ c ∧ c ≤ 'f' then some (c.toNat - 87)
  else if 'A' ≤ c ∧ c ≤ 'F' then some (c.toNat - 55)
  else none

/-- Takes every digit there is; more than `most` of them are refused. -/
def readNumber (digit? : Char → Option Nat) (base most : Nat) : Reader Nat := fun cs =>
  let digits := cs.takeWhile fun c => (digit? c).isSome
  if digits.isEmpty || most < digits.length then none
  else some (digits.foldl (fun n c => base * n + (digit? c).getD 0) 0, cs.drop digits.length)

def readOctet : Reader Nat := fun cs => do
  let (n, rest) ← readNumber Numeral.digit? 10 3 cs
  if 255 < n || (cs.head? == some '0' && 1 < cs.length - rest.length) then none
  return (n, rest)

/-- What `read` takes; after the first time a separator stands before it. -/
def afterMark (mark : Char) (first : Bool) (read : Reader α) : Reader α := fun cs =>
  if first then read cs
  else match cs with
    | c :: rest => if c = mark then read rest else none
    | [] => none

def readOctets : Reader (List Nat) := fun cs => do
  let (a, cs) ← readOctet cs
  let (b, cs) ← afterMark '.' false readOctet cs
  let (c, cs) ← afterMark '.' false readOctet cs
  let (d, cs) ← afterMark '.' false readOctet cs
  return ([a, b, c, d], cs)

/-- Reads at most `room` groups and tells whether the last two were spelled as octets. -/
def readGroups : (room : Nat) → (first : Bool) → List Char → List Nat × Bool × List Char
  | 0, _, cs => ([], false, cs)
  | room + 1, first, cs =>
    match (if room = 0 then none else afterMark ':' first readOctets cs) with
    | some ([a, b, c, d], rest) => ([256 * a + b, 256 * c + d], true, rest)
    | _ =>
      match afterMark ':' first (readNumber hexDigitValue? 16 4) cs with
      | some (group, rest) =>
        let (more, octets, rest) := readGroups room false rest
        (group :: more, octets, rest)
      | none => ([], false, cs)

def readV6 : Reader (List Nat) := fun cs =>
  let (front, octets, rest) := readGroups 8 true cs
  if front.length = 8 then some (front, rest)
  else if octets then none
  else match rest with
    | ':' :: ':' :: rest =>
      let (back, _, rest) := readGroups (7 - front.length) true rest
      some (front ++ List.replicate (8 - front.length - back.length) 0 ++ back, rest)
    | _ => none

def ofText? (text : String) : Option Address :=
  match readOctets text.toList with
  | some (octets, []) => some (.v4 (ofOctets octets))
  | some _ => none
  | none =>
    match readV6 text.toList with
    | some (groups, []) => some (.v6 (ofGroups groups))
    | _ => none

/-! Printing. -/

def joined (mark : String) (parts : List String) : String := mark.intercalate parts

def v4Text (bits : BitVec 32) : String := joined "." ((octets bits).map toString)

structure Gap where
  start : Nat
  length : Nat

def longestGap (groups : List Nat) : Gap :=
  let step (state : Nat × Gap × Gap) (group : Nat) : Nat × Gap × Gap :=
    let (index, run, best) := state
    if group = 0 then
      let run : Gap := if run.length = 0 then ⟨index, 1⟩ else ⟨run.start, run.length + 1⟩
      (index + 1, run, if best.length < run.length then run else best)
    else (index + 1, ⟨0, 0⟩, best)
  (groups.foldl step (0, ⟨0, 0⟩, ⟨0, 0⟩)).2.2

def groupTexts (groups : List Nat) : String := joined ":" (groups.map Text.hexNumeral)

def gappedText (groups : List Nat) : String :=
  let gap := longestGap groups
  if 1 < gap.length then
    groupTexts (groups.take gap.start) ++ "::" ++ groupTexts (groups.drop (gap.start + gap.length))
  else groupTexts groups

/-- An address that maps a version 4 address keeps its octets. -/
def v6Text (bits : BitVec 128) : String :=
  match groups bits with
  | [0, 0, 0, 0, 0, 0xFFFF, _, _] => "::ffff:" ++ v4Text (BitVec.ofNat 32 bits.toNat)
  | groups => gappedText groups

def text : Address → String
  | .v4 bits => v4Text bits
  | .v6 bits => v6Text bits

end Address

def Endpoint.text (endpoint : Endpoint) : String :=
  match endpoint.address with
  | .v4 bits => s!"{Address.v4Text bits}:{endpoint.port}"
  | .v6 bits => s!"[{Address.v6Text bits}]:{endpoint.port}"

def readPort? (cs : List Char) : Option UInt16 :=
  if cs.isEmpty || !cs.all Char.isDigit then none
  else
    let n := cs.foldl (fun n c => 10 * n + (c.toNat - 48)) 0
    if n < 65536 then some (UInt16.ofNat n) else none

def Endpoint.ofText? (text : String) : Option Endpoint :=
  match text.toList with
  | '[' :: rest =>
    match Address.readV6 rest with
    | some (groups, ']' :: ':' :: port) =>
      (readPort? port).map fun port => ⟨.v6 (Address.ofGroups groups), port⟩
    | _ => none
  | cs =>
    match Address.readOctets cs with
    | some (octets, ':' :: port) =>
      (readPort? port).map fun port => ⟨.v4 (Address.ofOctets octets), port⟩
    | _ => none

end FrameLink.Inet
