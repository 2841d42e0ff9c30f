import FrameLink.Text.Quoted
import FrameLink.Bytes
/-!
Identifiers of connected clients: 128 bits, written as five hyphenated groups of hexadecimal
digits. Reading also takes the bare digits, and the hyphenated form in braces or after `urn:uuid:`.
-/

namespace FrameLink

structure ClientId where
  bits : BitVec 128
deriving DecidableEq, Inhabited

namespace ClientId

inductive Fault where
  | badCharacter (found : Char) (position : Nat)
  | badLength (found : Nat)
  | badGroupCount (found : Nat)
  | badGroupLength (group expected found : Nat)
deriving DecidableEq, Repr

def Fault.message : Fault → String
  | .badCharacter c position => "invalid character: found \x60" ++ s!"{c}" ++ "\x60 at " ++ toString position
  | .badLength n => s!"invalid length: found {n}"
  | .badGroupCount n => s!"invalid group count: expected 5, found {n}"
  | .badGroupLength group expected n =>
    s!"invalid group length in group {group}: expected {expected}, found {n}"

def digits (id : ClientId) : List Char :=
  (List.range 32).map fun i => Bytes.hexDigit (id.bits.toNat >>> (4 * (31 - i)) % 16)

def text (id : ClientId) : String :=
  let ds := id.digits
  let part (start length : Nat) : String := String.ofList ((ds.drop start).take length)
  s!"{part 0 8}-{part 8 4}-{part 12 4}-{part 16 4}-{part 20 12}"

def ofNat (n : Nat) : ClientId := ⟨BitVec.ofNat 128 n⟩

def none : ClientId := ofNat 0

def ofDigits (cs : List Char) : ClientId :=
  ofNat (cs.foldl (fun n c => 16 * n + (Bytes.hexValue? c).getD 0) 0)

def isHex (c : Char) : Bool := (Bytes.hexValue? c).isSome

def groupLengths : List Nat := [8, 4, 4, 4, 12]

def pieces (cs : List Char) : List (List Char) := cs.splitOn '-'

def isHyphenated (cs : List Char) : Bool :=
  (pieces cs).map List.length == groupLengths && (pieces cs).all (·.all isHex)

/-- The hyphenated part of a wrapped form, and where it starts. -/
def unwrap? (cs : List Char) : Option (List Char × Nat) :=
  match cs with
  | '{' :: rest => if rest.getLast? = some '}' then some (rest.dropLast, 1) else Option.none
  | _ =>
    if (cs.take 9).map Char.toLower = "urn:uuid:".toList then some (cs.drop 9, 9) else Option.none

def badCharacter? : (position : Nat) → List Char → Option (Char × Nat)
  | _, [] => Option.none
  | position, c :: rest =>
    if isHex c || c = '-' then badCharacter? (position + c.utf8Size) rest else some (c, position)

/-- The first group whose length is wrong when the next hyphen is not where it should be. -/
def badGroup (whole : Nat) (found : List Nat) : Fault :=
  match (List.range 4).find? fun i => found[i]? != groupLengths[i]? with
  | some i => .badGroupLength i (groupLengths.getD i 0) (found.getD i 0)
  | Option.none => .badGroupLength 4 12 (whole - 24)

def explain (cs : List Char) : Fault :=
  let (inner, start, bare) := match unwrap? cs with
    | some (inner, start) => (inner, start, false)
    | Option.none => (cs, 0, true)
  let whole := (String.ofList cs).utf8ByteSize
  match badCharacter? start inner with
  | some (c, position) => .badCharacter c position
  | Option.none =>
    let found := (pieces inner).map List.length
    if bare && found.length = 1 then .badLength whole
    else if found.length ≠ 5 then .badGroupCount found.length
    else badGroup whole found

def ofText (text : String) : Except Fault ClientId :=
  let cs := text.toList
  let accepted : Option (List Char) :=
    if cs.length = 32 && cs.all isHex then some cs
    else if isHyphenated cs then some cs
    else match unwrap? cs with
      | some (inner, _) => if isHyphenated inner then some inner else Option.none
      | Option.none => Option.none
  match accepted with
  | some cs => .ok (ofDigits (cs.filter isHex))
  | Option.none => .error (explain cs)

end ClientId

end FrameLink
