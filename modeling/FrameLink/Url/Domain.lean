import FrameLink.Text.Direction
import FrameLink.Text.Joining
import FrameLink.Text.Utf8
import FrameLink.Url.Domain.Mapping
import FrameLink.Url.Domain.Punycode
import FrameLink.Url.Percent
/-!
Host names. A name is percent-decoded, must be text, and is brought to the lower-case ASCII form under
which it is looked up. A label beyond ASCII is written in letters of ASCII behind a mark, and a label
with that mark must be the writing of one beyond ASCII.
-/

namespace FrameLink.Url

def isForbidden (c : Char) : Bool :=
  c.toNat ≤ 0x20 || c.toNat = 0x7F || "%#/:<>?@[\\]^|".toList.contains c

namespace Domain

open Text

def isAscii (c : Char) : Bool := c.toNat < 0x80

def mark : List Char := "xn--".toList

/-- The most characters that a label to be written may have, and its writing. -/
def mostWritten : Nat := 1000
def mostWriting : Nat := 2000

def meant? (label : List Char) : Option (List Char) :=
  if mark.isPrefixOf label then
    if !label.all isAscii || mostWriting < label.length - mark.length then none
    else
      match Punycode.decode? (label.drop mark.length) with
      | some decoded =>
        if decoded.all isAscii || decoded.any (fun c => c == '.' || !isPlain c) ||
            Composition.compose decoded != decoded then none
        else some decoded
      | none => none
  else some label

def isSound (label : List Char) : Bool :=
  !label.head?.any isMark && !label.any isForbidden && Joining.isSound [] label

/-- Whether a name with this label goes from right to left. -/
def turns (label : List Char) : Bool :=
  label.any fun c => match Direction.ofChar c with
    | .right | .arabic | .arabicNumber => true
    | _ => false

def keepsOrder (label : List Char) : Bool :=
  let directions := label.map Direction.ofChar
  let last := (directions.reverse.dropWhile (· == .nonspacing)).head?
  let everywhere : List Direction :=
    [.number, .sign, .separator, .terminator, .neutral, .boundary, .nonspacing]
  match directions.head? with
  | none => true
  | some .left =>
    directions.all (fun d => d == .left || everywhere.contains d) &&
      (last == some .left || last == some .number)
  | some .right | some .arabic =>
    directions.all (fun d => [.right, .arabic, .arabicNumber].contains d || everywhere.contains d) &&
      [some .right, some .arabic, some .number, some .arabicNumber].contains last &&
      !(directions.contains .number && directions.contains .arabicNumber)
  | _ => false

/-- The ASCII form of a label that is sound; none when it is too long to be written. -/
def written? (label : List Char) : Option (List Char) :=
  if label.all isAscii then some label
  else if mostWritten < label.length then none
  else some (mark ++ Punycode.encode label)

def labels (cs : List Char) : List (List Char) :=
  match cs with
  | [] => [[]]
  | c :: rest =>
    match labels rest with
    | [] => [[c]]
    | label :: more => if c = '.' then [] :: label :: more else (c :: label) :: more

def ascii? (name : List Char) : Option (List Char) := do
  let images ← name.mapM image?
  let meant ← (labels (Composition.compose images.flatten)).mapM meant?
  if !meant.all isSound then none
  else if meant.any turns && !meant.all keepsOrder then none
  else
    let written ← meant.mapM written?
    return ['.'].intercalate written

/-- Whether a name needs more than lower case. -/
def isSimple (name : List Char) : Bool :=
  name.all isAscii && !(labels name).any mark.isPrefixOf

end Domain

def domainOf? (cs : List Char) : Option (List Char) :=
  match Utf8.decode (decodePercent (Bytes.ofText (String.ofList cs))) with
  | .error _ => none
  | .ok text =>
    let name := text.toList.map Char.toLower
    if Domain.isSimple name then if name.any isForbidden then none else some name
    else Domain.ascii? name

end FrameLink.Url
