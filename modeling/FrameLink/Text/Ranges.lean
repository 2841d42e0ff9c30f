import FrameLink.Bytes
/-!
Classes of characters as ranges of code points, and tables of them. A table is a list of lines of words
apart by blanks; numbers in it are hexadecimal. The class of the blank characters (property White_Space)
is given here, with texts without the blanks around them.
-/

namespace FrameLink.Text

abbrev Ranges := List (Nat × Nat)

def Ranges.has (c : Char) (ranges : Ranges) : Bool :=
  ranges.any fun (first, last) => first ≤ c.toNat && c.toNat ≤ last

namespace Table

def words (lines : List String) : List String := lines.flatMap (·.splitOn " ")

def number (text : String) : Nat :=
  text.foldl (fun n c => 16 * n + (Bytes.hexValue? c).getD 0) 0

def char (text : String) : Char := Char.ofNat (number text)

/-- A range, whose ends a dash joins; one number is a range by itself. -/
def range (word : String) : Nat × Nat :=
  match word.splitOn "-" with
  | [first, last] => (number first, number last)
  | _ => (number word, number word)

end Table

def Ranges.ofTable (lines : List String) : Ranges := (Table.words lines).map Table.range

def blankRanges : List (Nat × Nat) :=
  [(0x09, 0x0D), (0x20, 0x20), (0x85, 0x85), (0xA0, 0xA0), (0x1680, 0x1680), (0x2000, 0x200A),
    (0x2028, 0x2029), (0x202F, 0x202F), (0x205F, 0x205F), (0x3000, 0x3000)]

def isBlank (c : Char) : Bool :=
  blankRanges.any fun (low, high) => low ≤ c.toNat && c.toNat ≤ high

def stripChars (p : Char → Bool) (cs : List Char) : List Char :=
  (((cs.dropWhile p).reverse).dropWhile p).reverse

def trim (text : String) : String := String.ofList (stripChars isBlank text.toList)

/-- Lower case for the letters of ASCII; every other character stays. -/
def lowerAscii (text : String) : String := text.map Char.toLower

end FrameLink.Text
