import FrameLink.Text.Composition.Table
import FrameLink.Text.Ranges
/-!
The composed form of a text: marks are put in the order of their classes, and letters are one character
with their marks where there is such a character. Syllables of Hangul are composed by calculation.
-/

namespace FrameLink.Text.Composition

/-- Letters and what lies beyond ASCII may have a mark; of the signs of ASCII only those of order and
equality. -/
def takesMark (c : Char) : Bool := 0x80 ≤ c.toNat || c.isLower || ['<', '=', '>'].contains c

structure Composite where
  whole : Char
  letter : Char
  mark : Char
  whole_beyond : 0x80 ≤ whole.toNat
  letter_takesMark : takesMark letter = true
  mark_beyond : 0x80 ≤ mark.toNat

def Composite.of? (whole letter mark : Char) : Option Composite :=
  if fits : 0x80 ≤ whole.toNat ∧ takesMark letter = true ∧ 0x80 ≤ mark.toNat then
    some ⟨whole, letter, mark, fits.1, fits.2.1, fits.2.2⟩
  else none

def Composite.ofWord? (word : String) : Option Composite :=
  match word.splitOn ":" with
  | [whole, parts] =>
    match parts.splitOn "+" with
    | [letter, mark] => of? (Table.char whole) (Table.char letter) (Table.char mark)
    | _ => none
  | _ => none

def classOfWord (word : String) : (Nat × Nat) × Nat :=
  match word.splitOn "=" with
  | [characters, value] => (Table.range characters, value.toNat?.getD 0)
  | _ => (Table.range word, 0)

def composites : List Composite := (Table.words Table.composites).filterMap Composite.ofWord?

def markClasses : List ((Nat × Nat) × Nat) := (Table.words Table.classes).map classOfWord

/-- The class of a mark; what is no mark has class zero. -/
def markClass (c : Char) : Nat :=
  ((markClasses.find? fun ((first, last), _) => first ≤ c.toNat && c.toNat ≤ last).map (·.2)).getD 0

namespace Hangul

def firstSyllable : Nat := 0xAC00
def firstLead : Nat := 0x1100
def firstVowel : Nat := 0x1161
def noTail : Nat := 0x11A7
def leads : Nat := 19
def vowels : Nat := 21
def tails : Nat := 28

def parts? (c : Char) : Option (List Char) :=
  let place := c.toNat - firstSyllable
  if c.toNat < firstSyllable || leads * vowels * tails ≤ place then none
  else
    let tail := place % tails
    let open_ := [Char.ofNat (firstLead + place / (vowels * tails)),
      Char.ofNat (firstVowel + place / tails % vowels)]
    some (if tail = 0 then open_ else open_ ++ [Char.ofNat (noTail + tail)])

/-- A syllable of a lead and a vowel, or of a syllable without a tail and a tail. -/
def join? (c d : Char) : Option Char :=
  let lead := c.toNat - firstLead
  let vowel := d.toNat - firstVowel
  let place := c.toNat - firstSyllable
  if firstLead ≤ c.toNat && lead < leads && firstVowel ≤ d.toNat && vowel < vowels then
    some (Char.ofNat (firstSyllable + (lead * vowels + vowel) * tails))
  else if firstSyllable ≤ c.toNat && place < leads * vowels * tails && place % tails = 0 &&
      noTail < d.toNat && d.toNat < noTail + tails then
    some (Char.ofNat (c.toNat + (d.toNat - noTail)))
  else none

end Hangul

/-- A character in its parts; no letter of the table has more than so many marks. -/
def taken : (marks : Nat) → Char → List Char
  | 0, c => [c]
  | marks + 1, c =>
    match Hangul.parts? c with
    | some parts => parts
    | none =>
      match composites.find? (·.whole == c) with
      | some found => taken marks found.letter ++ [found.mark]
      | none => [c]

/-- Puts a mark before those of higher classes; the text stands in reverse. -/
def place (c : Char) : List Char → List Char
  | [] => [c]
  | d :: rest =>
    if 0 < markClass c && markClass c < markClass d then d :: place c rest else c :: d :: rest

def decomposed (cs : List Char) : List Char :=
  ((cs.flatMap (taken 4)).foldl (fun done c => place c done) []).reverse

def join? (c d : Char) : Option Char :=
  (Hangul.join? c d).orElse fun _ =>
    (composites.find? fun made => made.letter == c && made.mark == d).map (·.whole)

/-- A text under composition: what is done, the latest letter, and the marks that stay apart from
it. -/
structure Composing where
  done : List Char := []
  letter : Option Char := none
  marks : List Char := []

def Composing.flat (composing : Composing) : List Char :=
  composing.done ++ composing.letter.toList ++ composing.marks

/-- A character joins the letter unless something of the same class or of none stands between. -/
def Composing.add (composing : Composing) (c : Char) : Composing :=
  let free := match composing.marks.getLast? with
    | none => true
    | some last => markClass last < markClass c
  let joined := if free then composing.letter.bind (join? · c) else none
  match joined with
  | some letter => { composing with letter := some letter }
  | none =>
    if markClass c = 0 then { done := composing.flat, letter := some c }
    else { composing with marks := composing.marks ++ [c] }

def compose (cs : List Char) : List Char :=
  ((decomposed cs).foldl Composing.add {}).flat

end FrameLink.Text.Composition
