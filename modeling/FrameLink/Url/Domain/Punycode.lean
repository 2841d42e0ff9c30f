/-!
Names beyond ASCII in letters of ASCII: the letters of ASCII come first, and then, after a dash, the
others in the order of their code points, each as a number that tells how far it is from the one
before. Numbers are written in digits of base 36 whose lengths adapt to what has been written.
-/

namespace FrameLink.Url.Punycode

def firstPoint : Nat := 128

def firstBias : Nat := 72

def digitChar (digit : Nat) : Char := Char.ofNat (if digit < 26 then 97 + digit else 22 + digit)

def digit? (c : Char) : Option Nat :=
  if 'a' ≤ c && c ≤ 'z' then some (c.toNat - 97)
  else if 'A' ≤ c && c ≤ 'Z' then some (c.toNat - 65)
  else if '0' ≤ c && c ≤ '9' then some (c.toNat - 22)
  else none

/-- The least value of a digit after which another one follows. -/
def threshold (position bias : Nat) : Nat := max 1 (min 26 (position - bias))

theorem threshold_bounds (position bias : Nat) :
    1 ≤ threshold position bias ∧ threshold position bias ≤ 26 := by
  unfold threshold
  omega

def shrink (delta steps : Nat) : Nat :=
  if 455 < delta then shrink (delta / 35) (steps + 36) else steps + 36 * delta / (delta + 38)
termination_by delta
decreasing_by exact Nat.div_lt_self (by omega) (by omega)

/-- The bias after a number, which was the first one or not, when so many characters are there. -/
def adapt (delta count : Nat) (isFirst : Bool) : Nat :=
  let delta := if isFirst then delta / 700 else delta / 2
  shrink (delta + delta / count) 0

def digits (bias position number : Nat) : List Char :=
  let t := threshold position bias
  if number < t then [digitChar number]
  else digitChar (t + (number - t) % (36 - t)) ::
    digits bias (position + 36) ((number - t) / (36 - t))
termination_by number
decreasing_by
  have := threshold_bounds position bias
  calc (number - threshold position bias) / (36 - threshold position bias)
      ≤ number - threshold position bias := Nat.div_le_self _ _
    _ < number := by omega

structure Writing where
  written : List Char
  delta : Nat := 0
  bias : Nat := firstBias
  count : Nat

def Writing.pass (basics point : Nat) (writing : Writing) (c : Char) : Writing :=
  if c.toNat < point then { writing with delta := writing.delta + 1 }
  else if c.toNat = point then
    { written := writing.written ++ digits writing.bias 36 writing.delta
      bias := adapt writing.delta (writing.count + 1) (writing.count = basics)
      count := writing.count + 1 }
  else writing

/-- Writes the characters at each of the points, of which the first is no less than `next`. -/
def writePoints (cs : List Char) (basics : Nat) : List Nat → (next : Nat) → Writing → List Char
  | [], _, writing => writing.written
  | point :: rest, next, writing =>
    let start := { writing with
      delta := writing.delta + (point - next) * (writing.count + 1) }
    let passed := cs.foldl (Writing.pass basics point) start
    writePoints cs basics rest (point + 1) { passed with delta := passed.delta + 1 }

def isBasic (c : Char) : Bool := c.toNat < firstPoint

def encode (cs : List Char) : List Char :=
  let basic := cs.filter isBasic
  let points := (((cs.filter (!isBasic ·)).map Char.toNat).mergeSort (· ≤ ·)).eraseReps
  let start := if basic.isEmpty then [] else basic ++ ['-']
  writePoints cs basic.length points firstPoint { written := start, count := basic.length }

def number? (bias : Nat) : (position weight : Nat) → List Char → Option (Nat × List Char)
  | _, _, [] => none
  | position, weight, c :: rest => do
    let digit ← digit? c
    let t := threshold position bias
    if digit < t then return (digit * weight, rest)
    let (more, rest) ← number? bias (position + 36) (weight * (36 - t)) rest
    return (digit * weight + more, rest)

theorem number?_shorter {bias position weight : Nat} {cs rest : List Char} {n : Nat}
    (read : number? bias position weight cs = some (n, rest)) : rest.length < cs.length := by
  induction cs generalizing position weight n with
  | nil => simp [number?] at read
  | cons c cs ih =>
    rw [number?] at read
    cases found : digit? c with
    | none => simp [found] at read
    | some digit =>
      simp only [found, Option.bind_eq_bind, Option.bind_some] at read
      split at read
      · simp only [Option.pure_def, Option.some.injEq, Prod.mk.injEq] at read
        simp [← read.2]
      · simp only [Option.bind_eq_some_iff] at read
        obtain ⟨⟨more, left⟩, inner, made⟩ := read
        simp only [Option.pure_def, Option.some.injEq, Prod.mk.injEq] at made
        obtain ⟨_, rfl⟩ := made
        have := ih inner
        simp only [List.length_cons]
        omega

/-- Puts in the characters that the numbers tell; none when one of them is no character. -/
def insertAll (bias point position : Nat) (isFirst : Bool) (done digits : List Char) :
    Option (List Char) :=
  if digits.isEmpty then some done
  else
    match _read : number? bias 36 1 digits with
    | none => none
    | some (n, rest) =>
      let count := done.length + 1
      let place := position + n
      let point := point + place / count
      if point.isValidChar then
        insertAll (adapt n count isFirst) point (place % count + 1) false
          (done.insertIdx (place % count) (Char.ofNat point)) rest
      else none
termination_by digits.length
decreasing_by exact number?_shorter _read

/-- What stands before the last dash, unless that is the first character, and what stands after it. -/
def split (cs : List Char) : List Char × List Char :=
  let after := (cs.reverse.takeWhile (· ≠ '-')).reverse
  let before := cs.take (cs.length - after.length - 1)
  if before.isEmpty then ([], cs) else (before, after)

def decode? (cs : List Char) : Option (List Char) :=
  let (basic, digits) := split cs
  if basic.all isBasic then insertAll firstBias firstPoint 0 true basic digits else none

end FrameLink.Url.Punycode
