import FrameLink.Inet.Address
/-!
Hosts that are numbers. A host whose last piece is a number is an address: one to four numbers,
decimal, octal after `0` or hexadecimal after `0x`, the last of which fills the octets that are
left. In brackets stands an address of groups.
-/

namespace FrameLink.Url

/-- What a piece of a host is as a number: none at all, or one, absent when it is beyond 32 bits. -/
def numberOf (cs : List Char) : Option (Option Nat) :=
  let read (base : Nat) (isDigit : Char → Bool) (digits : List Char) : Option (Option Nat) :=
    if digits.isEmpty then some (some 0)
    else if digits.all isDigit then
      let n := digits.foldl (fun n c => base * n + (Inet.Address.hexDigitValue? c).getD 0) 0
      some (if n < UInt32.size then some n else none)
    else none
  match cs with
  | [] => none
  | '0' :: 'x' :: rest | '0' :: 'X' :: rest =>
    read 16 (fun c => (Inet.Address.hexDigitValue? c).isSome) rest
  | '0' :: d :: rest => read 8 (fun c => '0' ≤ c && c ≤ '7') (d :: rest)
  | cs => read 10 Char.isDigit cs

/-- The pieces between dots; one dot at the end adds none. -/
def hostPieces (cs : List Char) : List (List Char) :=
  let pieces := cs.splitOn '.'
  if pieces.getLast? = some [] then pieces.dropLast else pieces

def endsInNumber (cs : List Char) : Bool :=
  let pieces := cs.splitOn '.'
  let last := match pieces.getLast? with
    | some [] => pieces.dropLast.getLast?
    | last => last
  match last with
  | none => false
  | some piece => (!piece.isEmpty && piece.all Char.isDigit) || (numberOf piece).isSome

def v4OfNumbers? (numbers : List Nat) : Option (BitVec 32) :=
  match numbers.getLast? with
  | none => none
  | some last =>
    let front := numbers.dropLast
    if front.length < 4 && last < 1 <<< (8 * (4 - front.length)) && front.all (· < 256) then
      let high := front.zipIdx.foldl (fun sum (n, i) => sum + n <<< (8 * (3 - i))) 0
      some (BitVec.ofNat 32 (high + last))
    else none

def v4Host? (cs : List Char) : Option (BitVec 32) :=
  let pieces := hostPieces cs
  if 4 < pieces.length then none
  else (pieces.mapM fun piece => (numberOf piece).join).bind v4OfNumbers?

/-! Groups in brackets. -/

/-- An octet between dots: decimal, without a leading zero, at most 255. -/
def readOctets : (count : Nat) → List Char → Option (List Nat)
  | 0, cs => if cs.isEmpty then some [] else none
  | count + 1, cs =>
    let digits := cs.takeWhile Char.isDigit
    let n := digits.foldl (fun n c => 10 * n + (c.toNat - 48)) 0
    if digits.isEmpty || 255 < n || (digits.head? == some '0' && 1 < digits.length) then none
    else
      let rest := cs.drop digits.length
      match count, rest with
      | 0, rest => if rest.isEmpty then some [n] else none
      | count + 1, '.' :: rest => (readOctets (count + 1) rest).map (n :: ·)
      | _, _ => none

structure Groups where
  before : List Nat := []
  /-- present once the gap was seen -/
  after : Option (List Nat) := none

def Groups.count (g : Groups) : Nat :=
  g.before.length + match g.after with
    | some after => after.length + 1
    | none => 0

def Groups.add (g : Groups) (new : List Nat) : Groups :=
  match g.after with
  | some after => { g with after := some (after ++ new) }
  | none => { g with before := g.before ++ new }

def Groups.all? (g : Groups) : Option (List Nat) :=
  match g.after with
  | none => if g.before.length = 8 then some g.before else none
  | some after =>
    let seen := g.before.length + after.length
    if 8 ≤ seen then none else some (g.before ++ List.replicate (8 - seen) 0 ++ after)

/-- Reads groups and at most one gap; `fuel` bounds the number of pieces. -/
def readGroups : (fuel : Nat) → Groups → List Char → Option Groups
  | _, groups, [] => some groups
  | 0, _, _ => none
  | fuel + 1, groups, cs =>
    if 8 ≤ groups.count then none
    else match cs with
    | ':' :: rest =>
      if groups.after.isSome then none else readGroups fuel { groups with after := some [] } rest
    | cs =>
      let digits := (cs.take 4).takeWhile fun c => (Inet.Address.hexDigitValue? c).isSome
      let n := digits.foldl (fun n c => 16 * n + (Inet.Address.hexDigitValue? c).getD 0) 0
      match cs.drop digits.length with
      | [] => some (groups.add [n])
      | '.' :: _ =>
        if digits.isEmpty || 6 < groups.count then none
        else match readOctets 4 cs with
          | some [a, b, c, d] => some (groups.add [256 * a + b, 256 * c + d])
          | _ => none
      | ':' :: rest => if rest.isEmpty then none else readGroups fuel (groups.add [n]) rest
      | _ => none

def v6Host? (cs : List Char) : Option (BitVec 128) :=
  let start : Option (Groups × List Char) := match cs with
    | ':' :: ':' :: rest => some ({ after := some [] }, rest)
    | ':' :: _ => none
    | [] | [_] => none
    | cs => some ({}, cs)
  match start with
  | none => none
  | some (groups, rest) =>
    (readGroups (rest.length + 1) groups rest).bind fun groups =>
      groups.all?.map Inet.Address.ofGroups

end FrameLink.Url
