/-!
Decimal numerals as settings and arguments spell them: a sign, then one digit at least, with the
first fault from the left named when there is one.
-/

namespace FrameLink.Numeral

inductive Fault where
  | empty
  | badDigit
  | tooLarge
  | tooSmall
deriving DecidableEq, Repr

def Fault.message : Fault → String
  | .empty => "cannot parse integer from empty string"
  | .badDigit => "invalid digit found in string"
  | .tooLarge => "number too large to fit in target type"
  | .tooSmall => "number too small to fit in target type"

def digit? (c : Char) : Option Nat :=
  if '0' ≤ c ∧ c ≤ '9' then some (c.toNat - 48) else none

/-- Reads digits onto `value`, which must stay at most `top`. -/
def digitsUpTo (top : Nat) (excess : Fault) : Nat → List Char → Except Fault Nat
  | value, [] => .ok value
  | value, c :: rest =>
    match digit? c with
    | none => .error .badDigit
    | some d => if 10 * value + d ≤ top then digitsUpTo top excess (10 * value + d) rest else .error excess

/-- A natural number up to `top`; a plus sign is allowed. -/
def readUpTo (top : Nat) (text : String) : Except Fault Nat :=
  match text.toList with
  | [] => .error .empty
  | ['+'] => .error .badDigit
  | '+' :: rest => digitsUpTo top .tooLarge 0 rest
  | cs => digitsUpTo top .tooLarge 0 cs

def readBetween (top : Nat) (text : String) : Except Fault Int :=
  match text.toList with
  | ['-'] => .error .badDigit
  | '-' :: rest => (digitsUpTo (top + 1) .tooSmall 0 rest).map fun n => -(n : Int)
  | _ => (readUpTo top text).map Int.ofNat

def readUpTo? (top : Nat) (text : String) : Option Nat := (readUpTo top text).toOption

end FrameLink.Numeral
