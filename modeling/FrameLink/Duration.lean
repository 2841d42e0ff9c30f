/-!
Spans of time in whole nanoseconds, up to 2^64 seconds, and their shortest text: the largest unit
that leaves a whole part, then the fraction without trailing zeros.
-/

namespace FrameLink

def durationBound : Nat := 18446744073709551616 * 1000000000

structure Duration where
  nanos : Nat
  bounded : nanos < durationBound := by decide
deriving DecidableEq

namespace Duration

def second : Nat := 1000000000

def zero : Duration := ⟨0, by decide⟩

instance : Inhabited Duration := ⟨zero⟩

def ofNanos? (n : Nat) : Option Duration :=
  if bounded : n < durationBound then some ⟨n, bounded⟩ else none

/-- Whole milliseconds; the argument is a 64-bit count, for which the result always fits. -/
def ofMillis (ms : UInt64) : Duration :=
  ⟨ms.toNat * 1000000, by have := ms.toNat_lt; unfold durationBound; omega⟩

def ofSecs (secs : UInt64) : Duration :=
  ⟨secs.toNat * second, by have := ms_lt secs; unfold durationBound second; omega⟩
where
  ms_lt (n : UInt64) : n.toNat < 18446744073709551616 := n.toNat_lt

def secs (d : Duration) : Nat := d.nanos / second

def subsecNanos (d : Duration) : Nat := d.nanos % second

/-- The fraction of whole nanoseconds is carried into the seconds. -/
def ofParts? (secs nanos : Nat) : Option Duration := ofNanos? (secs * second + nanos)

def times? (d : Duration) (count : Nat) : Option Duration := ofNanos? (d.nanos * count)

def min (a b : Duration) : Duration := if a.nanos ≤ b.nanos then a else b

def max (a b : Duration) : Duration := if a.nanos ≤ b.nanos then b else a

def lowDigits : (places n : Nat) → List Char
  | 0, _ => []
  | places + 1, n => lowDigits places (n / 10) ++ [Nat.digitChar (n % 10)]

/-- The digits behind the point of a fraction with so many decimal places, without trailing
zeros. -/
def fractionDigits (places fraction : Nat) : List Char :=
  ((lowDigits places fraction).reverse.dropWhile (· = '0')).reverse

def decimal (whole places fraction : Nat) : String :=
  match fractionDigits places fraction with
  | [] => toString whole
  | digits => toString whole ++ "." ++ String.ofList digits

def text (d : Duration) : String :=
  if second ≤ d.nanos then decimal (d.nanos / second) 9 (d.nanos % second) ++ "s"
  else if 1000000 ≤ d.nanos then decimal (d.nanos / 1000000) 6 (d.nanos % 1000000) ++ "ms"
  else if 1000 ≤ d.nanos then decimal (d.nanos / 1000) 3 (d.nanos % 1000) ++ "µs"
  else toString d.nanos ++ "ns"

end Duration

/-- Nanoseconds since the start of a run. -/
abbrev Instant := Nat

end FrameLink
