import FrameLink.Sandbox.Shell.Format
import FrameLink.Sandbox.Shell.State
import FrameLink.Text.Numeral
/-!
The commands that a shell can run, apart from those that change where it is in its script.
-/

namespace FrameLink.Sandbox.Shell

structure Effect where
  status : Nat := 0
  output : Bytes := []
  error : String := ""
  /-- what is left of the input, if some of it was read -/
  left : Option Bytes := none

namespace Effect

def complain (name message : String) (status : Nat) : Effect :=
  { status, error := s!"{name}: 1: {message}\n" }

end Effect

/-- How long a text of seconds, with a fraction or a unit, is in nanoseconds. -/
def span? (text : String) : Option Nat :=
  let cs := text.toList
  let digits (cs : List Char) := cs.takeWhile Char.isDigit
  let whole := digits cs
  let (fraction, rest) := match cs.dropWhile Char.isDigit with
    | '.' :: rest => (digits rest, rest.dropWhile Char.isDigit)
    | rest => ([], rest)
  let unit? : Option Nat := match rest with
    | [] | ['s'] => some 1
    | ['m'] => some 60
    | ['h'] => some 3600
    | ['d'] => some 86400
    | _ => none
  let digit (c : Char) := (Numeral.digit? c).getD 0
  let number (cs : List Char) := cs.foldl (fun n c => 10 * n + digit c) 0
  let nanos (cs : List Char) :=
    (cs.foldl (fun (sum, place) c => (sum + digit c * place, place / 10)) (0, 100000000)).1
  if whole.isEmpty && fraction.isEmpty then none
  else unit?.map fun unit =>
    unit * (number whole * 1000000000 + nanos fraction)

/-- Joins arguments with blanks and ends the line, unless the first argument says not to. -/
def echo (escapes : Bool) (arguments : List String) : Bytes :=
  let (ended, shown) := match arguments with
    | "-n" :: rest => (false, rest)
    | all => (true, all)
  let text := " ".intercalate shown
  if escapes then
    let (bytes, goesOn) := Format.unescape (text.length + 1) text.toList
    bytes ++ if ended && goesOn then [10] else []
  else Bytes.ofText text ++ if ended then [10] else []

def test (state : State) (store : Store) : List String → Option Bool
  | [] => some false
  | ["!", a] => some a.isEmpty
  | [a] => some (!a.isEmpty)
  | ["-n", a] => some (!a.isEmpty)
  | ["-z", a] => some a.isEmpty
  | ["-f", a] => some (store.isFile (state.path a))
  | ["-d", a] => some (store.isDirectory (state.path a))
  | ["-e", a] => some (store.isFile (state.path a) || store.isDirectory (state.path a))
  | ["-s", a] => some (((store.read? (.file (state.path a))).getD []).length > 0)
  | ["!", operator, a] => (test state store [operator, a]).map (!·)
  | [a, "=", b] | [a, "==", b] => some (a == b)
  | [a, "!=", b] => some (a != b)
  | [a, operator, b] => do
    let m ← a.toInt?
    let n ← b.toInt?
    match operator with
    | "-eq" => some (m == n)
    | "-ne" => some (m != n)
    | "-lt" => some (m < n)
    | "-le" => some (m ≤ n)
    | "-gt" => some (m > n)
    | "-ge" => some (m ≥ n)
    | _ => none
  | _ => none

def tested (name : String) (result : Option Bool) : Effect :=
  match result with
  | some true => {}
  | some false => { status := 1 }
  | none => .complain name "test: unexpected operator" 2

def sequence (arguments : List String) : Effect :=
  let numbers := arguments.filterMap String.toInt?
  let lines (first step last : Int) : Effect :=
    if step = 0 then { status := 1 }
    else
      let count := ((last - first).tdiv step + 1).toNat
      let fits := if step > 0 then first ≤ last else last ≤ first
      if fits then
        { output := (List.range count).flatMap fun (n : Nat) =>
            Bytes.ofText (toString (first + n * step) ++ "\n") }
      else {}
  match numbers with
  | [last] => lines 1 1 last
  | [first, last] => lines first 1 last
  | [first, step, last] => lines first step last
  | _ => { status := 1, error := "seq: missing operand\n" }

end FrameLink.Sandbox.Shell
