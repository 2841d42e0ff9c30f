import FrameLink.Bytes
/-!
Formatted output: texts with escapes, and formats whose directives take arguments in turn.
-/

namespace FrameLink.Sandbox.Shell.Format

def octal? (c : Char) : Option Nat :=
  if '0' ≤ c ∧ c ≤ '7' then some (c.toNat - 48) else none

def octalNumber (most : Nat) (cs : List Char) : Nat × List Char :=
  let digits := (cs.take most).takeWhile fun c => (octal? c).isSome
  (digits.foldl (fun n c => 8 * n + (octal? c).getD 0) 0, cs.drop digits.length)

def plainEscape? : Char → Option UInt8
  | 'n' => some 10
  | 't' => some 9
  | 'r' => some 13
  | 'a' => some 7
  | 'b' => some 8
  | 'f' => some 12
  | 'v' => some 11
  | '\\' => some 92
  | _ => none

/-- The bytes of one escape, given what follows the backslash. An octal number is led by a zero if
`leadingZero` says so. -/
def escape (leadingZero : Bool) : List Char → Bytes × List Char
  | [] => ([92], [])
  | c :: rest =>
    match plainEscape? c with
    | some byte => ([byte], rest)
    | none =>
      if leadingZero then
        if c == '0' then
          let (n, after) := octalNumber 3 rest
          ([UInt8.ofNat n], after)
        else (92 :: Bytes.ofText (String.singleton c), rest)
      else if (octal? c).isSome then
        let (n, after) := octalNumber 3 (c :: rest)
        ([UInt8.ofNat n], after)
      else (92 :: Bytes.ofText (String.singleton c), rest)

/-- A text with escapes; `\c` ends it, and all output after it. -/
def unescape : Nat → List Char → Bytes × Bool
  | 0, _ => ([], true)
  | _, [] => ([], true)
  | _, '\\' :: 'c' :: _ => ([], false)
  | fuel + 1, '\\' :: rest =>
    let (bytes, after) := escape true rest
    let (more, goesOn) := unescape fuel after
    (bytes ++ more, goesOn)
  | fuel + 1, c :: rest =>
    let (more, goesOn) := unescape fuel rest
    (Bytes.ofText (String.singleton c) ++ more, goesOn)

structure Directive where
  leftAlign : Bool
  zeros : Bool
  width : Nat
  precision : Option Nat
  kind : Char

def number (cs : List Char) : Nat := (String.ofList cs).toNat?.getD 0

def directive? (cs : List Char) : Option (Directive × List Char) :=
  let isFlag (c : Char) := "-0+ #".contains c
  let flags := cs.takeWhile isFlag
  let cs := cs.dropWhile isFlag
  let width := cs.takeWhile Char.isDigit
  let cs := cs.dropWhile Char.isDigit
  let (precision, cs) := match cs with
    | '.' :: rest => (some (number (rest.takeWhile Char.isDigit)), rest.dropWhile Char.isDigit)
    | cs => (none, cs)
  match cs with
  | [] => none
  | kind :: rest => some (⟨flags.contains '-', flags.contains '0', number width, precision, kind⟩, rest)

def integer (text : String) : Int := text.toInt?.getD 0

def pad (directive : Directive) (numeric : Bool) (text : Bytes) : Bytes :=
  let room := directive.width - text.length
  if directive.leftAlign then text ++ List.replicate room 32
  else if directive.zeros && numeric then
    match text with
    | 45 :: digits => 45 :: List.replicate room 48 ++ digits
    | digits => List.replicate room 48 ++ digits
  else List.replicate room 32 ++ text

def digits (precision : Option Nat) (text : String) : String :=
  "".pushn '0' (precision.getD 1 - text.length) ++ text

def based (base : Nat) (argument : String) : String :=
  String.ofList (Nat.toDigits base (integer argument).toNat)

def directed (directive : Directive) (argument : String) : Bytes :=
  let numeric (text : String) := pad directive true (Bytes.ofText text)
  match directive.kind with
  | 'd' | 'i' =>
    let n := integer argument
    numeric ((if n < 0 then "-" else "") ++ digits directive.precision (toString n.natAbs))
  | 'u' => numeric (digits directive.precision (based 10 argument))
  | 'x' => numeric (digits directive.precision (based 16 argument))
  | 'X' => numeric (digits directive.precision (based 16 argument).toUpper)
  | 'o' => numeric (digits directive.precision (based 8 argument))
  | 'c' => pad directive false ((Bytes.ofText argument).take 1)
  | 'b' => pad directive false (unescape (argument.length + 1) argument.toList).1
  | _ =>
    let bytes := Bytes.ofText argument
    pad directive false (bytes.take (directive.precision.getD bytes.length))

/-- One pass over the format; answers the arguments that are left. -/
def pass : Nat → List Char → List String → Bytes × List String
  | 0, _, arguments => ([], arguments)
  | _, [], arguments => ([], arguments)
  | fuel + 1, '%' :: '%' :: rest, arguments =>
    let (more, left) := pass fuel rest arguments
    (37 :: more, left)
  | fuel + 1, '%' :: rest, arguments =>
    match directive? rest with
    | none => ([37], arguments)
    | some (directive, after) =>
      let (more, left) := pass fuel after (arguments.drop 1)
      (directed directive (arguments.headD "") ++ more, left)
  | fuel + 1, '\\' :: rest, arguments =>
    let (bytes, after) := escape false rest
    let (more, left) := pass fuel after arguments
    (bytes ++ more, left)
  | fuel + 1, c :: rest, arguments =>
    let (more, left) := pass fuel rest arguments
    (Bytes.ofText (String.singleton c) ++ more, left)

/-- The format is used again as long as arguments are left and it takes some. -/
def passes : (most : Nat) → List Char → List String → Bytes
  | 0, _, _ => []
  | most + 1, format, arguments =>
    let (bytes, left) := pass (format.length + 1) format arguments
    if left.isEmpty || left.length = arguments.length then bytes
    else bytes ++ passes most format left

def print (format : String) (arguments : List String) : Bytes :=
  passes (arguments.length + 1) format.toList arguments

end FrameLink.Sandbox.Shell.Format
