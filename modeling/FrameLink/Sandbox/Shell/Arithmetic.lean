/-!
Whole-number expressions with the usual ranks: products, sums, comparisons, equality, and their
combinations. A name stands for the number that its variable spells, or for zero.
-/

namespace FrameLink.Sandbox.Shell.Arithmetic

inductive Token where
  | number (n : Int)
  | name (text : String)
  | mark (text : String)
deriving DecidableEq

def twoMarks : List String := ["<=", ">=", "==", "!=", "&&", "||"]

def tokens : Nat → List Char → List Token
  | 0, _ => []
  | _, [] => []
  | fuel + 1, c :: rest =>
    if c.isWhitespace then tokens fuel rest
    else if c.isDigit then
      let digits := (c :: rest).takeWhile Char.isDigit
      .number ((String.ofList digits).toNat?.getD 0) :: tokens fuel (rest.dropWhile Char.isDigit)
    else if c.isAlpha || c == '_' then
      let isName (c : Char) := c.isAlphanum || c == '_'
      .name (String.ofList ((c :: rest).takeWhile isName)) :: tokens fuel (rest.dropWhile isName)
    else match rest with
      | d :: after =>
        if twoMarks.contains (String.ofList [c, d]) then
          .mark (String.ofList [c, d]) :: tokens fuel after
        else .mark (String.singleton c) :: tokens fuel rest
      | [] => [.mark (String.singleton c)]

/-- The operators of each rank, the loosest first. -/
def ranks : List (List String) :=
  [["||"], ["&&"], ["==", "!="], ["<", ">", "<=", ">="], ["+", "-"], ["*", "/", "%"]]

def truth (b : Bool) : Int := if b then 1 else 0

def apply (mark : String) (a b : Int) : Option Int :=
  match mark with
  | "||" => some (truth (a != 0 || b != 0))
  | "&&" => some (truth (a != 0 && b != 0))
  | "==" => some (truth (a == b))
  | "!=" => some (truth (a != b))
  | "<" => some (truth (a < b))
  | ">" => some (truth (a > b))
  | "<=" => some (truth (a ≤ b))
  | ">=" => some (truth (a ≥ b))
  | "+" => some (a + b)
  | "-" => some (a - b)
  | "*" => some (a * b)
  | "/" => if b = 0 then none else some (a.tdiv b)
  | "%" => if b = 0 then none else some (a.tmod b)
  | _ => none

mutual

/-- An expression whose operators have the ranks given or tighter ones. -/
def ranked (value : String → Int) : Nat → List (List String) → List Token →
    Option (Int × List Token)
  | 0, _, _ => none
  | fuel + 1, [], tokens => operand value fuel tokens
  | fuel + 1, marks :: tighter, tokens => do
    let (first, rest) ← ranked value fuel tighter tokens
    more value fuel marks tighter first rest

def more (value : String → Int) : Nat → List String → List (List String) → Int → List Token →
    Option (Int × List Token)
  | 0, _, _, _, _ => none
  | fuel + 1, marks, tighter, first, .mark mark :: rest =>
    if marks.contains mark then do
      let (second, rest) ← ranked value fuel tighter rest
      more value fuel marks tighter (← apply mark first second) rest
    else some (first, .mark mark :: rest)
  | _, _, _, first, tokens => some (first, tokens)

def operand (value : String → Int) : Nat → List Token → Option (Int × List Token)
  | 0, _ => none
  | _, .number n :: rest => some (n, rest)
  | _, .name name :: rest => some (value name, rest)
  | fuel + 1, .mark "-" :: rest => (operand value fuel rest).map fun (n, rest) => (-n, rest)
  | fuel + 1, .mark "+" :: rest => operand value fuel rest
  | fuel + 1, .mark "!" :: rest =>
    (operand value fuel rest).map fun (n, rest) => (truth (n == 0), rest)
  | fuel + 1, .mark "(" :: rest => do
    match ← ranked value fuel ranks rest with
    | (n, .mark ")" :: rest) => some (n, rest)
    | _ => none
  | _, _ => none

end

def eval? (value : String → Int) (source : String) : Option Int :=
  let cs := source.toList
  let found := tokens (cs.length + 1) cs
  match found with
  | [] => some 0
  | _ =>
    match ranked value (10 * found.length + 10) ranks found with
    | some (n, []) => some n
    | _ => none

end FrameLink.Sandbox.Shell.Arithmetic
