/-!
Patterns of characters, in which a star stands for any text, a question mark for any character and
brackets for one of several.
-/

namespace FrameLink.Sandbox.Shell

namespace Pattern

inductive Item where
  | exactly (c : Char)
  | any
  /-- any text -/
  | run
  /-- a character that lies in one of the spans, or in none of them -/
  | oneOf (inside : Bool) (spans : List (Char × Char))
deriving DecidableEq

def Item.accepts (c : Char) : Item → Bool
  | .exactly expected => c = expected
  | .any | .run => true
  | .oneOf inside spans => (spans.any fun (low, high) => low ≤ c && c ≤ high) == inside

def covers : List Item → List Char → Bool
  | [], cs => cs.isEmpty
  | .run :: items, [] => covers items []
  | .run :: items, c :: rest => covers items (c :: rest) || covers (.run :: items) rest
  | _ :: _, [] => false
  | item :: items, c :: rest => item.accepts c && covers items rest
termination_by items cs => items.length + cs.length

def spans : List Char → List (Char × Char)
  | low :: '-' :: high :: rest => (low, high) :: spans rest
  | c :: rest => (c, c) :: spans rest
  | [] => []

/-- Characters with whether they stand for themselves. Brackets that are not closed stand for
themselves. -/
def ofMarked : Nat → List (Bool × Char) → List Item
  | 0, _ => []
  | _, [] => []
  | fuel + 1, (false, '*') :: rest => .run :: ofMarked fuel rest
  | fuel + 1, (false, '?') :: rest => .any :: ofMarked fuel rest
  | fuel + 1, (false, '[') :: rest =>
    let inner := (rest.takeWhile fun marked => marked != (false, ']')).map (·.2)
    match rest.dropWhile fun marked => marked != (false, ']') with
    | _ :: after =>
      (match inner with
      | '!' :: cs => .oneOf false (spans cs)
      | cs => .oneOf true (spans cs)) :: ofMarked fuel after
    | [] => .exactly '[' :: ofMarked fuel rest
  | fuel + 1, (_, c) :: rest => .exactly c :: ofMarked fuel rest

end Pattern

end FrameLink.Sandbox.Shell
