import FrameLink.Log
import FrameLink.Text.Ranges
import FrameLink.Text.Numeral
/-!
Which events are shown. A filter is a list of directives, each of which names the lowest level that is
shown of one part of a program, or of all of it; the most specific directive counts.
-/

namespace FrameLink.Log

def Level.rank : Level → Nat
  | .error => 1
  | .warn => 2
  | .info => 3
  | .debug => 4
  | .trace => 5

/-- The events up to a rank are shown. -/
structure Directive where
  target : String
  rank : Nat
deriving DecidableEq

namespace Directive

inductive Fault where
  | form
  | level
deriving DecidableEq

def Fault.message : Fault → String
  | .form => "invalid filter directive"
  | .level => "error parsing level filter: expected one of \"off\", \"error\", \"warn\", \"info\", " ++
      "\"debug\", \"trace\", or a number 0-5"

def rank? (text : String) : Option Nat :=
  match Numeral.readUpTo? 5 text, Text.lowerAscii text with
  | some rank, _ => some rank
  | none, "off" => some 0
  | none, "error" => some 1
  | none, "warn" => some 2
  | none, "info" => some 3
  | none, "debug" => some 4
  | none, "trace" => some 5
  | none, _ => none

def isTargetStart (c : Char) : Bool := c.isAlphanum || "-:_".contains c || 0x80 ≤ c.toNat

/-- A directive names a part, a level, or both; what is not named is everything. -/
def ofText (text : String) : Except Fault Directive :=
  let text := Text.trim text
  if !text.toList.head?.all isTargetStart || text.contains '[' then .error .form
  else match text.splitOn "=" with
    | [word] => .ok (match rank? word with
      | some rank => ⟨"", rank⟩
      | none => ⟨word, 5⟩)
    | target :: level =>
      let level := "=".intercalate level
      if level.isEmpty then .ok ⟨target, 5⟩
      else match rank? level with
        | some rank => .ok ⟨target, rank⟩
        | none => .error .level
    | [] => .ok ⟨"", 5⟩

end Directive

structure Filter where
  directives : List Directive

namespace Filter

def parts (text : String) : List String := (text.splitOn ",").filter (· ≠ "")

/-- A filter of the directives that can be read, and a remark for each of the others. -/
def ofText (text : String) : Filter × List String :=
  let read := (parts text).map fun part => (part, Directive.ofText part)
  let directives := read.filterMap fun (_, directive) => directive.toOption
  (⟨if directives.isEmpty then [⟨"", 1⟩] else directives⟩,
    read.filterMap fun (part, directive) => match directive with
      | .ok _ => none
      | .error fault => some ("ignoring " ++ String.singleton (Char.ofNat 96) ++ part ++
          String.singleton (Char.ofNat 96) ++ ": " ++ fault.message))

/-- The filter of the environment, if every directive can be read, and else the one of a program. -/
def choose (environment : Option String) (program : String) : Filter × List String :=
  match environment.map ofText with
  | some (filter, []) => (filter, [])
  | _ => ofText program

def shows (origin : String) (level : Level) (filter : Filter) : Bool :=
  let matching := filter.directives.filter fun directive => origin.startsWith directive.target
  let best := matching.foldl (fun best directive => match best with
    | some (chosen : Directive) =>
      if chosen.target.length ≤ directive.target.length then some directive else best
    | none => some directive) none
  best.any fun directive => level.rank ≤ directive.rank

end Filter

end FrameLink.Log
