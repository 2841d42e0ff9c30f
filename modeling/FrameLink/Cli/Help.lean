import FrameLink.Cli.Grammar
/-!
What a program says of its arguments: its usage in one line, help with a line for each switch, and
the texts for arguments that cannot be read. Where the switches take much of a line, their help is
on lines of its own.
-/

namespace FrameLink.Cli

variable {σ : Type}

namespace Grammar

def usage (grammar : Grammar σ) : String :=
  let required := (grammar.switches.filter (·.required)).map fun switch => " " ++ switch.shown
  let tail := (grammar.tail.map fun tail => s!" [-- <{tail.placeholder}>...]").getD ""
  s!"Usage: {grammar.program} [OPTIONS]{String.join required}{tail}"

def helpLines (grammar : Grammar σ) : List (String × String × String) :=
  (grammar.switches.map fun switch =>
    ("      ", switch.shown,
      switch.help ++ (switch.default.map fun value => s!" [default: {value}]").getD "")) ++
    [("  -h, ", "--help", "Print help")]

def lineWidth : Nat := 100

/-- Whether some help does not fit beside switches that take more than two fifths of a line. -/
def needsLines (longest : Nat) (lines : List (String × String × String)) : Bool :=
  let taken := longest + 12
  40 * lineWidth < 100 * taken && lines.any fun (_, _, help) => lineWidth - taken < help.length

def helpText (grammar : Grammar σ) : String :=
  let lines := grammar.helpLines
  let longest := lines.foldl (fun longest (_, shown, _) => max longest shown.length) 0
  let line : String × String × String → String := fun (mark, shown, help) =>
    let gap := if needsLines longest lines then "\n          "
      else "".pushn ' ' (longest - shown.length + 2)
    s!"{mark}{shown}{gap}{help}\n"
  let tail := (grammar.tail.map fun tail =>
    s!"Arguments:\n  [{tail.placeholder}]...  {tail.help}\n\n").getD ""
  s!"{grammar.about}\n\n{grammar.usage}\n\n{tail}Options:\n{String.join (lines.map line)}"

/-- Misreadings that concern one value are told without the usage. -/
def complaint (grammar : Grammar σ) (fault : Fault) : String :=
  let usage := grammar.usage ++ "\n\n"
  let more := match fault with
    | .missingValue _ | .invalidValue .. => ""
    | .missing shown => String.join (shown.map fun switch => s!"  {switch}\n") ++ "\n" ++ usage
    | _ => usage
  let gap := match fault with
    | .missing _ => "\n"
    | _ => "\n\n"
  s!"error: {fault.message}{gap}{more}For more information, try '--help'.\n"

end Grammar

end FrameLink.Cli
