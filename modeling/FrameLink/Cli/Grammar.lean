import FrameLink.Text.Numeral
import FrameLink.Inet.Address
/-!
The arguments that a program takes: switches, each with what it does to the program's options, and
the words after a double dash. Reading goes from left to right. A switch takes effect when the next
one comes or the words end, so an unknown word hides what is wrong with the switch before it.
-/

namespace FrameLink.Cli

inductive Misfit where
  /-- the value must not be empty -/
  | empty
  | reason (text : String)

inductive Action (σ : Type) where
  | flag (set : σ → σ)
  | value (placeholder : String) (repeats : Bool) (set : String → σ → Except Misfit σ)

structure Switch (σ : Type) where
  name : String
  action : Action σ
  help : String
  /-- what holds when the switch is not given -/
  default : Option String := none
  required : Bool := false

structure Tail (σ : Type) where
  placeholder : String
  help : String
  add : String → σ → σ

structure Grammar (σ : Type) where
  program : String
  about : String
  switches : List (Switch σ)
  tail : Option (Tail σ) := none
  start : σ

inductive Fault where
  | unexpected (word : String)
  | missingValue (shown : String)
  | invalidValue (value shown reason : String)
  | repeated (shown : String)
  | unneededValue (value shown : String)
  | missing (shown : List String)
deriving DecidableEq

def Fault.message : Fault → String
  | .unexpected word => s!"unexpected argument '{word}' found"
  | .missingValue shown => s!"a value is required for '{shown}' but none was supplied"
  | .invalidValue value shown reason => s!"invalid value '{value}' for '{shown}': {reason}"
  | .repeated shown => s!"the argument '{shown}' cannot be used multiple times"
  | .unneededValue value shown =>
    s!"unexpected value '{value}' for '{shown}' found; no more were expected"
  | .missing _ => "the following required arguments were not provided:"

inductive Stop where
  | fault (fault : Fault)
  /-- the words ask for help -/
  | help
deriving DecidableEq

variable {σ : Type}

namespace Switch

def shown (switch : Switch σ) : String :=
  match switch.action with
  | .flag _ => s!"--{switch.name}"
  | .value placeholder _ _ => s!"--{switch.name} <{placeholder}>"

end Switch

/-- A switch whose value is still to come, or to take effect. -/
structure Pending (σ : Type) where
  switch : Switch σ
  set : String → σ → Except Misfit σ
  repeats : Bool
  value : Option String

structure Reading (σ : Type) where
  options : σ
  /-- the names of the switches that have taken effect -/
  given : List String := []
  pending : Option (Pending σ) := none
  /-- after the double dash -/
  tailing : Bool := false

namespace Reading

def note (switch : Switch σ) (repeats : Bool) (reading : Reading σ) : Except Stop (Reading σ) :=
  if !repeats && reading.given.contains switch.name then
    .error (.fault (.repeated switch.shown))
  else .ok { reading with given := switch.name :: reading.given }

def resolve (reading : Reading σ) : Except Stop (Reading σ) := do
  match reading.pending with
  | none => return reading
  | some ⟨switch, _, _, none⟩ => throw (.fault (.missingValue switch.shown))
  | some ⟨switch, set, repeats, some value⟩ =>
    let reading ← { reading with pending := none }.note switch repeats
    match set value reading.options with
    | .ok options => return { reading with options }
    | .error .empty => throw (.fault (.missingValue switch.shown))
    | .error (.reason text) => throw (.fault (.invalidValue value switch.shown text))

end Reading

/-- A word that begins with two dashes: its name, and the value after an equals sign. -/
def long? (word : String) : Option (String × Option String) :=
  match word.toList with
  | '-' :: '-' :: rest =>
    let name := String.ofList (rest.takeWhile (· ≠ '='))
    match rest.dropWhile (· ≠ '=') with
    | [] => some (name, none)
    | _ :: value => some (name, some (String.ofList value))
  | _ => none

def short? (word : String) : Option Char :=
  match word.toList with
  | '-' :: '-' :: _ => none
  | '-' :: c :: _ => some c
  | _ => none

namespace Grammar

def readLong (grammar : Grammar σ) (name : String) (value : Option String) (reading : Reading σ) :
    Except Stop (Reading σ) := do
  match grammar.switches.find? (·.name = name), value with
  | none, none => if name = "help" then let _ ← reading.resolve; throw .help
                  else throw (.fault (.unexpected s!"--{name}"))
  | none, some value =>
    if name = "help" then throw (.fault (.unneededValue value "--help"))
    else throw (.fault (.unexpected s!"--{name}"))
  | some switch, value =>
    match switch.action, value with
    | .flag set, none =>
      let reading ← (← reading.resolve).note switch false
      return { reading with options := set reading.options }
    | .flag _, some value => throw (.fault (.unneededValue value switch.shown))
    | .value _ repeats set, none =>
      let reading ← reading.resolve
      return { reading with pending := some ⟨switch, set, repeats, none⟩ }
    | .value _ repeats set, some value =>
      let reading ← reading.resolve
      Reading.resolve { reading with pending := some ⟨switch, set, repeats, some value⟩ }

def readWord (grammar : Grammar σ) (word : String) (reading : Reading σ) :
    Except Stop (Reading σ) := do
  if reading.tailing then
    match grammar.tail with
    | none => throw (.fault (.unexpected word))
    | some tail =>
      let reading ← reading.resolve
      return { reading with options := tail.add word reading.options }
  else if word = "--" then return { reading with tailing := true }
  else
    match long? word, short? word, reading.pending with
    | some (name, value), _, _ => grammar.readLong name value reading
    | none, some 'h', _ => let _ ← reading.resolve; throw .help
    | none, some c, _ => throw (.fault (.unexpected s!"-{c}"))
    | none, none, some ⟨switch, set, repeats, none⟩ =>
      return { reading with pending := some ⟨switch, set, repeats, some word⟩ }
    | none, none, _ => throw (.fault (.unexpected word))

def read (grammar : Grammar σ) (words : List String) : Except Stop σ := do
  let reading ← words.foldlM (fun reading word => grammar.readWord word reading)
    { options := grammar.start }
  let reading ← reading.resolve
  let missing := grammar.switches.filter fun switch =>
    switch.required && !reading.given.contains switch.name
  if missing.isEmpty then return reading.options
  else throw (.fault (.missing (missing.map (·.shown))))

end Grammar

/-! Kinds of values. -/

def text (set : String → σ → σ) (value : String) (options : σ) : Except Misfit σ :=
  .ok (set value options)

def path (set : String → σ → σ) (value : String) (options : σ) : Except Misfit σ :=
  if value.isEmpty then .error .empty else .ok (set value options)

def port (set : UInt16 → σ → σ) (value : String) (options : σ) : Except Misfit σ :=
  match Numeral.readBetween 9223372036854775807 value with
  | .error fault => .error (.reason fault.message)
  | .ok n =>
    if 0 ≤ n ∧ n ≤ 65535 then .ok (set (UInt16.ofNat n.toNat) options)
    else .error (.reason s!"{n} is not in 0..=65535")

def count (set : UInt64 → σ → σ) (value : String) (options : σ) : Except Misfit σ :=
  match Numeral.readUpTo (UInt64.size - 1) value with
  | .error fault => .error (.reason fault.message)
  | .ok n => .ok (set (UInt64.ofNat n) options)

def address (set : Inet.Address → σ → σ) (value : String) (options : σ) : Except Misfit σ :=
  match Inet.Address.ofText? value with
  | none => .error (.reason "invalid IP address syntax")
  | some address => .ok (set address options)

end FrameLink.Cli
