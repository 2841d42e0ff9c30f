import FrameLink.Sandbox.Shell.Builtins
/-!
The commands that write what they read, or some of it: from the files that they are given or, without
any, from their input.
-/

namespace FrameLink.Sandbox.Shell.Filters

structure Source where
  content : Bytes := []
  error : String := ""
  /-- what is left of the input -/
  left : Option Bytes := none

def Source.add (state : State) (store : Store) (name : String) (source : Source) (file : String) :
    Source :=
  if file = "-" then
    { source with content := source.content ++ source.left.getD state.streams.input, left := some [] }
  else
    let path := state.path file
    match if path = "/dev/null" then some [] else store.read? (.file path) with
    | some content => { source with content := source.content ++ content }
    | none => { source with error := source.error ++ s!"{name}: {file}: No such file or directory\n" }

def source (state : State) (store : Store) (name : String) (files : List String) : Source :=
  (if files.isEmpty then ["-"] else files).foldl (Source.add state store name) {}

def Source.effect (source : Source) (output : Bytes) : Effect :=
  { status := if source.error.isEmpty then 0 else 1, output, error := source.error
    left := source.left }

/-- Lines with their ends; the last one may lack it. -/
def lines (content : Bytes) : List Bytes :=
  let (done, last) := content.foldl (fun (done, line) byte =>
    if byte = 10 then (line.reverse.concat 10 :: done, []) else (done, byte :: line))
    (([], []) : List Bytes × Bytes)
  (if last.isEmpty then done else last.reverse :: done).reverse

/-- How much of a text is wanted, ten lines if nothing is said: whether it is in bytes, how many, and
the files that are named. -/
def amount : List String → Bool × Nat × List String
  | "-n" :: count :: files => (false, count.toNat?.getD 10, files)
  | "-c" :: count :: files => (true, count.toNat?.getD 10, files)
  | option :: files =>
    let rest := (option.drop 2).toString
    if option.startsWith "-n" then (false, rest.toNat?.getD 10, files)
    else if option.startsWith "-c" then (true, rest.toNat?.getD 10, files)
    else match if option.startsWith "-" then (option.drop 1).toString.toNat? else none with
      | some count => (false, count, files)
      | none => (false, 10, option :: files)
  | [] => (false, 10, [])

def head (state : State) (store : Store) (arguments : List String) : Effect :=
  match amount arguments with
  | (true, count, ["/dev/zero"]) => { output := List.replicate count 0 }
  | (isBytes, count, files) =>
    let source := source state store "head" files
    source.effect (if isBytes then source.content.take count
      else ((lines source.content).take count).flatten)

def tail (state : State) (store : Store) (arguments : List String) : Effect :=
  let (isBytes, count, files) := amount arguments
  let source := source state store "tail" files
  let last {α : Type} (items : List α) : List α := items.drop (items.length - count)
  source.effect (if isBytes then last source.content else (last (lines source.content)).flatten)

def count (state : State) (store : Store) (arguments : List String) : Effect :=
  let files := arguments.filter fun argument => !argument.startsWith "-"
  let source := source state store "wc" files
  let isBlank (byte : UInt8) : Bool := byte = 32 || 9 ≤ byte && byte ≤ 13
  let words (content : Bytes) : Nat :=
    (content.foldl (fun (n, inside) byte =>
      (if !isBlank byte && !inside then n + 1 else n, !isBlank byte)) (0, false)).1
  let number := if arguments.contains "-c" then source.content.length
    else if arguments.contains "-w" then words source.content
    else source.content.count 10
  source.effect (Bytes.ofText (" ".intercalate (toString number :: files) ++ "\n"))

/-- The bytes that a set of characters with spans and escapes stands for. -/
def set (text : String) : Bytes :=
  spread (Format.unescape (text.length + 1) text.toList).1
where
  spread : Bytes → Bytes
    | low :: 45 :: high :: rest =>
      ((List.range (high.toNat + 1 - low.toNat)).map fun n => UInt8.ofNat (low.toNat + n)) ++
        spread rest
    | byte :: rest => byte :: spread rest
    | [] => []

/-- Puts the bytes of one set in the place of those of another, or leaves them out. -/
def substitute (state : State) (arguments : List String) : Effect :=
  let input := state.streams.input
  match arguments with
  | ["-d", unwanted] =>
    let unwanted := set unwanted
    { output := input.filter fun byte => !unwanted.contains byte, left := some [] }
  | [before, after] =>
    let before := set before
    let after := set after
    { left := some []
      output := input.map fun byte =>
        match before.idxOf? byte with
        | some place => (after[place]?).getD (after.getLastD byte)
        | none => byte }
  | _ => { status := 1, error := "tr: missing operand\n" }

def run? (state : State) (store : Store) : List String → Option Effect
  | "cat" :: files =>
    let source := source state store "cat" files
    some (source.effect source.content)
  | "head" :: arguments => some (head state store arguments)
  | "tail" :: arguments => some (tail state store arguments)
  | "wc" :: arguments => some (count state store arguments)
  | "tr" :: arguments => some (substitute state arguments)
  | _ => none

end FrameLink.Sandbox.Shell.Filters
