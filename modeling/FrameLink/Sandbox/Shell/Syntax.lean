/-!
The scripts of a small command shell: words with quotes, parameters and substitutions, simple commands
with redirections, pipes, lists, loops, branches and functions.
-/

namespace FrameLink.Sandbox.Shell

inductive Piece where
  /-- literal text -/
  | text (text : String)
  /-- the value of a parameter -/
  | parameter (name : String)
  /-- the value of a parameter, or a text when that is unset or, with `orEmpty`, empty -/
  | fallback (name : String) (orEmpty : Bool) (text : String)
  /-- how long the value of a parameter is -/
  | length (name : String)
  /-- the value of an arithmetic expression -/
  | arithmetic (source : List Piece)
  /-- what a script writes -/
  | substitution (script : String)
  /-- what a script has written -/
  | written (text : String)

/-- Each piece with whether it stands in quotes. -/
abbrev Word := List (Bool × Piece)

inductive Target where
  /-- a file, emptied first unless it is appended to -/
  | write (file : Word) (append : Bool)
  | read (file : Word)
  /-- where another stream goes -/
  | copy (stream : Nat)

structure Redirect where
  stream : Nat
  target : Target

def Redirect.isInput (redirect : Redirect) : Bool :=
  match redirect.target with
  | .read _ => true
  | .copy _ => redirect.stream = 0
  | .write .. => false

inductive Command where
  | simple (assigns : List (String × Word)) (words : List Word) (redirects : List Redirect)
  | sequence (first second : Command)
  /-- the second runs if the first succeeds, or if it fails -/
  | chain (onSuccess : Bool) (first second : Command)
  | negate (command : Command)
  /-- runs the body as long as the condition succeeds, or as long as it fails -/
  | loop (whileTrue : Bool) (condition body : Command)
  | each (name : String) (words : List Word) (body : Command)
  | branch (condition yes no : Command)
  /-- the first clause with a pattern that covers the word -/
  | select (word : Word) (clauses : List (List Word × Command))
  /-- the second reads what the first writes -/
  | pipe (first second : Command)
  | define (name : String) (body : Command)
  | group (subshell : Bool) (body : Command) (redirects : List Redirect)
  | skip

instance : Inhabited Command := ⟨.skip⟩

namespace Word

/-- The first script whose output the word holds. -/
def script? (word : Word) : Option String :=
  word.findSome? fun
    | (_, .substitution script) => some script
    | _ => none

def fill (text : String) : Word → Word
  | [] => []
  | (quoted, .substitution _) :: rest => (quoted, .written text) :: rest
  | piece :: rest => piece :: fill text rest

def fillFirst (text : String) : List Word → List Word
  | [] => []
  | word :: rest =>
    if word.script?.isSome then word.fill text :: rest else word :: fillFirst text rest

end Word

namespace Command

def needs : Command → List Word
  | .simple assigns words _ => words ++ assigns.map (·.2)
  | .each _ words _ => words
  | .select word _ => [word]
  | _ => []

/-- The script that has to run first. -/
def script? (command : Command) : Option String := command.needs.findSome? Word.script?

def fill (text : String) (command : Command) : Command :=
  let filled := Word.fillFirst text command.needs
  match command with
  | .simple assigns words redirects =>
    .simple (assigns.zipWith (fun assign word => (assign.1, word)) (filled.drop words.length))
      (filled.take words.length) redirects
  | .each name _ body => .each name filled body
  | .select word clauses => .select (filled.headD word) clauses
  | command => command

end Command

end FrameLink.Sandbox.Shell
