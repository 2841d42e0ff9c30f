import FrameLink.Text.Ranges
/-!
Files of environment variables. A line sets one variable: a name, an equals sign and a value, in which
quotes, escapes and the values of other variables may stand. Reading ends at the first line that
cannot be read, and a variable that is set already keeps its value.
-/

namespace FrameLink.Cli.DotEnv

open Text

abbrev Environment := List (String × String)

def isNameStart (c : Char) : Bool := c.isAlpha || c == '_'

def isName (c : Char) : Bool := c.isAlphanum || c == '_' || c == '.'

/-- What the name after a dollar sign is made of. Beyond ASCII every character counts that has a
shape. -/
def isLetterOrNumber (c : Char) : Bool := c.isAlphanum || 0x80 ≤ c.toNat && !isBlank c

def skipBlanks (cs : List Char) : List Char := cs.dropWhile isBlank

def name? (cs : List Char) : Option (String × List Char) :=
  if cs.head?.any isNameStart then some (String.ofList (cs.takeWhile isName), cs.dropWhile isName)
  else none

def equals? : List Char → Option (List Char)
  | '=' :: rest => some rest
  | _ => none

inductive Mode where
  | bare
  | single
  | double
  /-- after a backslash, inside double quotes or not -/
  | escape (quoted : Bool)
  /-- the name after a dollar sign, or in braces -/
  | named (quoted braces : Bool) (name : String)
  /-- after a blank, where only a comment may follow -/
  | ended

def valueOf (known : Environment) (name : String) : String := (known.lookup name).getD ""

def home (quoted : Bool) : Mode := if quoted then .double else .bare

def value? (known : Environment) : Mode → List Char → String → Option String
  | .bare, [], done | .ended, [], done | .escape false, [], done => some done
  | .named false false name, [], done => some (done ++ valueOf known name)
  | _, [], _ => none
  | .ended, c :: rest, done =>
    if c == ' ' || c == '\t' then value? known .ended rest done
    else if c == '#' then some done
    else none
  | .escape quoted, c :: rest, done =>
    if "\\'\"$ ".contains c then value? known (home quoted) rest (done.push c)
    else if c == 'n' then value? known (home quoted) rest (done.push '\n')
    else none
  | .single, c :: rest, done =>
    if c == '\'' then value? known .bare rest done else value? known .single rest (done.push c)
  | .named quoted true name, c :: rest, done =>
    if c == '\x7d' then value? known (home quoted) rest (done ++ valueOf known name)
    else value? known (.named quoted true (name.push c)) rest done
  | .named quoted false name, c :: rest, done =>
    if isLetterOrNumber c then value? known (.named quoted false (name.push c)) rest done
    else if c == '\x7b' && name.isEmpty then value? known (.named quoted true "") rest done
    else
      let done := done ++ valueOf known name
      if c == '$' then value? known (.named quoted false "") rest done
      else value? known (home quoted) rest (done.push c)
  | .double, c :: rest, done =>
    if c == '$' then value? known (.named true false "") rest done
    else if c == '"' then value? known .bare rest done
    else if c == '\\' then value? known (.escape true) rest done
    else value? known .double rest (done.push c)
  | .bare, c :: rest, done =>
    if c == '$' then value? known (.named false false "") rest done
    else if c == '\'' then value? known .single rest done
    else if c == '"' then value? known .double rest done
    else if c == '\\' then value? known (.escape false) rest done
    else if c == ' ' || c == '\t' then value? known .ended rest done
    else value? known .bare rest (done.push c)

/-- The name and the equals sign of a line, after which its value follows. A name may be exported. -/
def assigned? (cs : List Char) : Option (String × List Char) := do
  let (name, rest) ← name? cs
  let rest := skipBlanks rest
  match equals? rest with
  | some value => return (name, skipBlanks value)
  | none =>
    if name = "export" then
      let (name, rest) ← name? rest
      let value ← equals? (skipBlanks rest)
      return (name, skipBlanks value)
    else none

inductive Line where
  | nothing
  | sets (name value : String)
  | unreadable

def isComment (cs : List Char) : Bool := cs.isEmpty || cs.head? == some '#'

def line (known : Environment) (text : String) : Line :=
  let cs := skipBlanks (text.toList.reverse.dropWhile isBlank).reverse
  if isComment cs then .nothing
  else match assigned? cs with
    | none => .unreadable
    | some (name, rest) =>
      if isComment rest then .sets name ""
      else match value? known .bare rest "" with
        | some value => .sets name value
        | none => .unreadable

/-- Sets what the lines say. Values see the variables that are set, and then those of the lines
before. -/
def loadLines : List String → Environment → Environment → Environment
  | [], _, environment => environment
  | text :: rest, read, environment =>
    match line (environment ++ read) text with
    | .nothing => loadLines rest read environment
    | .unreadable => environment
    | .sets name value =>
      loadLines rest ((name, value) :: read)
        (if (environment.lookup name).isSome then environment else environment ++ [(name, value)])

def load (content : String) (environment : Environment) : Environment :=
  loadLines (content.splitOn "\n") [] environment

end FrameLink.Cli.DotEnv
