import FrameLink.Sandbox.Shell.Syntax
/-!
Reading scripts. Tokens are words and operators; a script is read from its tokens by descent. Each
function takes a count of steps that the length of the script bounds.
-/

namespace FrameLink.Sandbox.Shell

inductive Token where
  /-- a word, and its text when that stands there bare -/
  | word (word : Word) (bare : Option String)
  | operator (text : String)
  /-- a redirection operator with the number before it -/
  | redirect (stream : Option Nat) (text : String)

namespace Reader

def isNameStart (c : Char) : Bool := c.isAlpha || c == '_'

def isName (c : Char) : Bool := c.isAlphanum || c == '_'

def isSpecial (c : Char) : Bool := "#?$!@*-0123456789".contains c

def upTo (mark : Char) (cs : List Char) : List Char × List Char :=
  (cs.takeWhile (· ≠ mark), (cs.dropWhile (· ≠ mark)).drop 1)

/-- The text up to the second of two closing brackets in a row. -/
def upToBrackets : List Char → List Char × List Char
  | ')' :: ')' :: rest => ([], rest)
  | c :: rest => let (inner, after) := upToBrackets rest; (c :: inner, after)
  | [] => ([], [])

/-- The text up to the closing bracket of so many open ones, outside quotes. -/
def upToBracket : (depth : Nat) → (quote : Option Char) → List Char → List Char × List Char
  | _, _, [] => ([], [])
  | depth, quote, c :: rest =>
    let go (depth : Nat) (quote : Option Char) : List Char × List Char :=
      let (inner, after) := upToBracket depth quote rest
      (c :: inner, after)
    match quote with
    | some mark => go depth (if c = mark then none else quote)
    | none =>
      if c = '\'' || c = '"' then go depth (some c)
      else if c = '(' then go (depth + 1) none
      else if c = ')' then if depth ≤ 1 then ([], rest) else go (depth - 1) none
      else go depth none

/-- What stands in braces: a name, perhaps with what to put in its place. -/
def braced (cs : List Char) : Piece :=
  let name := String.ofList (cs.takeWhile fun c => isName c || c = '@' || c = '*' || c = '?')
  match cs, cs.drop name.length with
  | '#' :: c :: rest, _ => .length (String.ofList (c :: rest))
  | _, ':' :: '-' :: text | _, ':' :: '=' :: text => .fallback name true (String.ofList text)
  | _, '-' :: text | _, '=' :: text => .fallback name false (String.ofList text)
  | _, [] => .parameter name
  | _, _ => .parameter (String.ofList cs)

/-- The mark around a script whose output is put in its place. -/
def backMark : Char := Char.ofNat 96

def dollar (fuel : Nat) (cs : List Char) : Piece × List Char :=
  match fuel, cs with
  | fuel + 1, '(' :: '(' :: rest =>
    let (inner, after) := upToBrackets rest
    (.arithmetic (pieces fuel inner), after)
  | _, '(' :: rest =>
    let (script, after) := upToBracket 1 none rest
    (.substitution (String.ofList script), after)
  | _, '\x7b' :: rest =>
    let (inner, after) := upTo '\x7d' rest
    (braced inner, after)
  | _, c :: rest =>
    if isNameStart c then
      (.parameter (String.ofList ((c :: rest).takeWhile isName)), rest.dropWhile isName)
    else if isSpecial c then (.parameter (String.singleton c), rest)
    else (.text "$", c :: rest)
  | _, [] => (.text "$", [])
where
  /-- Bare text with parameters in it. -/
  pieces : Nat → List Char → List Piece
    | 0, _ => []
    | _, [] => []
    | fuel + 1, '$' :: rest =>
      let (piece, after) := dollar fuel rest
      piece :: pieces fuel after
    | fuel + 1, c :: rest => .text (String.singleton c) :: pieces fuel rest

def doubleQuoted : Nat → List Char → Word → Word × List Char
  | 0, cs, done => (done, cs)
  | _, [], done => (done, [])
  | _, '"' :: rest, done => (done, rest)
  | fuel + 1, '\\' :: c :: rest, done =>
    if "\\\"$".contains c || c == backMark then
      doubleQuoted fuel rest (done ++ [(true, .text (String.singleton c))])
    else if c == '\n' then doubleQuoted fuel rest done
    else doubleQuoted fuel rest (done ++ [(true, .text ("\\" ++ String.singleton c))])
  | fuel + 1, '$' :: rest, done =>
    let (piece, after) := dollar fuel rest
    doubleQuoted fuel after (done ++ [(true, piece)])
  | fuel + 1, c :: rest, done =>
    if c == backMark then
      let (script, after) := upTo backMark rest
      doubleQuoted fuel after (done ++ [(true, .substitution (String.ofList script))])
    else doubleQuoted fuel rest (done ++ [(true, .text (String.singleton c))])

def isBreak (c : Char) : Bool := " \t\n;&|<>()".contains c

def word : Nat → List Char → Word → Word × List Char
  | 0, cs, done => (done, cs)
  | _, [], done => (done, [])
  | fuel + 1, c :: rest, done =>
    if c == '\'' then
      let (inner, after) := upTo '\'' rest
      word fuel after (done ++ [(true, .text (String.ofList inner))])
    else if c == '"' then
      let (inner, after) := doubleQuoted fuel rest [(true, .text "")]
      word fuel after (done ++ inner)
    else if c == '\\' then
      match rest with
      | '\n' :: rest => word fuel rest done
      | c :: rest => word fuel rest (done ++ [(true, .text (String.singleton c))])
      | [] => (done ++ [(false, .text "\\")], [])
    else if c == '$' then
      let (piece, after) := dollar fuel rest
      word fuel after (done ++ [(false, piece)])
    else if c == backMark then
      let (script, after) := upTo backMark rest
      word fuel after (done ++ [(false, .substitution (String.ofList script))])
    else if isBreak c then (done, c :: rest)
    else word fuel rest (done ++ [(false, .text (String.singleton c))])

def bare? (word : Word) : Option String :=
  word.foldl (fun text piece => match text, piece with
    | some text, (false, .text more) => some (text ++ more)
    | _, _ => none) (some "")

/-- The longest redirection operator at the front. -/
def redirection : List Char → Option (String × List Char)
  | '>' :: '>' :: rest => some (">>", rest)
  | '>' :: '&' :: rest => some (">&", rest)
  | '<' :: '&' :: rest => some ("<&", rest)
  | '>' :: '|' :: rest => some (">", rest)
  | '>' :: rest => some (">", rest)
  | '<' :: rest => some ("<", rest)
  | _ => none

def tokens : Nat → List Char → List Token
  | 0, _ => []
  | _, [] => []
  | fuel + 1, c :: rest =>
    if c == ' ' || c == '\t' then tokens fuel rest
    else if c == '#' then tokens fuel (rest.dropWhile (· ≠ '\n'))
    else if c == '\n' then .operator ";" :: tokens fuel rest
    else match redirection (c :: rest) with
      | some (text, after) => .redirect none text :: tokens fuel after
      | none =>
        match c, rest with
        | '&', '&' :: rest => .operator "&&" :: tokens fuel rest
        | '|', '|' :: rest => .operator "||" :: tokens fuel rest
        | ';', ';' :: rest => .operator ";;" :: tokens fuel rest
        | '\\', '\n' :: rest => tokens fuel rest
        | _, _ =>
          if ";&|()".contains c then .operator (String.singleton c) :: tokens fuel rest
          else
            let (found, after) := word (rest.length + 1) (c :: rest) []
            match bare? found, redirection after with
            | some text, some (mark, beyond) =>
              match text.toNat? with
              | some stream => .redirect (some stream) mark :: tokens fuel beyond
              | none => .word found (some text) :: tokens fuel after
            | text, _ => .word found text :: tokens fuel after

def isCloser (text : String) : Bool :=
  ["then", "else", "elif", "fi", "do", "done", "\x7d", "esac"].contains text

abbrev Parse (α : Type) := List Token → Option (α × List Token)

def skipBreaks : List Token → List Token
  | .operator ";" :: rest => skipBreaks rest
  | tokens => tokens

def keyword (text : String) (tokens : List Token) : Option (List Token) :=
  match skipBreaks tokens with
  | .word _ (some found) :: rest => if found = text then some rest else none
  | _ => none

def redirectOf (stream : Option Nat) (mark : String) (file : Word) : Redirect :=
  match mark with
  | ">" => ⟨stream.getD 1, .write file false⟩
  | ">>" => ⟨stream.getD 1, .write file true⟩
  | ">&" => ⟨stream.getD 1, .copy (((bare? file).bind String.toNat?).getD 1)⟩
  | "<&" => ⟨stream.getD 0, .copy (((bare? file).bind String.toNat?).getD 0)⟩
  | _ => ⟨stream.getD 0, .read file⟩

def redirects : List Token → List Redirect × List Token
  | .redirect stream mark :: .word file _ :: rest =>
    let (more, after) := redirects rest
    (redirectOf stream mark file :: more, after)
  | tokens => ([], tokens)

def assignment? (word : Word) : Option (String × Word) :=
  let isBare : Bool × Piece → Bool
    | (false, .text text) => text ≠ "="
    | _ => false
  let name := (bare? (word.takeWhile isBare)).getD ""
  match word.dropWhile isBare with
  | (false, .text "=") :: value =>
    if (name.toList.head?.any isNameStart) && name.toList.all isName then some (name, value) else none
  | _ => none

def simple : List Token → List (String × Word) → List Word → List Redirect →
    Command × List Token
  | .word word _ :: rest, assigns, words, redirects =>
    match words, assignment? word with
    | [], some assign => simple rest (assigns ++ [assign]) words redirects
    | _, _ => simple rest assigns (words ++ [word]) redirects
  | .redirect stream mark :: .word file _ :: rest, assigns, words, redirects =>
    simple rest assigns words (redirects ++ [redirectOf stream mark file])
  | tokens, assigns, words, redirects => (.simple assigns words redirects, tokens)

def wordList : List Token → List Word × List Token
  | .word word _ :: rest => let (more, after) := wordList rest; (word :: more, after)
  | tokens => ([], tokens)

/-- The patterns of a clause, up to its bracket. -/
def patterns : Parse (List Word)
  | .operator "(" :: rest => patterns rest
  | .word word _ :: .operator ")" :: rest => some ([word], rest)
  | .word word _ :: .operator "|" :: rest => do
    let (more, rest) ← patterns rest
    return (word :: more, rest)
  | _ => none

mutual

def list : Nat → Parse Command
  | 0, _ => none
  | fuel + 1, tokens =>
    match skipBreaks tokens with
    | [] => some (.skip, [])
    | .operator ")" :: rest => some (.skip, .operator ")" :: rest)
    | .operator ";;" :: rest => some (.skip, .operator ";;" :: rest)
    | tokens@(.word _ (some text) :: _) =>
      if isCloser text then some (.skip, tokens) else items fuel tokens
    | tokens => items fuel tokens

def items : Nat → Parse Command
  | 0, _ => none
  | fuel + 1, tokens => do
    let (first, rest) ← chain fuel tokens
    match rest with
    | .operator ";" :: rest => do
      let (second, rest) ← list fuel rest
      return (.sequence first second, rest)
    | rest => return (first, rest)

def chain : Nat → Parse Command
  | 0, _ => none
  | fuel + 1, tokens => do
    let (first, rest) ← negated fuel tokens
    links fuel first rest

def links : Nat → Command → Parse Command
  | 0, _, _ => none
  | fuel + 1, first, .operator "&&" :: rest => do
    let (second, rest) ← negated fuel (skipBreaks rest)
    links fuel (.chain true first second) rest
  | fuel + 1, first, .operator "||" :: rest => do
    let (second, rest) ← negated fuel (skipBreaks rest)
    links fuel (.chain false first second) rest
  | _, first, tokens => some (first, tokens)

def negated : Nat → Parse Command
  | 0, _ => none
  | fuel + 1, .word _ (some "!") :: rest => do
    let (inner, rest) ← negated fuel rest
    return (.negate inner, rest)
  | fuel + 1, tokens => do
    let (first, rest) ← compound fuel tokens
    pipes fuel first rest

def pipes : Nat → Command → Parse Command
  | 0, _, _ => none
  | fuel + 1, first, .operator "|" :: rest => do
    let (second, rest) ← compound fuel (skipBreaks rest)
    pipes fuel (.pipe first second) rest
  | _, first, tokens => some (first, tokens)

def compound : Nat → Parse Command
  | 0, _ => none
  | fuel + 1, .operator "(" :: rest => do
    let (body, rest) ← list fuel rest
    match rest with
    | .operator ")" :: rest =>
      let (sent, rest) := redirects rest
      return (.group true body sent, rest)
    | _ => none
  | fuel + 1, .word _ (some name) :: .operator "(" :: .operator ")" :: rest => do
    let (body, rest) ← compound fuel (skipBreaks rest)
    return (.define name body, rest)
  | fuel + 1, .word word (some text) :: rest =>
    match text with
    | "\x7b" => do
      let (body, rest) ← list fuel rest
      let rest ← keyword "\x7d" rest
      let (sent, rest) := redirects rest
      return (.group false body sent, rest)
    | "while" | "until" => do
      let (condition, rest) ← list fuel rest
      let rest ← keyword "do" rest
      let (body, rest) ← list fuel rest
      let rest ← keyword "done" rest
      let (sent, rest) := redirects rest
      return (.group false (.loop (text == "while") condition body) sent, rest)
    | "for" =>
      match rest with
      | .word _ (some name) :: rest => do
        let (words, rest) ← match keyword "in" rest with
          | some rest => some (wordList rest)
          | none => some ([[(true, .parameter "@")]], rest)
        let rest ← keyword "do" rest
        let (body, rest) ← list fuel rest
        let rest ← keyword "done" rest
        let (sent, rest) := redirects rest
        return (.group false (.each name words body) sent, rest)
      | _ => none
    | "case" =>
      match rest with
      | .word word _ :: rest => do
        let rest ← keyword "in" rest
        let (clauses, rest) ← clauses fuel rest
        let (sent, rest) := redirects rest
        return (.group false (.select word clauses) sent, rest)
      | _ => none
    | "if" => do
      let (command, rest) ← branches fuel rest
      let (sent, rest) := redirects rest
      return (.group false command sent, rest)
    | _ => if isCloser text then none else some (simple (.word word (some text) :: rest) [] [] [])
  | _, tokens@(.word ..  :: _) => some (simple tokens [] [] [])
  | _, tokens@(.redirect .. :: _) => some (simple tokens [] [] [])
  | _, _ => none

/-- A condition and what follows it, up to the end of the branch. -/
def branches : Nat → Parse Command
  | 0, _ => none
  | fuel + 1, tokens => do
    let (condition, rest) ← list fuel tokens
    let rest ← keyword "then" rest
    let (yes, rest) ← list fuel rest
    match keyword "fi" rest with
    | some rest => return (.branch condition yes .skip, rest)
    | none =>
      match keyword "elif" rest with
      | some rest => do
        let (no, rest) ← branches fuel rest
        return (.branch condition yes no, rest)
      | none => do
        let rest ← keyword "else" rest
        let (no, rest) ← list fuel rest
        let rest ← keyword "fi" rest
        return (.branch condition yes no, rest)

def clauses : Nat → Parse (List (List Word × Command))
  | 0, _ => none
  | fuel + 1, tokens =>
    match keyword "esac" tokens with
    | some rest => some ([], rest)
    | none => do
      let (patterns, rest) ← patterns (skipBreaks tokens)
      let (body, rest) ← list fuel rest
      match rest with
      | .operator ";;" :: rest => do
        let (more, rest) ← clauses fuel rest
        return ((patterns, body) :: more, rest)
      | rest => do
        let rest ← keyword "esac" rest
        return ([(patterns, body)], rest)

end

def script? (text : String) : Option Command :=
  let cs := text.toList
  let found := tokens (cs.length + 1) cs
  match list (8 * found.length + 8) found with
  | some (command, []) => some command
  | _ => none

end Reader

end FrameLink.Sandbox.Shell
