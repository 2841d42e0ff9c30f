import FrameLink.Sandbox.Shell.Calls
/-!
Running a script, one small step at a time.
-/

namespace FrameLink.Sandbox.Shell

namespace State

/-- A command that runs apart, and cannot change what the others know. -/
def apart (command : Command) : Command := .group true command []

/-- The name of a command that may be given with the place where it is found. -/
def bareName (name : String) : String :=
  match name.splitOn "/" with
  | ["", "bin", bare] | ["", "usr", "bin", bare] => bare
  | _ => name

def simple (assigns : List (String × Word)) (words : List Word) (redirects : List Redirect)
    (state : State) (store : Store) : Pace × Store :=
  let fields := match state.expandAll words with
    | [] => []
    | name :: rest => bareName name :: rest
  match state.redirect redirects store with
  | none =>
    let effect := Effect.complain state.name "cannot open file" 2
    let (state, store) := state.apply effect store
    (.goesOn state, store)
  | some (sent, store) =>
    let sent := match fields with
      | [] =>
        let isWritten : Bool × Piece → Bool
          | (_, .written _) => true
          | _ => false
        let status := if assigns.any (·.2.any isWritten) then sent.status else 0
        assigns.foldl (fun (state : State) (name, word) =>
          state.assign name (state.expandOne word)) { sent with status }
      | _ => sent
    let back (after : State) : State :=
      if fields.head? = some "exec" then after
      else after.restore state.streams (redirects.all (!·.isInput))
    let inside (body : Command) (arguments : List String) : State :=
      let inner := (sent.push (.streams state.streams (redirects.all (!·.isInput)))).push
        (.call state.arguments)
      { inner with arguments }.push (.run body)
    match state.functions.lookup (fields.headD ""), fields with
    | some body, _ => (.goesOn (inside body (fields.drop 1)), store)
    | none, "sh" :: "-c" :: script :: rest =>
      (.goesOn (inside (apart ((Reader.script? script).getD .skip)) (rest.drop 1)), store)
    | none, _ =>
      match sent.call fields store with
      | (.goesOn after, store) => ((back after).check, store)
      | (.sleeps span after, store) => (.sleeps span (back after), store)
      | result => result

/-- Where the output of a script goes that another command needs. Scripts inside have a deeper stack. -/
def held (state : State) : Sink := .held state.pid state.stack.length

/-- Runs a command apart, whose output is kept. -/
def capture (command : Command) (next : Frame) (state : State) (store : Store) : Pace × Store :=
  let output := state.held
  let inner := { state with streams := { state.streams with output } }
  (.goesOn ((inner.push next).push (.run (apart command))), store.erase output)

def writtenText (content : Bytes) : String :=
  Utf8.lossy (content.reverse.dropWhile (· = 10)).reverse

def take (command : Command) (state : State) (store : Store) : Pace × Store :=
  match command.script? with
  | some script =>
    state.capture ((Reader.script? script).getD .skip) (.fill command state.held state.streams) store
  | none =>
  match command with
  | .skip => (.goesOn state, store)
  | .simple assigns words redirects => state.simple assigns words redirects store
  | .sequence first second => (.goesOn ((state.push (.run second)).push (.run first)), store)
  | .chain onSuccess first second =>
    (.goesOn ((state.push (.chain onSuccess second)).push (.run first)), store)
  | .negate inner => (.goesOn ((state.push .negate).push (.run inner)), store)
  | .loop whileTrue condition body =>
    (.goesOn ((state.push (.loop whileTrue condition body true)).push (.run condition)), store)
  | .each name words body =>
    (.goesOn ({ state with status := 0 }.push (.each name (state.expandAll words) body)), store)
  | .branch condition yes no =>
    (.goesOn ((state.push (.branch yes no)).push (.run condition)), store)
  | .select word clauses =>
    let text := (state.expandOne word).toList
    let clause := clauses.find? fun clause =>
      clause.1.any fun pattern => Pattern.covers (state.pattern pattern) text
    let state := { state with status := 0 }
    (.goesOn (match clause with
      | some (_, body) => state.push (.run body)
      | none => state), store)
  | .pipe first second => state.capture first (.pipe second state.held state.streams) store
  | .define name body =>
    (.goesOn { state with
      status := 0
      functions := (name, body) :: state.functions.filter fun entry => entry.1 != name }, store)
  | .group subshell body redirects =>
    match state.redirect redirects store with
    | none => (.goesOn { state with status := 2 }, store)
    | some (sent, store) =>
      let sent := sent.push (.streams state.streams (redirects.all (!·.isInput)))
      let inner := if subshell then
          sent.push (.parent state.bindings state.directory state.trap) else sent
      (.goesOn (inner.push (.run body)), store)

/-- One step. A request to exit is answered between commands. -/
def step (state : State) (store : Store) : Pace × Store :=
  match state.asked, state.trap with
  | true, .default => (.dies, store)
  | true, .run command => (.goesOn (({ state with asked := false }.push
      (.status state.status)).push (.run command)), store)
  | _, _ =>
    let state := { state with asked := false }
    match state.stack with
    | [] => (state.exit state.status, store)
    | frame :: rest =>
      let state := { state with stack := rest }
      match frame with
      | .run command => state.take command store
      | .chain onSuccess second =>
        (.goesOn (if (state.status == 0) == onSuccess then state.push (.run second) else state),
          store)
      | .negate => (.goesOn { state with status := if state.status = 0 then 1 else 0 }, store)
      | .loop whileTrue condition body true =>
        if (state.status == 0) == whileTrue then
          (.goesOn ((state.push (.loop whileTrue condition body false)).push (.run body)), store)
        else (.goesOn { state with status := 0 }, store)
      | .loop whileTrue condition body false =>
        (.goesOn ((state.push (.loop whileTrue condition body true)).push (.run condition)), store)
      | .each _ [] _ => (.goesOn state, store)
      | .each name (value :: values) body =>
        (.goesOn (((state.assign name value).push (.each name values body)).push (.run body)), store)
      | .branch yes no =>
        (.goesOn (if state.status = 0 then state.push (.run yes)
          else { state with status := 0 }.push (.run no)), store)
      | .streams streams sameInput => (.goesOn (state.restore streams sameInput), store)
      | .pipe second written streams =>
        let input := (store.read? written).getD []
        let inner := { state with streams := { streams with input } }
        (.goesOn ((inner.push (.streams streams false)).push (.run (apart second))),
          store.erase written)
      | .fill command written streams =>
        let text := writtenText ((store.read? written).getD [])
        (.goesOn ((state.restore streams true).push (.run (command.fill text))), store.erase written)
      | .call arguments => (.goesOn { state with arguments }, store)
      | .exit status => (.exits status, store)
      | .status status => (.goesOn { state with status }, store)
      | .parent bindings directory trap =>
        (.goesOn { state with bindings, directory, trap }, store)

end State

end FrameLink.Sandbox.Shell
