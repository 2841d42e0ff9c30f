import FrameLink.Child.System
import FrameLink.Sandbox.Shell.Run
import FrameLink.Text.Utf8
/-!
The programs that can be started, the places where they are found, and the reasons why a start is
refused.
-/

namespace FrameLink.Sandbox

inductive Refusal where
  | missing
  | denied
  | notDirectory
  | nul
deriving DecidableEq, Repr

def Refusal.message : Refusal → String
  | .missing => "No such file or directory (os error 2)"
  | .denied => "Permission denied (os error 13)"
  | .notDirectory => "Not a directory (os error 20)"
  | .nul => "nul byte found in provided data"

namespace Program

def shells : List String := ["sh", "dash", "bash"]

def names : List String :=
  shells ++ ["sleep", "true", "false", "echo", "cat", "printf", "pwd", "seq", "test", "[", "touch",
    "rm", "mkdir", "head", "tail", "wc", "tr"]

/-- Where programs are looked for when they are named without a place. -/
def places : List String := ["/bin", "/usr/bin"]

def directories : List String :=
  ["/", "/bin", "/dev", "/etc", "/home", "/lib", "/opt", "/proc", "/root", "/run", "/sbin", "/sys",
    "/tmp", "/usr", "/usr/bin", "/usr/lib", "/usr/local", "/usr/local/bin", "/usr/sbin", "/var"]

def plainFiles : List String := ["/dev/null", "/etc/passwd", "/etc/hosts"]

def at? (path : String) : Option String :=
  names.find? fun name => places.any fun place => path = place ++ "/" ++ name

def isPlain (path : String) (store : Store) : Bool :=
  store.isFile path || plainFiles.contains path

def isThroughFile (path : String) (store : Store) : Bool :=
  let parts := (path.splitOn "/").drop 1
  (List.range parts.length).any fun n =>
    let way := "/" ++ "/".intercalate (parts.take n)
    isPlain way store || (at? way).isSome

/-- The program that a path names, seen from a directory. A path without a slash is looked for in the
usual places. -/
def find (path directory : String) (store : Store) : Except Refusal String :=
  if path.isEmpty then .error .missing
  else if !path.contains '/' then
    if path = "." || path = ".." then .error .denied
    else if names.contains path then .ok path
    else .error .missing
  else
    let place := Store.resolve directory path
    if store.isDirectory place then .error .denied
    else if path.endsWith "/" && (isPlain place store || (at? place).isSome) then .error .notDirectory
    else if isPlain place store then .error .denied
    else match at? place with
      | some name => .ok name
      | none => .error (if isThroughFile place store then .notDirectory else .missing)

def enter (directory target : String) (store : Store) : Except Refusal String :=
  if target.isEmpty then .ok directory
  else
    let place := Store.resolve directory target
    if store.isDirectory place then .ok place
    else .error (if isPlain place store || isThroughFile place store then .notDirectory else .missing)

def literal (words : List String) : Shell.Command :=
  .simple [] (words.map fun word => [(true, .text word)]) []

def complaint (message : String) (status : Nat) : Shell.Command :=
  .sequence (.group false (literal ["printf", "%s", message]) [⟨1, .copy 2⟩])
    (literal ["exit", toString status])

def script (path : String) (arguments : List String) (directory : String) (store : Store) :
    Shell.Command × String × List String :=
  let read (text : String) : Shell.Command :=
    (Shell.Reader.script? text).getD (complaint s!"{path}: 1: Syntax error: unexpected token\n" 2)
  match arguments with
  | [] => (.skip, path, [])
  | ["-c"] => (complaint s!"{path}: 0: -c requires an argument\n" 2, path, [])
  | "-c" :: text :: rest => (read text, rest.headD path, rest.drop 1)
  | file :: rest =>
    match (store.read? (.file (Store.resolve directory file))).map Utf8.decode with
    | some (.ok text) => (read text, file, rest)
    | _ => (complaint s!"{path}: 0: cannot open {file}: No such file\n" 2, path, [])

/-- What a program does when it runs: a shell runs its script, and each other program is one command.
Outside a shell the words of an echo stand for themselves. -/
def behaviour (name path : String) (arguments : List String) (directory : String) (store : Store) :
    Shell.Command × String × List String :=
  if shells.contains name then script path arguments directory store
  else if name = "echo" then
    let shown := match arguments with
      | "-e" :: rest => Shell.echo true rest
      | words => Shell.echo false words
    (literal ["printf", "%s", Utf8.lossy shown], path, [])
  else (literal (name :: arguments), path, [])

def start (name path : String) (arguments : List String) (streams : Shell.Streams)
    (directory : String) (pid : Nat) (store : Store) : Shell.State :=
  let (command, name, arguments) := behaviour name path arguments directory store
  .ofScript command streams directory pid name arguments

end Program

end FrameLink.Sandbox
