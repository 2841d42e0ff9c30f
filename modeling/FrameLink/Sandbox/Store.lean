import FrameLink.Bytes
/-!
The streams that programs write: pipes to their parent, and files, which are there once something has
opened them.
-/

namespace FrameLink.Sandbox

inductive Sink where
  | null
  /-- where the parent writes -/
  | parent (isError : Bool)
  /-- a pipe to the parent of the program with this number -/
  | pipe (pid : Nat) (isError : Bool)
  | file (path : String)
  /-- what a program keeps for one of its own commands -/
  | held (pid place : Nat)
deriving DecidableEq

structure Store where
  streams : List (Sink × Bytes) := []
  directories : List String := []
deriving Inhabited

namespace Store

def read? (sink : Sink) (store : Store) : Option Bytes := store.streams.lookup sink

def put (sink : Sink) (content : Bytes) (store : Store) : Store :=
  { store with streams := (sink, content) :: store.streams.filter fun entry => entry.1 != sink }

def append (sink : Sink) (more : Bytes) (store : Store) : Store :=
  if sink = .null || more.isEmpty then store
  else store.put sink ((store.read? sink).getD [] ++ more)

def erase (sink : Sink) (store : Store) : Store :=
  { store with streams := store.streams.filter fun entry => entry.1 != sink }

def isFile (path : String) (store : Store) : Bool := (store.read? (.file path)).isSome

def isDirectory (path : String) (store : Store) : Bool := store.directories.contains path

/-- A path seen from a directory, without dots and doubled slashes. -/
def resolve (directory path : String) : String :=
  let parts := ((if path.startsWith "/" then path else directory ++ "/" ++ path).splitOn "/").filter
    fun part => part ≠ "" && part ≠ "."
  let kept := parts.foldl (fun kept part =>
    if part = ".." then kept.dropLast else kept ++ [part]) ([] : List String)
  "/" ++ "/".intercalate kept

def parentOf (path : String) : String := resolve path ".."

end Store

end FrameLink.Sandbox
