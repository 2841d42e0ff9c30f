import FrameLink.Log
import FrameLink.Text.Utf8
/-!
A child's output, line by line. Lines end with a line feed, which a carriage return may precede; the
last line may lack its end. Reading stops at the first line that is not text.
-/

namespace FrameLink.Child

/-- The first line without its end, and what comes after it. -/
def splitLine : Bytes → Bytes × Option Bytes
  | [] => ([], none)
  | byte :: rest =>
    if byte = 10 then ([], some rest)
    else
      match splitLine rest with
      | (line, after) => (byte :: line, after)

theorem splitLine_shorter {stream line rest : Bytes} (found : splitLine stream = (line, some rest)) :
    rest.length < stream.length := by
  induction stream generalizing line with
  | nil => simp [splitLine] at found
  | cons byte stream ih =>
    rw [splitLine] at found
    split at found
    · simp only [Prod.mk.injEq, Option.some.injEq] at found
      simp [← found.2]
    · rcases split : splitLine stream with ⟨first, after⟩
      rw [split] at found
      simp only [Prod.mk.injEq] at found
      have := ih (split.trans (by rw [found.2]))
      simp only [List.length_cons]
      omega

def chomp (line : Bytes) : Bytes :=
  if line.getLast? = some 13 then line.dropLast else line

inductive Found where
  | ended
  | line (text : String) (rest : Bytes)
  /-- a line that is not text -/
  | noText (rest : Bytes)
deriving DecidableEq

def nextLine (stream : Bytes) : Found :=
  match splitLine stream with
  | (line, some rest) =>
    match Utf8.decode (chomp line) with
    | .ok text => .line text rest
    | .error _ => .noText rest
  | (line, none) =>
    if line.isEmpty then .ended
    else match Utf8.decode line with
      | .ok text => .line text []
      | .error _ => .noText []

theorem nextLine_shorter {stream rest : Bytes} {text : String}
    (found : nextLine stream = .line text rest) : rest.length < stream.length := by
  unfold nextLine at found
  split at found
  next line after split =>
    split at found
    · cases found
      exact splitLine_shorter split
    · cases found
  next line split =>
    split at found
    · cases found
    next some =>
      split at found
      · cases found
        cases stream with
        | nil =>
          cases split
          exact absurd rfl some
        | cons byte stream => exact Nat.succ_pos _
      · cases found

/-- Reads lines until the stream has ended or a line is not text: what was read, and what nobody reads
any more. -/
def drain (stream : Bytes) : List String × Bytes :=
  match _found : nextLine stream with
  | .ended => ([], [])
  | .noText rest => ([], rest)
  | .line text rest =>
    let (texts, left) := drain rest
    (text :: texts, left)
termination_by stream.length
decreasing_by exact nextLine_shorter ‹_›

def lines (stream : Bytes) : List String := (drain stream).1

def lineEvent (label : String) (isError : Bool) (line : String) : Log.Event :=
  ⟨if isError then .warn else .info, .supervisor, s!"[{label}] {line}", none⟩

def closedEvent (label : String) : Log.Event :=
  ⟨.debug, .supervisor, s!"Output of {label} closed", none⟩

def forward (label : String) (isError : Bool) (stream : Bytes) : List Log.Event :=
  (lines stream).map (lineEvent label isError) ++ [closedEvent label]

end FrameLink.Child
