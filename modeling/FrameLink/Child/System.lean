import FrameLink.Child.Error
import FrameLink.Duration
/-!
What supervision needs of the system on which children run.
-/

namespace FrameLink.Child

/-- A program to start, in the directory given or, when that is empty, where its parent is. -/
structure Command where
  path : String
  args : List String
  directory : String
  output : OutputMode
deriving DecidableEq

inductive Sight where
  | running
  | exited
  /-- nothing is known of it -/
  | failed
deriving DecidableEq, Repr

class System (σ : Type) where
  /-- the number of the new child -/
  spawn : Command → σ → Except String Nat × σ
  look : Nat → σ → Sight × σ
  /-- false when there is nobody to ask -/
  requestExit : Nat → σ → Except String Bool × σ
  /-- ends a child and waits for its end -/
  kill : Nat → σ → Except String Unit × σ
  /-- lets time pass -/
  pause : Duration → σ → σ

end FrameLink.Child
