import FrameLink.Correlation
/-!
Frames: a correlation number and a body, within a limit on the whole encoding, which is measured
before it is written. Bytes after the body are ignored when a frame is read.
-/

namespace FrameLink

structure Frame (α : Type) where
  correlation : Correlation
  body : α
deriving DecidableEq

inductive FrameError where
  | serialization (message : String)
  | deserialization (message : String)
  | tooLarge (size limit : Nat)
deriving DecidableEq, Repr

def FrameError.message : FrameError → String
  | .serialization text => "Serialization failed: " ++ text
  | .deserialization text => "Deserialization failed: " ++ text
  | .tooLarge size limit => s!"Frame too large: {size} bytes (limit {limit})"

namespace Frame

def uncorrelated (body : α) : Frame α := ⟨.none, body⟩

instance [Wire α] : Wire (Frame α) where
  size frame := Wire.size frame.correlation + Wire.size frame.body
  encode frame := Wire.encode frame.correlation ++ Wire.encode frame.body
  decode := Wire.andThen Wire.decode fun correlation =>
    Wire.mapReader (Frame.mk correlation) Wire.decode

def defaultLimit : Nat := 16777216

def encode [Wire α] (frame : Frame α) (limit : Nat) : Except FrameError Bytes :=
  let size := Wire.size frame
  if size ≤ limit then .ok (Wire.encode frame) else .error (.tooLarge size limit)

def decode [Wire α] (data : Bytes) (limit : Nat) : Except FrameError (Frame α) :=
  let size := data.length
  if limit < size then .error (.tooLarge size limit)
  else match Wire.decode data with
    | .ok (frame, _) => .ok frame
    | .error fault => .error (.deserialization fault.message)

end Frame

end FrameLink
