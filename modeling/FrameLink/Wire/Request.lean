import FrameLink.Wire.Compound
/-!
A request type whose variants carry fields of every kind, one of them requests again.
-/

namespace FrameLink

inductive Request where
  | ping
  | step (count : UInt32)
  | chat (text : String)
  | move (dx : Int32) (dy : Int64)
  | batch (requests : List Request)
deriving Repr

namespace Request

mutual

def size : Request → Nat
  | .ping => 4
  | .step count => 4 + Wire.size count
  | .chat text => 4 + Wire.size text
  | .move dx dy => 4 + Wire.size dx + Wire.size dy
  | .batch requests => 4 + 8 + sizeAll requests

def sizeAll : List Request → Nat
  | [] => 0
  | request :: rest => size request + sizeAll rest

end

mutual

def encode : Request → Bytes
  | .ping => Bytes.ofNat 4 0
  | .step count => Bytes.ofNat 4 1 ++ Wire.encode count
  | .chat text => Bytes.ofNat 4 2 ++ Wire.encode text
  | .move dx dy => Bytes.ofNat 4 3 ++ Wire.encode dx ++ Wire.encode dy
  | .batch requests => Bytes.ofNat 4 4 ++ Bytes.ofNat 8 requests.length ++ encodeAll requests

def encodeAll : List Request → Bytes
  | [] => []
  | request :: rest => encode request ++ encodeAll rest

end

/-- Reads a request with at most `depth` batches around it. Each batch takes bytes of its own, so a
depth of the data's length is never too small. -/
def decodeWithin : (depth : Nat) → Wire.Reader Request
  | 0 => Wire.fail .outOfData
  | depth + 1 => Wire.andThen (Wire.word 4) fun kind =>
    match kind with
    | 0 => Wire.pure .ping
    | 1 => Wire.mapReader .step Wire.decode
    | 2 => Wire.mapReader .chat Wire.decode
    | 3 => Wire.andThen Wire.decode fun dx => Wire.mapReader (.move dx) Wire.decode
    | 4 => Wire.andThen (Wire.word 8) fun count =>
        Wire.mapReader .batch (Wire.items (decodeWithin depth) count)
    | n => Wire.fail (.badVariant n 5)

def decode : Wire.Reader Request := fun data => decodeWithin (data.length + 1) data

instance : Wire Request where
  size := size
  encode := encode
  decode := decode

end Request

end FrameLink
