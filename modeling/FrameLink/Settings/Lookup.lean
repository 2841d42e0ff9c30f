import FrameLink.Text.Ranges
import FrameLink.Text.Numeral
import FrameLink.Inet.Address
/-!
Settings by name. A setting that is present is read without the blanks around it; one that spells
no value of its type is reported with its raw text.
-/

namespace FrameLink

structure SettingError where
  field : String
  value : String
deriving DecidableEq, Repr

def SettingError.message (error : SettingError) : String :=
  s!"Invalid configuration: {error.field} = {error.value}"

namespace Settings

abbrev Lookup := String → Option String

def Lookup.ofList (entries : List (String × String)) : Lookup := fun key => entries.lookup key

def value? (read : String → Option α) (lookup : Lookup) (key : String) :
    Except SettingError (Option α) :=
  match lookup key with
  | none => .ok none
  | some raw =>
    match read (Text.trim raw) with
    | some a => .ok (some a)
    | none => .error ⟨key, raw⟩

/-- Settings that are read one after the other, each onto what the earlier ones made. -/
def override (read : String → Option α) (lookup : Lookup) (key : String) (put : α → σ → σ)
    (settings : σ) : Except SettingError σ :=
  match value? read lookup key with
  | .ok (some a) => .ok (put a settings)
  | .ok none => .ok settings
  | .error e => .error e

def readMillis (text : String) : Option UInt64 :=
  (Numeral.readUpTo? (UInt64.size - 1) text).map UInt64.ofNat

def readSize (text : String) : Option UInt64 := readMillis text

def readCount (text : String) : Option UInt32 :=
  (Numeral.readUpTo? (UInt32.size - 1) text).map UInt32.ofNat

def readPort (text : String) : Option UInt16 :=
  (Numeral.readUpTo? (UInt16.size - 1) text).map UInt16.ofNat

def readSwitch : String → Option Bool
  | "true" => some true
  | "false" => some false
  | _ => none

def defaultPath : String := "/sc2api"

def defaultMaxFrameBytes : UInt64 := 16777216

end Settings

end FrameLink
