import FrameLink.Wire.Domain
import FrameLink.Wire.Request
import FrameLink.Frame
/-!
The table of body types that frames are exchanged with, by name.
-/

namespace FrameLink

structure Record where
  name : String
  tags : List String
  level : Option UInt8
  active : Bool
  glyph : Char
  offset : Int16
deriving DecidableEq

instance : Wire Record where
  size r := Wire.size r.name + Wire.size r.tags + Wire.size r.level + Wire.size r.active +
    Wire.size r.glyph + Wire.size r.offset
  encode r := Wire.encode r.name ++ Wire.encode r.tags ++ Wire.encode r.level ++
    Wire.encode r.active ++ Wire.encode r.glyph ++ Wire.encode r.offset
  decode := Wire.andThen Wire.decode fun name => Wire.andThen Wire.decode fun tags =>
    Wire.andThen Wire.decode fun level => Wire.andThen Wire.decode fun active =>
    Wire.andThen Wire.decode fun glyph =>
    Wire.mapReader (fun offset => ⟨name, tags, level, active, glyph, offset⟩) Wire.decode

inductive BodyType where
  | u8 | u16 | u32 | u64 | i8 | i16 | i32 | i64
  | bool | char | unit | string | bytes
  | optString | vecString | vecU32 | vecOptU16 | nested | map | pair
  | request | record | component | timeoutPolicy | clientId | correlationId
  | connectConfig | serverConfig | terminateConfig | frameString
deriving DecidableEq, Repr

namespace BodyType

def all : List (String × BodyType) :=
  [("u8", .u8), ("u16", .u16), ("u32", .u32), ("u64", .u64), ("i8", .i8), ("i16", .i16),
    ("i32", .i32), ("i64", .i64), ("bool", .bool), ("char", .char), ("unit", .unit),
    ("string", .string), ("bytes", .bytes), ("opt_string", .optString),
    ("vec_string", .vecString), ("vec_u32", .vecU32), ("vec_opt_u16", .vecOptU16),
    ("nested", .nested), ("map", .map), ("pair", .pair), ("request", .request),
    ("record", .record), ("component", .component), ("timeout_policy", .timeoutPolicy),
    ("client_id", .clientId), ("correlation_id", .correlationId),
    ("connect_config", .connectConfig), ("server_config", .serverConfig),
    ("terminate_config", .terminateConfig), ("frame_string", .frameString)]

def ofName? (name : String) : Option BodyType := all.lookup name

/-- Byte strings are lists of bytes, read item by item. -/
@[reducible] def Value : BodyType → Type
  | .u8 => UInt8
  | .u16 => UInt16
  | .u32 => UInt32
  | .u64 => UInt64
  | .i8 => Int8
  | .i16 => Int16
  | .i32 => Int32
  | .i64 => Int64
  | .bool => Bool
  | .char => Char
  | .unit => Unit
  | .string => String
  | .bytes => List UInt8
  | .optString => Option String
  | .vecString => List String
  | .vecU32 => List UInt32
  | .vecOptU16 => List (Option UInt16)
  | .nested => List (List (List UInt8))
  | .map => Dictionary
  | .pair => String × UInt64
  | .request => Request
  | .record => Record
  | .component => Component
  | .timeoutPolicy => TimeoutPolicy
  | .clientId => ClientId
  | .correlationId => Correlation
  | .connectConfig => ConnectSettings
  | .serverConfig => ServeSettings
  | .terminateConfig => TerminateSettings
  | .frameString => Frame String

instance : (type : BodyType) → Wire type.Value
  | .u8 => inferInstanceAs (Wire UInt8)
  | .u16 => inferInstanceAs (Wire UInt16)
  | .u32 => inferInstanceAs (Wire UInt32)
  | .u64 => inferInstanceAs (Wire UInt64)
  | .i8 => inferInstanceAs (Wire Int8)
  | .i16 => inferInstanceAs (Wire Int16)
  | .i32 => inferInstanceAs (Wire Int32)
  | .i64 => inferInstanceAs (Wire Int64)
  | .bool => inferInstanceAs (Wire Bool)
  | .char => inferInstanceAs (Wire Char)
  | .unit => inferInstanceAs (Wire Unit)
  | .string => inferInstanceAs (Wire String)
  | .bytes => inferInstanceAs (Wire (List UInt8))
  | .optString => inferInstanceAs (Wire (Option String))
  | .vecString => inferInstanceAs (Wire (List String))
  | .vecU32 => inferInstanceAs (Wire (List UInt32))
  | .vecOptU16 => inferInstanceAs (Wire (List (Option UInt16)))
  | .nested => inferInstanceAs (Wire (List (List (List UInt8))))
  | .map => inferInstanceAs (Wire Dictionary)
  | .pair => inferInstanceAs (Wire (String × UInt64))
  | .request => inferInstanceAs (Wire Request)
  | .record => inferInstanceAs (Wire Record)
  | .component => inferInstanceAs (Wire Component)
  | .timeoutPolicy => inferInstanceAs (Wire TimeoutPolicy)
  | .clientId => inferInstanceAs (Wire ClientId)
  | .correlationId => inferInstanceAs (Wire Correlation)
  | .connectConfig => inferInstanceAs (Wire ConnectSettings)
  | .serverConfig => inferInstanceAs (Wire ServeSettings)
  | .terminateConfig => inferInstanceAs (Wire TerminateSettings)
  | .frameString => inferInstanceAs (Wire (Frame String))

end BodyType

end FrameLink
