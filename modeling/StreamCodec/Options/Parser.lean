import StreamCodec.Json.Value
import StreamCodec.Options

/-!
# Options from JSON

Options are stored as an object with named fields or as an array with the
fields in order. Codec options need their codec only; stream options need both
fields. A choice is written as its name, or as an object whose only field is
that name with the value null; a custom level is such an object around its
value.
-/
namespace StreamCodec

open Json (intBetween? bool? wantedFields?)

/-- The name of a choice that carries no value. -/
def Json.choice? : Json → Option String
  | .string (some name) => some name
  | value =>
    match value.onlyField? with
    | some (name, .null) => some name
    | _ => none

def Codec.ofJson? (value : Json) : Option Codec := value.choice?.bind Codec.ofName?

def CompressionLevel.ofJson? (value : Json) : Option CompressionLevel :=
  match value.onlyField? with
  | some ("Custom", amount) =>
    (intBetween? (-0x80000000) 0x80000000 amount).map fun n => .custom (Int32.ofInt n)
  | _ =>
    match value.choice? with
    | some "Fast" => some .fast
    | some "Default" => some .default
    | some "Best" => some .best
    | _ => none

/-- A window log, or null for the engine's own window. -/
def windowLogOfJson? : Json → Option (Option UInt32)
  | .null => some none
  | value => (intBetween? 0 0x100000000 value).map fun n => some (UInt32.ofNat n.toNat)

def bufferSizeOfJson? (value : Json) : Option UInt64 :=
  (intBetween? 0 0x10000000000000000 value).map fun n => UInt64.ofNat n.toNat

namespace CodecOptions

/-- The options with these parts, of which level and window may be missing. -/
def ofParts? (codec : Json) (level windowLog : Option Json) : Option CodecOptions :=
  match Codec.ofJson? codec with
  | none => none
  | some codec =>
    match level.elim (some .default) CompressionLevel.ofJson? with
    | none => none
    | some level =>
      match windowLog.elim (some none) windowLogOfJson? with
      | none => none
      | some windowLog => some { codec, level, windowLog }

def ofJson? : Json → Option CodecOptions
  | .array [codec] => ofParts? codec none none
  | .array [codec, level] => ofParts? codec (some level) none
  | .array [codec, level, windowLog] => ofParts? codec (some level) (some windowLog)
  | .object fields =>
    match wantedFields? ["codec", "level", "window_log"] fields with
    | none => none
    | some found =>
      match found.lookup "codec" with
      | none => none
      | some codec => ofParts? codec (found.lookup "level") (found.lookup "window_log")
  | _ => none

def parse? (text : String) : Option CodecOptions := (Json.parse? text).bind ofJson?

end CodecOptions

namespace StreamOptions

def ofParts? (bufferSize leaveOpen : Json) : Option StreamOptions :=
  match bufferSizeOfJson? bufferSize, bool? leaveOpen with
  | some bufferSize, some leaveOpen => some { bufferSize, leaveOpen }
  | _, _ => none

def ofJson? : Json → Option StreamOptions
  | .array [bufferSize, leaveOpen] => ofParts? bufferSize leaveOpen
  | .object fields =>
    match wantedFields? ["buffer_size", "leave_open"] fields with
    | none => none
    | some found =>
      match found.lookup "buffer_size", found.lookup "leave_open" with
      | some bufferSize, some leaveOpen => ofParts? bufferSize leaveOpen
      | _, _ => none
  | _ => none

def parse? (text : String) : Option StreamOptions := (Json.parse? text).bind ofJson?

end StreamOptions

def Codec.parse? (text : String) : Option Codec := (Json.parse? text).bind Codec.ofJson?

end StreamCodec
