import StreamCodec.Options

/-!
# Options as text

Two written forms: compact JSON, which reads back to the same options, and a
description for people.
-/
namespace StreamCodec

/-- A name between quotes. No name in this library needs an escape. -/
def quoted (name : String) : String := "\"" ++ name ++ "\""

def Codec.toJsonText (c : Codec) : String := quoted c.name

namespace CompressionLevel

def toJsonText : CompressionLevel → String
  | .fast => quoted "Fast"
  | .default => quoted "Default"
  | .best => quoted "Best"
  | .custom value => "\x7b" ++ quoted "Custom" ++ ":" ++ toString value.toInt ++ "\x7d"

def description : CompressionLevel → String
  | .fast => "Fast"
  | .default => "Default"
  | .best => "Best"
  | .custom value => "Custom(" ++ toString value.toInt ++ ")"

end CompressionLevel

namespace CodecOptions

/-- Compact JSON, the fields in order and no window as null. -/
def toJsonText (o : CodecOptions) : String :=
  "\x7b" ++ quoted "codec" ++ ":" ++ o.codec.toJsonText ++ "," ++
    quoted "level" ++ ":" ++ o.level.toJsonText ++ "," ++
    quoted "window_log" ++ ":" ++ (o.windowLog.elim "null" fun w => toString w.toNat) ++ "\x7d"

def description (o : CodecOptions) : String :=
  "CodecOptions \x7b codec: " ++ o.codec.label ++ ", level: " ++ o.level.description ++
    ", window_log: " ++
    (o.windowLog.elim "None" fun w => "Some(" ++ toString w.toNat ++ ")") ++ " \x7d"

end CodecOptions

namespace StreamOptions

/-- Compact JSON, the fields in order. -/
def toJsonText (o : StreamOptions) : String :=
  "\x7b" ++ quoted "buffer_size" ++ ":" ++ toString o.bufferSize.toNat ++ "," ++
    quoted "leave_open" ++ ":" ++ toString o.leaveOpen ++ "\x7d"

def description (o : StreamOptions) : String :=
  "StreamOptions \x7b buffer_size: " ++ toString o.bufferSize.toNat ++ ", leave_open: " ++
    toString o.leaveOpen ++ " \x7d"

end StreamOptions

end StreamCodec
