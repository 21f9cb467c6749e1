import StreamCodec.Error

/-!
# Options

`CodecOptions` picks and tunes an engine, `StreamOptions` sizes an adapter's
buffer and says what becomes of the byte stream under it. Levels are mapped to
each codec's own scale here, and the accepted ranges stand here once for every
codec; `CodecOptions.validate` checks the quality first and the window second.
-/
namespace StreamCodec

/-- How hard to compress. -/
inductive CompressionLevel where
  | fast
  | default
  | best
  /-- A value on the codec's own scale. -/
  | custom (value : Int32)
deriving DecidableEq, Repr, Inhabited

/-- What `fast`, `default` and `best` mean on a codec's own scale. -/
def Codec.presets : Codec → Int32 × Int32 × Int32
  | .brotli => (1, 4, 11)
  | .zstd => (1, 3, 19)
  | .deflate | .zlib => (1, 6, 9)
  | .xz | .lzma => (1, 6, 9)
  | .lz4 => (0, 0, 0)

def CompressionLevel.toNative (level : CompressionLevel) (codec : Codec) : Int32 :=
  match level with
  | .fast => codec.presets.1
  | .default => codec.presets.2.1
  | .best => codec.presets.2.2
  | .custom value => value

/-- The qualities that a codec takes, both ends included. -/
def Codec.qualityRange : Codec → Int32 × Int32
  | .brotli => (0, 11)
  | .zstd => (-7, 22)
  | .deflate | .zlib => (0, 9)
  | .xz | .lzma => (0, 9)
  | .lz4 => (0, 0)

/-- The window logs that a codec takes, both ends included; none if its window is fixed. -/
def Codec.windowLogRange : Codec → Option (UInt32 × UInt32)
  | .brotli => some (10, 24)
  | .zstd => some (10, 30)
  | .deflate | .zlib => some (15, 15)
  | .xz | .lzma => some (12, 30)
  | .lz4 => none

/-- A parameter set on a fresh engine. -/
inductive Parameter where
  | quality (value : Int32)
  /-- The binary logarithm of the match window. -/
  | windowLog (log : UInt32)
deriving DecidableEq, Repr

namespace Parameter

def rejected (codec : Codec) : Parameter → CodecError
  | .quality value => .invalidParameter codec .quality value.toInt
  | .windowLog log => .invalidParameter codec .windowLog log.toNat

/-- The parameter as descriptions show it. -/
def text : Parameter → String
  | .quality value => "Quality(" ++ toString value.toInt ++ ")"
  | .windowLog log => "WindowLog(" ++ toString log.toNat ++ ")"

end Parameter

structure CodecOptions where
  codec : Codec
  level : CompressionLevel := .default
  /-- None keeps the engine's own window. -/
  windowLog : Option UInt32 := none
deriving DecidableEq, Repr

namespace CodecOptions

def quality (o : CodecOptions) : Int32 := o.level.toNative o.codec

/-- LZ4 has no quality, so every level will do for it. -/
def qualityInRange (o : CodecOptions) : Bool :=
  o.codec = .lz4 ||
    (decide (o.codec.qualityRange.1 ≤ o.quality) && decide (o.quality ≤ o.codec.qualityRange.2))

/-- A codec with a fixed window takes no window log at all. -/
def windowInRange (o : CodecOptions) : Bool :=
  match o.windowLog with
  | none => true
  | some log =>
    match o.codec.windowLogRange with
    | none => false
    | some (low, high) => decide (low ≤ log) && decide (log ≤ high)

/-- Checks the quality, then the window, against the codec's ranges. -/
def validate (o : CodecOptions) : Except CodecError Unit :=
  if !o.qualityInRange then
    .error ((Parameter.quality o.quality).rejected o.codec)
  else if !o.windowInRange then
    .error ((Parameter.windowLog (o.windowLog.getD 0)).rejected o.codec)
  else
    .ok ()

/-- What a fresh encoder is given: the quality always, the window where one is set. -/
def encoderParameters (o : CodecOptions) : List Parameter :=
  .quality o.quality :: (o.windowLog.map Parameter.windowLog).toList

/-- What a fresh decoder is given: only a window that was set. -/
def decoderParameters (o : CodecOptions) : List Parameter :=
  (o.windowLog.map Parameter.windowLog).toList

end CodecOptions

structure StreamOptions where
  /-- The capacity of the adapter's own buffer; zero counts as one. -/
  bufferSize : UInt64 := 65536
  /-- Whether the byte stream outlives the adapter. -/
  leaveOpen : Bool := false
deriving DecidableEq, Repr

namespace StreamOptions

/-- The capacity really allocated. -/
def capacity (o : StreamOptions) : Nat := max o.bufferSize.toNat 1

theorem capacity_pos (o : StreamOptions) : 0 < o.capacity :=
  Nat.lt_of_lt_of_le Nat.zero_lt_one (Nat.le_max_right ..)

end StreamOptions

/-- Buffer sizes for tight memory, for common use and for throughput. -/
def smallBufferSize : UInt64 := 4096

@[inherit_doc smallBufferSize] def defaultBufferSize : UInt64 := 65536

@[inherit_doc smallBufferSize] def largeBufferSize : UInt64 := 1048576

end StreamCodec
