/-!
# The codecs

Seven compression formats. Six of them run as streams; LZ4 is a block format
without framing and only works on whole blocks. A codec is named in lower case
wherever it is shown or stored.
-/
namespace StreamCodec

/-- A compression format. -/
inductive Codec where
  | brotli
  | zstd
  /-- Raw deflate, without header or trailer. -/
  | deflate
  /-- Deflate between the zlib header and its Adler-32 trailer. -/
  | zlib
  /-- LZMA2 in the xz container. -/
  | xz
  /-- LZMA in its old header-only container; it cannot flush in mid-stream. -/
  | lzma
  /-- LZ4 blocks, one-shot only. -/
  | lz4
deriving DecidableEq, Repr, Inhabited

namespace Codec

/-- Every codec, in registry order. -/
def all : List Codec := [.brotli, .zstd, .deflate, .zlib, .xz, .lzma, .lz4]

def name : Codec → String
  | .brotli => "brotli"
  | .zstd => "zstd"
  | .deflate => "deflate"
  | .zlib => "zlib"
  | .xz => "xz"
  | .lzma => "lzma"
  | .lz4 => "lz4"

/-- The codec of a name; names are matched exactly. -/
def ofName? (text : String) : Option Codec := all.find? fun c => c.name = text

/-- The name with a capital, as descriptions show it. -/
def label : Codec → String
  | .brotli => "Brotli"
  | .zstd => "Zstd"
  | .deflate => "Deflate"
  | .zlib => "Zlib"
  | .xz => "Xz"
  | .lzma => "Lzma"
  | .lz4 => "Lz4"

def index (c : Codec) : Nat := all.idxOf c

def isStreaming (c : Codec) : Bool := c ≠ .lz4

theorem mem_all (c : Codec) : c ∈ all := by cases c <;> decide

theorem name_injective {a b : Codec} (h : a.name = b.name) : a = b := by
  cases a <;> cases b <;> first | rfl | exact absurd h (by decide)

theorem ofName?_name (c : Codec) : ofName? c.name = some c := by cases c <;> decide

end Codec

structure EngineVersion where
  codec : Codec
  library : String
  version : String
deriving DecidableEq, Repr

namespace EngineVersion

/-- The version as it is shown: `xz (liblzma 5)`. -/
def text (v : EngineVersion) : String :=
  v.codec.name ++ " (" ++ v.library ++ " " ++ v.version ++ ")"

end EngineVersion

end StreamCodec
