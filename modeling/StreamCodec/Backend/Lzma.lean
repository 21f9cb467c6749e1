import StreamCodec.Engine

/-!
# LZMA backends

What an LZMA library offers, for the xz container and the old header-only one.
Encoders and decoders are driven by the same call. It counts by running totals,
so an answer tells by how much they grew; nothing keeps that growth within the
windows.
-/
namespace StreamCodec.Lzma

inductive Container where
  | xz
  /-- A header and one raw stream. -/
  | alone
deriving DecidableEq, Repr

namespace Container

def codec : Container → Codec
  | .xz => .xz
  | .alone => .lzma

end Container

inductive Action where
  | run
  | syncFlush
  | finish
deriving DecidableEq, Repr

namespace Action

def name : Action → String
  | .run => "run"
  | .syncFlush => "sync_flush"
  | .finish => "finish"

end Action

inductive Status where
  | ok
  | memoryNeeded
  | streamEnd
deriving DecidableEq, Repr

structure Call where
  used : Nat
  produced : Nat
  room : ByteArray
  result : Except String Status

structure Backend (ω : Type) where
  /-- The dictionary size is the preset's own where none is given. -/
  newEncoder : Container → (preset : Nat) → (dictionary : Option UInt32) → ω →
    Except String Unit × ω
  newDecoder : Container → ω → Except String Unit × ω
  process : Action → (input room : ByteArray) → ω → Call × ω

end StreamCodec.Lzma
