import StreamCodec.Engine

/-!
# Brotli backends

What a brotli library offers: one encoder or decoder at a time inside the
library's state `ω`. The encoder rewrites the counts that it is given and tells
after every call whether it holds output and whether it is done; the decoder
tells which of four things stopped it.
-/
namespace StreamCodec.Brotli

structure Encoding where
  /-- Whether the operation was allowed. -/
  accepted : Bool
  leftIn : Nat
  leftOut : Nat
  room : ByteArray
  hasMore : Bool
  isDone : Bool

/-- What stopped a decoder. -/
inductive Verdict where
  | success
  | needsMoreInput
  | needsMoreOutput
  | failure
deriving DecidableEq, Repr

structure Decoding where
  used : Nat
  leftOut : Nat
  room : ByteArray
  verdict : Verdict

structure Backend (ω : Type) where
  newEncoder : ω → ω
  setQuality : UInt32 → ω → Bool × ω
  setWindow : UInt32 → ω → Bool × ω
  compress : FlushOp → (input room : ByteArray) → ω → Encoding × ω
  newDecoder : ω → ω
  decompress : (input room : ByteArray) → ω → Decoding × ω

end StreamCodec.Brotli
