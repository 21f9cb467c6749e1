import StreamCodec.Engine

/-!
# Deflate backends

What a deflate library offers, for raw deflate and for zlib. It counts by
running totals, so an answer tells by how much they grew; nothing keeps that
growth within the windows.
-/
namespace StreamCodec.Deflate

/-- What a compress call is asked to emit. -/
inductive FlushMode where
  | none
  | sync
  | finish
deriving DecidableEq, Repr

namespace FlushMode

def name : FlushMode → String
  | .none => "none"
  | .sync => "sync"
  | .finish => "finish"

end FlushMode

inductive Status where
  | ok
  | bufferError
  | streamEnd
deriving DecidableEq, Repr

structure Call where
  used : Nat
  produced : Nat
  room : ByteArray
  result : Except String Status

structure Backend (ω : Type) where
  newEncoder : (level : Nat) → (zlib : Bool) → ω → ω
  compress : FlushMode → (input room : ByteArray) → ω → Call × ω
  newDecoder : (zlib : Bool) → ω → ω
  decompress : (input room : ByteArray) → ω → Call × ω

end StreamCodec.Deflate
