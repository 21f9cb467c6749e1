import StreamCodec.Engine

/-!
# Zstandard backends

What a zstd library offers. Its calls move two positions that never leave their
windows, so the counts here are exact; the result is a hint of how much is left
to do, or a text that says what went wrong.
-/
namespace StreamCodec.Zstd

structure Run where
  used : Nat
  produced : Nat
  room : ByteArray
  /-- Zero where nothing is left to do. -/
  result : Except String Nat

structure Backend (ω : Type) where
  newEncoder : ω → Except String Unit × ω
  setLevel : Int32 → ω → Bool × ω
  setWindow : UInt32 → ω → Bool × ω
  run : (input room : ByteArray) → ω → Run × ω
  /-- Emits what was taken in. -/
  flush : (room : ByteArray) → ω → Run × ω
  finish : (room : ByteArray) → ω → Run × ω
  newDecoder : ω → Except String Unit × ω
  /-- Caps the window that a frame may ask for. -/
  setWindowMax : UInt32 → ω → Bool × ω
  decode : (input room : ByteArray) → ω → Run × ω

end StreamCodec.Zstd
