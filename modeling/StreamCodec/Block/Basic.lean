import StreamCodec.Block.Bound
import StreamCodec.Session.Decoder
import StreamCodec.Stream.Compressor

/-!
# Blocks

One-shot compression between a source and a destination of fixed size. A full
destination is not retried, but one spare byte tells whether the stream had
come to its end exactly there: if it had, the spare byte stays unused.

LZ4 works on blocks only and goes straight to its block functions, which are
given with the registry.
-/
namespace StreamCodec

/-- Block compression without an engine: the result has to fit into so many bytes. -/
structure BlockFormat where
  /-- None where the block does not fit. -/
  compress : (src : ByteArray) → (capacity : Nat) → Option ByteArray
  /-- The text says why the block is no good; a plain text that does not fit is one reason. -/
  decompress : (src : ByteArray) → (capacity : Nat) → Except String ByteArray

namespace Block

variable {ω ε δ : Type} (registry : Registry ω ε δ) (lz4 : BlockFormat)

/-- What a block operation leaves: its result, the destination and the library. -/
abbrev Result (ω : Type) := Except CodecError Nat × ByteArray × ω

def failure (codec : Codec) (lastError : Option String) : CodecError :=
  .invalidData codec (lastError.getD "unknown failure")

/-- The spare byte that shows whether a stream ended where its destination did. -/
def spare : CursorBuffer := .withCapacity 1

def compressSpare (s : EncoderSession ω ε) (w : Windows) : Result ω :=
  let tooSmall : CodecError := .destinationTooSmall s.codec w.dst.capacity
  match s.compress .finish ⟨w.src, spare⟩ with
  | (.ok .done, s, spill) =>
    (if spill.dst.size = 0 then .ok w.dst.size else .error tooSmall, w.dst.storage, s.world)
  | (.ok _, s, _) => (.error tooSmall, w.dst.storage, s.world)
  | (.error e, s, _) => (.error e, w.dst.storage, s.world)

/-- Compresses all of `src` into `dst` as one stream; answers its length. -/
def compress (world : ω) (options : CodecOptions) (src dst : ByteArray) : Result ω :=
  if options.codec = .lz4 then
    match lz4.compress src dst.size with
    | some block => (.ok block.size, overlay dst 0 block, world)
    | none => (.error (.destinationTooSmall .lz4 dst.size), dst, world)
  else
    match EncoderSession.new registry world options with
    | .error e => (.error e, dst, world)
    | .ok s =>
      match s.compress .finish ⟨.filled src, .empty dst⟩ with
      | (.error e, s, w) => (.error e, w.dst.storage, s.world)
      | (.ok .done, s, w) => (.ok w.dst.size, w.dst.storage, s.world)
      | (.ok .destinationTooSmall, s, w) => compressSpare s w
      | (.ok .invalidData, s, w) =>
        (.error (failure s.codec s.lastError), w.dst.storage, s.world)
      | (.ok .needMoreData, s, w) =>
        (.error (.invalidData s.codec "encoder stopped before the stream was finished"),
          w.dst.storage, s.world)

def decompressSpare (s : DecoderSession ω δ) (w : Windows) : Result ω :=
  let tooSmall : CodecError := .destinationTooSmall s.codec w.dst.capacity
  match s.decompress ⟨w.src, spare⟩ with
  | (.ok .done, s, spill) =>
    (if spill.dst.size = 0 then .ok w.dst.size else .error tooSmall, w.dst.storage, s.world)
  | (.ok .needMoreData, s, spill) =>
    (.error (if spill.dst.size = 0 then .truncated s.codec else tooSmall), w.dst.storage, s.world)
  | (.ok .invalidData, s, _) => (.error (failure s.codec s.lastError), w.dst.storage, s.world)
  | (.ok .destinationTooSmall, s, _) => (.error tooSmall, w.dst.storage, s.world)
  | (.error e, s, _) => (.error e, w.dst.storage, s.world)

/-- Decompresses the stream at the start of `src` into `dst`; answers the plain length. -/
def decompress (world : ω) (codec : Codec) (src dst : ByteArray) : Result ω :=
  if codec = .lz4 then
    match lz4.decompress src dst.size with
    | .ok plain => (.ok plain.size, overlay dst 0 plain, world)
    | .error detail => (.error (.invalidData .lz4 detail), dst, world)
  else
    match DecoderSession.new registry world { codec } with
    | .error e => (.error e, dst, world)
    | .ok s =>
      match s.decompress ⟨.filled src, .empty dst⟩ with
      | (.error e, s, w) => (.error e, w.dst.storage, s.world)
      | (.ok .done, s, w) => (.ok w.dst.size, w.dst.storage, s.world)
      | (.ok .destinationTooSmall, s, w) => decompressSpare s w
      | (.ok .needMoreData, s, w) => (.error (.truncated s.codec), w.dst.storage, s.world)
      | (.ok .invalidData, s, w) =>
        (.error (failure s.codec s.lastError), w.dst.storage, s.world)

def writeRest (c : Compressor ω ε) (rest : ByteArray) : Except CodecError Unit × Compressor ω ε :=
  if _h : rest.size = 0 then (.ok (), c)
  else
    match c.write rest with
    | (.error e, c) => (.error e, c)
    | (.ok n, c) =>
      if _hn : n = 0 then
        (.error (.invalidData c.codec "encoder stopped accepting input"), c)
      else writeRest c (rest.extract n rest.size)
termination_by rest.size
decreasing_by simp only [ByteArray.size_extract, Nat.min_self]; omega

/-- Compresses all of `src` into a region that grows with the output. -/
def compressGrowing (world : ω) (options : CodecOptions) (src : ByteArray) :
    Except CodecError ByteArray × ω :=
  match Compressor.new registry world {} options {} with
  | (.error e, world) => (.error e, world)
  | (.ok c, _) =>
    match writeRest c src with
    | (.error e, c) => (.error e, c.drop.session.world)
    | (.ok (), c) =>
      match c.finish with
      | (.error e, c) => (.error e, c.session.world)
      | (.ok sink, c) => (.ok sink.data, c.session.world)

/-- Compresses all of `src` into a new region: of the worst-case size where the codec has a
bound, else of a size that grows with the output. -/
def compressToNew (world : ω) (options : CodecOptions) (src : ByteArray) :
    Except CodecError ByteArray × ω :=
  match maxCompressedLen options.codec (UInt64.ofNat src.size) with
  | some bound =>
    match compress registry lz4 world options src ⟨Array.replicate bound.toNat 0⟩ with
    | (.ok n, dst, world) => (.ok (dst.extract 0 n), world)
    | (.error e, _, world) => (.error e, world)
  | none => compressGrowing registry world options src

end Block

end StreamCodec
