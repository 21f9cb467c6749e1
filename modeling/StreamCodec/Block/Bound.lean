import StreamCodec.Codec

/-!
# Worst-case sizes

`maxCompressedLen` bounds the compressed size of so many plain bytes, for the
codecs that have a closed formula. Sizes are words of 64 bits; a bound that
does not fit is none.
-/
namespace StreamCodec

/-- A sum that fits into a word. -/
def checkedAdd (a b : UInt64) : Option UInt64 :=
  if a.toNat + b.toNat < 1 <<< 64 then some (a + b) else none

/-- Brotli's bound: two bytes for nothing, else four bytes a large block and six more. -/
def brotliBound (n : UInt64) : Option UInt64 :=
  let largeBlocks : UInt64 := n >>> 14
  if n = 0 then some 2 else checkedAdd n (2 + 4 * largeBlocks + 3 + 1)

/-- Deflate's bound, which zlib shares. -/
def deflateBound (n : UInt64) : Option UInt64 :=
  checkedAdd n ((n >>> 12) + (n >>> 14) + (n >>> 25) + 13)

/-- Zstd's bound. A size that is too large for it is marked by a number near the top. -/
def zstdBound (n : UInt64) : UInt64 :=
  if 0xFF00FF00FF00FF00 ≤ n then 0 - 72
  else n + (n >>> 8) + (if n < 131072 then (131072 - n) >>> 11 else 0)

/-- LZ4's bound: a tenth more and a little. -/
def lz4Bound (n : UInt64) : UInt64 := 20 + n * 110 / 100

/-- The largest compressed size of `n` bytes, where the codec has a formula for it. -/
def maxCompressedLen (codec : Codec) (n : UInt64) : Option UInt64 :=
  match codec with
  | .brotli => brotliBound n
  | .zstd => some (zstdBound n)
  | .deflate | .zlib => deflateBound n
  | .xz | .lzma => none
  | .lz4 => some (lz4Bound n)

end StreamCodec
