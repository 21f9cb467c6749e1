import StreamCodec.Format.Bytes

/-!
# Spans of bits

A span is a row of bits inside some bytes, the least significant bit of a byte
first. Headers are read from its low end; entropy-coded data is read from its
high end backwards, where a single one bit above it marks that end.
-/
namespace StreamCodec.Format.Zstd

structure BitSpan where
  data : ByteArray
  start : Nat
  stop : Nat

namespace BitSpan

variable (s : BitSpan)

def size : Nat := s.stop - s.start

/-- The bits from one position up to another as a number. -/
def value (data : ByteArray) (start stop : Nat) : Nat :=
  let first := start / 8
  let width := (stop + 7) / 8 - first
  (numberAt data first width >>> (start % 8)) % (1 <<< (stop - start))

def takeLow? (n : Nat) : Option (Nat × BitSpan) :=
  if s.size < n then none
  else some (value s.data s.start (s.start + n), { s with start := s.start + n })

/-- The next bits at the high end, as if zeros went on below the span. -/
def peekHigh (n : Nat) : Nat :=
  if n ≤ s.size then value s.data (s.stop - n) s.stop
  else value s.data s.start s.stop * (1 <<< (n - s.size))

def dropHigh? (n : Nat) : Option BitSpan :=
  if s.size < n then none else some { s with stop := s.stop - n }

def takeHigh? (n : Nat) : Option (Nat × BitSpan) :=
  (s.dropHigh? n).map fun rest => (s.peekHigh n, rest)

/-- All bits of some bytes. -/
def ofBytes (data : ByteArray) : BitSpan := ⟨data, 0, 8 * data.size⟩

/-- The bits below the highest bit of some bytes; the last byte must not be zero. -/
def belowMark? (data : ByteArray) : Option BitSpan :=
  let last := (byteAt data (data.size - 1)).toNat
  if last = 0 then none else some ⟨data, 0, 8 * (data.size - 1) + last.log2⟩

/-- The first byte that no bit of the read low end is in. -/
def nextByte : Nat := (s.start + 7) / 8

end BitSpan

end StreamCodec.Format.Zstd
