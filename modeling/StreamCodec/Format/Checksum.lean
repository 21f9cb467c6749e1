import StreamCodec.Format.Bytes

/-!
# Checksums

The check values that containers carry: Adler-32, two cyclic redundancy checks
and the 64-bit xxHash.
-/
namespace StreamCodec.Format

/-- Two sums modulo a prime: of the bytes, and of the first sum after each byte. -/
def adler32 (data : ByteArray) : UInt32 :=
  let (a, b) := data.foldl (fun (a, b) x =>
    let a := (a + x.toUInt32) % 65521
    (a, (b + a) % 65521)) ((1 : UInt32), (0 : UInt32))
  (b <<< 16) ||| a

namespace Crc

/-- Divides by a polynomial whose bits are reversed, one bit at a time. -/
def step (polynomial : UInt64) (crc : UInt64) : UInt64 :=
  if crc &&& 1 = 1 then (crc >>> 1) ^^^ polynomial else crc >>> 1

def table (polynomial : UInt64) : Array UInt64 :=
  (Array.range 256).map fun i =>
    (List.range 8).foldl (fun crc _ => step polynomial crc) (UInt64.ofNat i)

def table32 : Array UInt64 := table 0xEDB88320

def table64 : Array UInt64 := table 0xC96C5795D7870F42

/-- Carries a remainder over the bytes of `data`. -/
def update (table : Array UInt64) (crc : UInt64) (data : ByteArray) : UInt64 :=
  data.foldl (fun crc b => table.getD ((crc ^^^ b.toUInt64) &&& 0xff).toNat 0 ^^^ (crc >>> 8)) crc

end Crc

def crc32 (data : ByteArray) : UInt32 :=
  (Crc.update Crc.table32 0xFFFFFFFF data ^^^ 0xFFFFFFFF).toUInt32

def crc64 (data : ByteArray) : UInt64 :=
  Crc.update Crc.table64 0xFFFFFFFFFFFFFFFF data ^^^ 0xFFFFFFFFFFFFFFFF

namespace XxHash64

def prime1 : UInt64 := 0x9E3779B185EBCA87

def prime2 : UInt64 := 0xC2B2AE3D27D4EB4F

def prime3 : UInt64 := 0x165667B19E3779F9

def prime4 : UInt64 := 0x85EBCA77C2B2AE63

def prime5 : UInt64 := 0x27D4EB2F165667C5

def rotateLeft (x : UInt64) (n : UInt64) : UInt64 := (x <<< n) ||| (x >>> (64 - n))

def word (data : ByteArray) (pos : Nat) : (width : Nat) → UInt64
  | 0 => 0
  | width + 1 => (byteAt data pos).toUInt64 ||| (word data (pos + 1) width <<< 8)

def round (acc lane : UInt64) : UInt64 := rotateLeft (acc + lane * prime2) 31 * prime1

def mergeRound (acc lane : UInt64) : UInt64 := (acc ^^^ round 0 lane) * prime1 + prime4

/-- The four accumulators after so many stripes of 32 bytes. -/
def stripes (data : ByteArray) : (count : Nat) → (pos : Nat) → (a b c d : UInt64) →
    UInt64 × UInt64 × UInt64 × UInt64
  | 0, _, a, b, c, d => (a, b, c, d)
  | count + 1, pos, a, b, c, d =>
    stripes data count (pos + 32) (round a (word data pos 8)) (round b (word data (pos + 8) 8))
      (round c (word data (pos + 16) 8)) (round d (word data (pos + 24) 8))

/-- Mixes in the bytes that fill no stripe. -/
def tail (data : ByteArray) (pos : Nat) (h : UInt64) : UInt64 :=
  if pos + 8 ≤ data.size then
    tail data (pos + 8)
      (rotateLeft (h ^^^ round 0 (word data pos 8)) 27 * prime1 + prime4)
  else if pos + 4 ≤ data.size then
    tail data (pos + 4) (rotateLeft (h ^^^ (word data pos 4 * prime1)) 23 * prime2 + prime3)
  else if pos < data.size then
    tail data (pos + 1) (rotateLeft (h ^^^ (word data pos 1 * prime5)) 11 * prime1)
  else h
termination_by data.size - pos

def avalanche (h : UInt64) : UInt64 :=
  let h := (h ^^^ (h >>> 33)) * prime2
  let h := (h ^^^ (h >>> 29)) * prime3
  h ^^^ (h >>> 32)

end XxHash64

open XxHash64 in
/-- The 64-bit xxHash with seed zero. -/
def xxHash64 (data : ByteArray) : UInt64 :=
  let count := data.size / 32
  let start :=
    if count = 0 then prime5
    else
      let (a, b, c, d) := stripes data count 0 (prime1 + prime2) prime2 0 (0 - prime1)
      let h := rotateLeft a 1 + rotateLeft b 7 + rotateLeft c 12 + rotateLeft d 18
      mergeRound (mergeRound (mergeRound (mergeRound h a) b) c) d
  avalanche (tail data (32 * count) (start + UInt64.ofNat data.size))

end StreamCodec.Format
