import StreamCodec.Format.Bytes

/-!
# SHA-256

The digest that some containers carry instead of a checksum. The message is
padded to whole blocks; each block is spread over 64 words and mixed into eight
words of state.
-/
namespace StreamCodec.Format.Sha256

/-- The first 32 bits of the fractional parts of the cube roots of the first 64 primes. -/
def constants : List UInt32 := [
  0x428a2f98, 0x71374491, 0xb5c0fbcf, 0xe9b5dba5, 0x3956c25b, 0x59f111f1, 0x923f82a4, 0xab1c5ed5,
  0xd807aa98, 0x12835b01, 0x243185be, 0x550c7dc3, 0x72be5d74, 0x80deb1fe, 0x9bdc06a7, 0xc19bf174,
  0xe49b69c1, 0xefbe4786, 0x0fc19dc6, 0x240ca1cc, 0x2de92c6f, 0x4a7484aa, 0x5cb0a9dc, 0x76f988da,
  0x983e5152, 0xa831c66d, 0xb00327c8, 0xbf597fc7, 0xc6e00bf3, 0xd5a79147, 0x06ca6351, 0x14292967,
  0x27b70a85, 0x2e1b2138, 0x4d2c6dfc, 0x53380d13, 0x650a7354, 0x766a0abb, 0x81c2c92e, 0x92722c85,
  0xa2bfe8a1, 0xa81a664b, 0xc24b8b70, 0xc76c51a3, 0xd192e819, 0xd6990624, 0xf40e3585, 0x106aa070,
  0x19a4c116, 0x1e376c08, 0x2748774c, 0x34b0bcb5, 0x391c0cb3, 0x4ed8aa4a, 0x5b9cca4f, 0x682e6ff3,
  0x748f82ee, 0x78a5636f, 0x84c87814, 0x8cc70208, 0x90befffa, 0xa4506ceb, 0xbef9a3f7, 0xc67178f2]

structure State where
  a : UInt32
  b : UInt32
  c : UInt32
  d : UInt32
  e : UInt32
  f : UInt32
  g : UInt32
  h : UInt32

/-- The same of the square roots of the first eight primes. -/
def start : State :=
  ⟨0x6a09e667, 0xbb67ae85, 0x3c6ef372, 0xa54ff53a, 0x510e527f, 0x9b05688c, 0x1f83d9ab, 0x5be0cd19⟩

def rotateRight (x n : UInt32) : UInt32 := (x >>> n) ||| (x <<< (32 - n))

namespace State

def round (s : State) (constant word : UInt32) : State :=
  let choice := (s.e &&& s.f) ^^^ ((~~~s.e) &&& s.g)
  let majority := (s.a &&& s.b) ^^^ (s.a &&& s.c) ^^^ (s.b &&& s.c)
  let mixE := rotateRight s.e 6 ^^^ rotateRight s.e 11 ^^^ rotateRight s.e 25
  let mixA := rotateRight s.a 2 ^^^ rotateRight s.a 13 ^^^ rotateRight s.a 22
  let t := s.h + mixE + choice + constant + word
  ⟨t + mixA + majority, s.a, s.b, s.c, s.d + t, s.e, s.f, s.g⟩

def add (s t : State) : State :=
  ⟨s.a + t.a, s.b + t.b, s.c + t.c, s.d + t.d, s.e + t.e, s.f + t.f, s.g + t.g, s.h + t.h⟩

def words (s : State) : List UInt32 := [s.a, s.b, s.c, s.d, s.e, s.f, s.g, s.h]

end State

/-- The message with its padding and its length in bits. -/
def padded (message : ByteArray) : ByteArray :=
  let zeros := (119 - message.size % 64) % 64
  message ++ ofList (0x80 :: (.replicate zeros 0 ++ bigEndian (8 * message.size) 8))

/-- The 16 words of the block at a position. -/
def blockWords (data : ByteArray) (pos : Nat) : Array UInt32 :=
  (Array.range 16).map fun i =>
    let at4 (k : Nat) : UInt32 := (byteAt data (pos + 4 * i + k)).toUInt32
    (at4 0 <<< 24) ||| (at4 1 <<< 16) ||| (at4 2 <<< 8) ||| at4 3

/-- One more word of a schedule. -/
def extend (words : Array UInt32) : Array UInt32 :=
  let back (k : Nat) : UInt32 := words.getD (words.size - k) 0
  let small (x p q r : UInt32) : UInt32 := rotateRight x p ^^^ rotateRight x q ^^^ (x >>> r)
  words.push (small (back 2) 17 19 10 + back 7 + small (back 15) 7 18 3 + back 16)

/-- Mixes the block at a position into the state. -/
def block (data : ByteArray) (s : State) (pos : Nat) : State :=
  let schedule := (List.range 48).foldl (fun words _ => extend words) (blockWords data pos)
  s.add ((constants.zip schedule.toList).foldl (fun s (k, w) => s.round k w) s)

def digest (message : ByteArray) : ByteArray :=
  let data := padded message
  let s := (List.range (data.size / 64)).foldl (fun s i => block data s (64 * i)) start
  ofList (s.words.flatMap fun w => bigEndian w.toNat 4)

end StreamCodec.Format.Sha256
