/-!
# The LZMA model

LZMA codes one bit at a time, each with a probability that adapts to the bits
coded before it. All probabilities stand in one table; `Slot` says where. The
kind of the last few symbols is a number below 12, the phase, which with the
position and the byte before decides which probabilities come next.
-/
namespace StreamCodec.Format.Lzma

/-- How many bits of the byte before choose the table of a literal, and how many of the position
choose that of a literal and of a match. -/
structure Properties where
  literalContext : Nat
  literalPosition : Nat
  position : Nat
deriving DecidableEq, Repr

namespace Properties

/-- The properties that a header byte stands for. -/
def ofByte? (b : UInt8) : Option Properties :=
  let n := b.toNat
  let p : Properties := ⟨n % 9, n / 9 % 5, n / 45⟩
  if n < 225 ∧ p.literalContext + p.literalPosition ≤ 4 then some p else none

def toByte (p : Properties) : UInt8 :=
  UInt8.ofNat ((p.position * 5 + p.literalPosition) * 9 + p.literalContext)

/-- The properties that fit most data. -/
def standard : Properties := ⟨3, 0, 2⟩

/-- The part of a position that decides about matches. -/
def positionPhase (p : Properties) (total : Nat) : Nat := total % (1 <<< p.position)

end Properties

namespace Slot

def isMatch (phase position : Nat) : Nat := 16 * phase + position

def isRepeat (phase : Nat) : Nat := 192 + phase

/-- Whether a repeated distance is not the last, not the one before, not the one before that. -/
def isOlder (age phase : Nat) : Nat := 204 + 12 * age + phase

def isLong (phase position : Nat) : Nat := 240 + 16 * phase + position

/-- The tree of a distance's size, after a match of so many bytes. -/
def distanceSize (length : Nat) : Nat := 432 + 64 * min (length - 2) 3

def distanceBits : Nat := 688

def distanceAlign : Nat := 816

def matchLength : Nat := 832

def repeatLength : Nat := 1346

def literal (p : Properties) (total : Nat) (before : UInt8) : Nat :=
  let position := total % (1 <<< p.literalPosition)
  let context := before.toNat >>> (8 - p.literalContext)
  1860 + 0x300 * (position * (1 <<< p.literalContext) + context)

def count (p : Properties) : Nat := 1860 + 0x300 * (1 <<< (p.literalContext + p.literalPosition))

end Slot

/-- The probabilities of zero bits before any bit was coded, in parts of 2048. -/
def evenOdds (p : Properties) : Array UInt16 := Array.replicate (Slot.count p) 1024

/-- The part of a range that belongs to a zero bit. -/
def zeroPart (range : UInt32) (probability : UInt16) : UInt32 :=
  (range >>> 11) * probability.toUInt32

/-- A probability after a bit was coded with it. -/
def adapt (probability : UInt16) (bit : Bool) : UInt16 :=
  if bit then probability - (probability >>> 5)
  else probability + ((2048 - probability) >>> 5)

namespace Phase

def afterLiteral (phase : Nat) : Nat :=
  if phase < 4 then 0 else if phase < 10 then phase - 3 else phase - 6

def afterMatch (phase : Nat) : Nat := if phase < 7 then 7 else 10

def afterRepeat (phase : Nat) : Nat := if phase < 7 then 8 else 11

def afterShortRepeat (phase : Nat) : Nat := if phase < 7 then 9 else 11

/-- Whether the last symbol was a match, so that a literal differs from the byte that would have
continued it. -/
def followsMatch (phase : Nat) : Bool := 7 ≤ phase

end Phase

end StreamCodec.Format.Lzma
