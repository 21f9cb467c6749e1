import StreamCodec.Format.Bytes
import StreamCodec.Format.Lzma.Model

/-!
# LZMA encoding

The range encoder is the counterpart of the range decoder. `Alone.encode` writes
a stream whose symbols are all literals, with a marker at its end.
-/
namespace StreamCodec.Format.Lzma

/-- The state of the range encoder. A byte is held back as long as a carry may still reach it,
and so are the full bytes behind it. -/
structure Encoder where
  low : UInt64 := 0
  range : UInt32 := 0xFFFFFFFF
  held : UInt8 := 0
  /-- How many bytes are held back: the held one and full ones behind it. -/
  heldCount : Nat := 1
  probabilities : Array UInt16
  written : ByteArray := .empty

namespace Encoder

def pushMany (b : UInt8) : (count : Nat) → ByteArray → ByteArray
  | 0, data => data
  | count + 1, data => pushMany b count (data.push b)

/-- Moves the top byte of the low end out. -/
def shift : Encoder → Encoder
  | ⟨low, range, held, heldCount, probabilities, written⟩ =>
    if low < 0xFF000000 || 0xFFFFFFFF < low then
      let carry := (low >>> 32).toUInt8
      ⟨(low &&& 0xFFFFFF) <<< 8, range, (low >>> 24).toUInt8, 1, probabilities,
        pushMany (0xFF + carry) (heldCount - 1) (written.push (held + carry))⟩
    else ⟨(low &&& 0xFFFFFF) <<< 8, range, held, heldCount + 1, probabilities, written⟩

/-- Widens a range that has become narrow. -/
def normalize (e : Encoder) : Encoder :=
  if e.range < 0x1000000 then shift { e with range := e.range <<< 8 } else e

/-- Writes a bit, by the probability in a slot. -/
def bit (slot : Nat) (b : Bool) : Encoder → Encoder
  | ⟨low, range, held, heldCount, probabilities, written⟩ =>
    let p := probabilities.getD slot 1024
    let bound := zeroPart range p
    let probabilities := probabilities.setIfInBounds slot (adapt p b)
    normalize
      (if b then ⟨low + bound.toUInt64, range - bound, held, heldCount, probabilities, written⟩
      else ⟨low, bound, held, heldCount, probabilities, written⟩)

/-- Writes a one of even odds. -/
def directOne : Encoder → Encoder
  | ⟨low, range, held, heldCount, probabilities, written⟩ =>
    let half := range >>> 1
    normalize ⟨low + half.toUInt64, half, held, heldCount, probabilities, written⟩

def tree (slot : Nat) : List Bool → (node : Nat) → Encoder → Encoder
  | [], _, e => e
  | b :: bits, node, e => tree slot bits (2 * node + b.toNat) (e.bit (slot + node) b)

def bitsOf (b : UInt8) : List Bool :=
  [7, 6, 5, 4, 3, 2, 1, 0].map fun i => b.toNat.testBit i

/-- Writes a byte after so many others, all of them literals. -/
def literal (p : Properties) (total : Nat) (before b : UInt8) (e : Encoder) : Encoder :=
  (e.bit (Slot.isMatch 0 (p.positionPhase total)) false).tree (Slot.literal p total before)
    (bitsOf b) 1

/-- Writes the end marker: a match with the largest distance. -/
def marker (p : Properties) (total : Nat) (e : Encoder) : Encoder :=
  let position := p.positionPhase total
  let ones (count : Nat) : List Bool := List.replicate count true
  let e := (e.bit (Slot.isMatch 0 position) true).bit (Slot.isRepeat 0) false
  let e := (e.bit Slot.matchLength false).tree (Slot.matchLength + 2 + 8 * position)
    [false, false, false] 1
  let e := (ones 26).foldl (fun e _ => e.directOne) (e.tree (Slot.distanceSize 2) (ones 6) 1)
  e.tree Slot.distanceAlign (ones 4) 1

/-- Moves everything out. -/
def flush (e : Encoder) : ByteArray := e.shift.shift.shift.shift.shift.written

end Encoder

namespace Alone

/-- The dictionary size that headers name. -/
def standardDictionary : Nat := 1 <<< 16

def encode (plain : ByteArray) : ByteArray :=
  let p := Properties.standard
  let header := p.toByte :: (littleEndian standardDictionary 4 ++ List.replicate 8 0xff)
  let start : Encoder := { probabilities := evenOdds p, written := ofList header }
  let (e, total, _) := plain.foldl (fun (e, total, before) b =>
    (e.literal p total before b, total + 1, b)) (start, 0, (0 : UInt8))
  (e.marker p total).flush

end Alone

end StreamCodec.Format.Lzma
