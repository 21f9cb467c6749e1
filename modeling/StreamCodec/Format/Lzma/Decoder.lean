import StreamCodec.Format.Flow
import StreamCodec.Format.Lzma.Model
import StreamCodec.Format.Window

/-!
# LZMA decoding

The range decoder reads bits; `symbols` reads literals and matches from it.
`Alone.decode` reads the header-only container. A stream ends with a marker, or
where its plain size says so; either way nothing may be left in the range
decoder.
-/
namespace StreamCodec.Format.Lzma

structure Coder where
  range : UInt32
  code : UInt32
  /-- How many more bytes it may take. -/
  budget : Nat
  probabilities : Array UInt16

abbrev RangeFlow := StateT Coder Flow

namespace RangeFlow

def fail {α : Type} (reason : String) : RangeFlow α := fun _ => .fail reason

/-- Takes a byte if the range has become narrow. -/
def normalize : RangeFlow Unit
  | ⟨range, code, budget, probabilities⟩ =>
    if range < 0x1000000 then
      match budget with
      | 0 => .fail "chunk overrun"
      | budget + 1 => .take fun b =>
        .done ((), ⟨range <<< 8, (code <<< 8) ||| b.toUInt32, budget, probabilities⟩)
    else .done ((), ⟨range, code, budget, probabilities⟩)

def bit (slot : Nat) : RangeFlow Bool := do
  normalize
  fun ⟨range, code, budget, probabilities⟩ =>
    let p := probabilities.getD slot 1024
    let bound := zeroPart range p
    if code < bound then
      .done (false, ⟨bound, code, budget, probabilities.setIfInBounds slot (adapt p false)⟩)
    else
      .done (true,
        ⟨range - bound, code - bound, budget, probabilities.setIfInBounds slot (adapt p true)⟩)

/-- So many bits of even odds, the most significant first, behind the bits of `value`. -/
def direct : (count : Nat) → (value : Nat) → RangeFlow Nat
  | 0, value => pure value
  | count + 1, value => do
    normalize
    let b ← fun (⟨range, code, budget, probabilities⟩ : Coder) =>
      let half := range >>> 1
      if code < half then Flow.done (0, (⟨half, code, budget, probabilities⟩ : Coder))
      else Flow.done (1, (⟨half, code - half, budget, probabilities⟩ : Coder))
    direct count (2 * value + b)

/-- So many bits down a tree, the most significant first. `node` is one followed by the bits
so far. -/
def tree (slot : Nat) : (count : Nat) → (node : Nat) → RangeFlow Nat
  | 0, node => pure node
  | count + 1, node => do
    let b ← bit (slot + node)
    tree slot count (2 * node + b.toNat)

/-- So many bits down a tree, the least significant first. -/
def reverseTree (slot : Nat) : (count : Nat) → (node : Nat) → RangeFlow Nat
  | 0, _ => pure 0
  | count + 1, node => do
    let b ← bit (slot + node)
    return b.toNat + 2 * (← reverseTree slot count (2 * node + b.toNat))

/-- Starts on the first bytes of a stream. -/
def start (budget : Nat) (probabilities : Array UInt16) : Flow Coder := do
  if budget < 5 then Flow.fail "chunk too short"
  else
    let zero ← Flow.byte
    if zero ≠ 0 then Flow.fail "invalid start of range coder"
    else return ⟨0xFFFFFFFF, ← Flow.bigEndian32, budget - 5, probabilities⟩

end RangeFlow

open RangeFlow

/-- What a decoder knows of the symbols so far. -/
structure Progress where
  properties : Properties
  /-- How far back a match may reach. -/
  dictionary : Nat
  phase : Nat := 0
  /-- The last four distances, each less one. -/
  distances : Nat × Nat × Nat × Nat := (0, 0, 0, 0)
  /-- How many bytes the dictionary was given. -/
  total : Nat := 0
  /-- The last of them. -/
  before : UInt8 := 0

namespace Progress

variable (s : Progress)

/-- Whether a match may reach back beyond so many bytes. -/
def isInReach (distance : Nat) : Bool := decide (distance < min s.total s.dictionary)

def position : Nat := s.properties.positionPhase s.total

/-- The progress with its symbols forgotten but not its bytes. -/
def fresh : Progress := { s with phase := 0, distances := (0, 0, 0, 0) }

end Progress

def readLength (slot position : Nat) : RangeFlow Nat := do
  if !(← bit slot) then return 2 + ((← tree (slot + 2 + 8 * position) 3 1) - 8)
  else if !(← bit (slot + 1)) then return 10 + ((← tree (slot + 130 + 8 * position) 3 1) - 8)
  else return 18 + ((← tree (slot + 258) 8 1) - 256)

def readDistance (length : Nat) : RangeFlow Nat := do
  let size := (← tree (Slot.distanceSize length) 6 1) - 64
  if size < 4 then return size
  else
    let count := size / 2 - 1
    let high := (2 + size % 2) * (1 <<< count)
    if size < 14 then return high + (← reverseTree (Slot.distanceBits + high - size) count 1)
    else
      let middle ← direct (count - 4) 0
      return high + 16 * middle + (← reverseTree Slot.distanceAlign 4 1)

/-- The bits of a literal after a match, up to the first that differs from the byte `expected`
that would have continued the match. -/
def differing (slot : Nat) (expected : Nat) : (count : Nat) → (node : Nat) → RangeFlow Nat
  | 0, node => pure node
  | count + 1, node => do
    let e := (expected >>> count) % 2
    let b ← bit (slot + 0x100 * (1 + e) + node)
    let node := 2 * node + b.toNat
    if b.toNat = e then differing slot expected count node else tree slot count node

def byteBack (distance : Nat) : Flow UInt8 := do
  let history ← Flow.history
  return byteAt history (history.size - distance - 1)

def literal (s : Progress) : RangeFlow Progress := do
  let slot := Slot.literal s.properties s.total s.before
  let node ← if Phase.followsMatch s.phase then do
      differing slot (← byteBack s.distances.1).toNat 8 1
    else tree slot 8 1
  let b := UInt8.ofNat (node - 256)
  Flow.emit ⟨#[b]⟩
  return { s with phase := Phase.afterLiteral s.phase, total := s.total + 1, before := b }

/-- Gives a match with the latest distance. One that goes beyond the end is given up to there. -/
def copyMatch (s : Progress) (length room : Nat) : RangeFlow Progress := do
  let distance := s.distances.1
  if !s.isInReach distance then RangeFlow.fail "match out of reach"
  else
    let history ← Flow.history
    let copy := repeatBack history (distance + 1) (min length room)
    Flow.emit copy
    if room < length then RangeFlow.fail "match beyond the end"
    else return { s with total := s.total + length, before := byteAt copy (length - 1) }

/-- A match with one of the last distances, which becomes the latest. -/
def repeatMatch (s : Progress) (room : Nat) : RangeFlow Progress := do
  let (a, b, c, d) := s.distances
  if !(← bit (Slot.isOlder 0 s.phase)) then
    if ← bit (Slot.isLong s.phase s.position) then long s
    else copyMatch { s with phase := Phase.afterShortRepeat s.phase } 1 room
  else if !(← bit (Slot.isOlder 1 s.phase)) then long { s with distances := (b, a, c, d) }
  else if !(← bit (Slot.isOlder 2 s.phase)) then long { s with distances := (c, a, b, d) }
  else long { s with distances := (d, a, b, c) }
where
  long (s : Progress) : RangeFlow Progress := do
    let length ← readLength Slot.repeatLength s.position
    copyMatch { s with phase := Phase.afterRepeat s.phase } length room

/-- The distance, less one, that marks the end. -/
def endDistance : Nat := 0xFFFFFFFF

/-- A symbol with at most `room` bytes; none is the end marker. -/
def symbol (s : Progress) (room : Nat) : RangeFlow (Option Progress) := do
  if !(← bit (Slot.isMatch s.phase s.position)) then
    if room = 0 then RangeFlow.fail "literal beyond the end" else return some (← literal s)
  else if ← bit (Slot.isRepeat s.phase) then return some (← repeatMatch s room)
  else
    let length ← readLength Slot.matchLength s.position
    let distance ← readDistance length
    if distance = endDistance then return none
    else
      let (a, b, c, _) := s.distances
      let s := { s with phase := Phase.afterMatch s.phase, distances := (distance, a, b, c) }
      return some (← copyMatch s length room)

/-- Where a run of symbols ends. -/
structure Extent where
  /-- The plain size, where it is known. -/
  size : Option Nat
  /-- Whether there may be a marker at the end. -/
  allowsMarker : Bool

/-- Ends a run of symbols. Nothing may be left in the range decoder. -/
def finish (s : Progress) : RangeFlow Progress := do
  normalize
  if (← get).code = 0 then return s else RangeFlow.fail "range coder is not at rest"

/-- Decodes symbols up to the end; the plain size counts from `start`. -/
def symbols (extent : Extent) (start : Progress) : RangeFlow Progress :=
  Flow.repeatFor (fun s => do
    let room := match extent.size with
      | some size => start.total + size - s.total
      | none => Flow.endless
    if room = 0 then
      normalize
      if (← get).code = 0 then return .inr s
    if room = 0 && !extent.allowsMarker then RangeFlow.fail "range coder is not at rest"
    else
      match ← symbol s room with
      | some s => return .inl s
      | none =>
        if extent.allowsMarker && (extent.size.isNone || room = 0) then return .inr (← finish s)
        else RangeFlow.fail "unexpected end marker")
    (RangeFlow.fail "stream without end") Flow.endless start

namespace Alone

def unknownSize : Nat := (1 <<< 64) - 1

/-- A dictionary is never smaller than this, and its size is rounded up to a multiple of 16. -/
def dictionaryOf (size : Nat) : Nat := (max size 4096 + 15) / 16 * 16

/-- A header with the properties, the dictionary size and the plain size, then the symbols. -/
def decode : Flow Unit := do
  match Properties.ofByte? (← Flow.byte) with
  | none => Flow.fail "invalid lzma properties"
  | some properties =>
    let dictionary ← Flow.littleEndian 4
    let size ← Flow.littleEndian 8
    let coder ← start Flow.endless (evenOdds properties)
    let extent : Extent := ⟨if size = unknownSize then none else some size, true⟩
    let _ ← symbols extent { properties, dictionary := dictionaryOf dictionary } |>.run coder
    return ()

end Alone

end StreamCodec.Format.Lzma
