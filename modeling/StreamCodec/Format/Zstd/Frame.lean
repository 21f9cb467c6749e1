import StreamCodec.Format.Checksum
import StreamCodec.Format.Flow
import StreamCodec.Format.Zstd.Sequences

/-!
# Zstandard frames

A frame has a header with its window and perhaps its plain size, then blocks,
then perhaps a checksum. A skippable frame has bytes that mean nothing.
`decode` reads one frame of either kind.
-/
namespace StreamCodec.Format.Zstd

def magic : List UInt8 := [0x28, 0xb5, 0x2f, 0xfd]

/-- What follows the first byte of a skippable frame. -/
def skippableMagic : List UInt8 := [0x2a, 0x4d, 0x18]

/-- No block is larger. -/
def maxBlockSize : Nat := 128 * 1024

def minWindow : Nat := 1024

/-- The largest window that is taken where none is set. -/
def defaultWindowLimit : Nat := (1 <<< 27) + 1

structure Header where
  window : Nat
  plainSize : Option Nat
  hasChecksum : Bool

namespace Header

/-- The bytes of a header, in the order in which they stand. -/
structure Layout where
  hasWindow : Bool
  dictionaryBytes : Nat
  sizeBytes : Nat

/-- The layout that the first byte tells. -/
def layout (descriptor : Nat) : Layout :=
  let isSingle := descriptor / 32 % 2 = 1
  { hasWindow := !isSingle
    dictionaryBytes := [0, 1, 2, 4].getD (descriptor % 4) 0
    sizeBytes := match descriptor / 64 with
      | 0 => if isSingle then 1 else 0
      | n => 1 <<< n }

def windowOf (b : Nat) : Nat :=
  let base := 1 <<< (10 + b / 8)
  base + base / 8 * (b % 8)

def read : Flow Header := do
  let descriptor := (← Flow.byte).toNat
  let l := layout descriptor
  let window ← Flow.littleEndian (if l.hasWindow then 1 else 0)
  let dictionary ← Flow.littleEndian l.dictionaryBytes
  let size ← Flow.littleEndian l.sizeBytes
  let size := if l.sizeBytes = 2 then size + 256 else size
  if descriptor / 8 % 2 = 1 then Flow.fail "reserved bit is set"
  else if dictionary ≠ 0 then Flow.fail "frame needs a dictionary"
  else
    return {
      window := if l.hasWindow then windowOf window else size
      plainSize := if l.sizeBytes = 0 then none else some size
      hasChecksum := descriptor / 4 % 2 = 1 }

def blockLimit (h : Header) : Nat := min h.window maxBlockSize

end Header

/-- What the blocks of a frame have come to: what they leave to the next, and how many plain bytes
they stand for. -/
structure Progress where
  memory : Memory := {}
  size : Nat := 0

/-- A block of so many bytes that stand as they are. -/
def stored (size : Nat) (p : Progress) (isRight : Nat → Bool) : Flow Progress := do
  let total := p.size + size
  if isRight total then
    Flow.copyThrough size
    return { p with size := total }
  else
    Flow.skip size
    Flow.fail "plain size mismatch"

/-- A block of one byte that stands so many times. -/
def repeated (size limit : Nat) (p : Progress) (isRight : Nat → Bool) : Flow Progress := do
  let b ← Flow.byte
  let total := p.size + size
  if limit < size then Flow.fail "block too large"
  else if !isRight total then Flow.fail "plain size mismatch"
  else
    Flow.emit ⟨Array.replicate size b⟩
    return { p with size := total }

/-- A coded block of so many bytes. One without any is empty. -/
def coded (size limit : Nat) (p : Progress) (isRight : Nat → Bool) : Flow Progress := do
  let data ← Flow.bytes size
  let history ← Flow.history
  let block := if size = 0 then some (history, p.memory) else block? data limit p.memory history
  match block with
  | none => Flow.fail "corrupt block"
  | some (plain, memory) =>
    if !isRight plain.size then Flow.fail "plain size mismatch"
    else
      Flow.emit (plain.extract history.size plain.size)
      return { memory, size := plain.size }

/-- One block. What the last one comes to has to be the plain size of the frame; a block with
which it is not gives nothing. -/
def block (header : Header) (p : Progress) : Flow (Progress ⊕ Unit) := do
  let head ← Flow.littleEndian 3
  let isLast := head % 2 = 1
  let size := head / 8
  let limit := header.blockLimit
  let isRight (total : Nat) : Bool := !(isLast && header.plainSize.any (· ≠ total))
  let kind := head / 2 % 4
  if limit < (if kind = 1 then 1 else size) then Flow.fail "block too large"
  else
    let p ← match kind with
      | 0 => stored size p isRight
      | 1 => repeated size limit p isRight
      | 2 => coded size limit p isRight
      | _ => Flow.fail "reserved block type"
    return if isLast then .inr () else .inl p

/-- A frame behind its magic number. -/
def frame (windowLimit : Nat) : Flow Unit := do
  let header ← Header.read
  if windowLimit < max header.window minWindow then Flow.fail "window too large"
  else
    Flow.repeatFor (block header) (Flow.fail "frame without end") Flow.endless {}
    if header.hasChecksum then
      let check ← Flow.littleEndian 4
      if check = (xxHash64 (← Flow.history)).toNat % (1 <<< 32) then return ()
      else Flow.fail "checksum mismatch"

/-- Takes these very bytes. -/
def expect (bytes : List UInt8) : Flow Unit :=
  bytes.forM fun b => do
    if (← Flow.byte) = b then return () else Flow.fail "unknown magic number"

def decode (windowLimit : Nat) : Flow Unit := do
  let first ← Flow.byte
  if first = 0x28 then
    expect magic.tail
    frame windowLimit
  else if 0x50 ≤ first ∧ first ≤ 0x5f then
    expect skippableMagic
    Flow.skip (← Flow.littleEndian 4)
  else Flow.fail "unknown magic number"

end StreamCodec.Format.Zstd
