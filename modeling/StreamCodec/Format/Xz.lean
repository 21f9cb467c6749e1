import StreamCodec.Format.Checksum
import StreamCodec.Format.Lzma.Chunks
import StreamCodec.Format.Sha256

/-!
# The xz container

A stream is a header, blocks, an index of the blocks and a footer. A block has a
header of its own that names the filters, of which LZMA2 is taken, then the
coded bytes, padding and a check of the plain bytes. Every header carries a
CRC-32 of itself. `decode` reads one stream.
-/
namespace StreamCodec.Format.Xz

def magic : List UInt8 := [0xfd, 0x37, 0x7a, 0x58, 0x5a, 0x00]

def footerMagic : List UInt8 := [0x59, 0x5a]

def lzma2 : Nat := 0x21

/-- How the plain bytes of a block are checked. -/
inductive Check where
  | none
  | crc32
  | crc64
  | sha256
  /-- A check of so many bytes that nobody knows how to compute. -/
  | other (size : Nat)
deriving DecidableEq, Repr

namespace Check

def ofId : Nat → Check
  | 0 => .none
  | 1 => .crc32
  | 4 => .crc64
  | 10 => .sha256
  | id => .other (1 <<< ((id - 1) / 3 + 2))

def size : Check → Nat
  | .none => 0
  | .crc32 => 4
  | .crc64 => 8
  | .sha256 => 32
  | .other size => size

def compute? : Check → ByteArray → Option ByteArray
  | .none, _ => some .empty
  | .crc32, data => some (ofList (littleEndian (Format.crc32 data).toNat 4))
  | .crc64, data => some (ofList (littleEndian (Format.crc64 data).toNat 8))
  | .sha256, data => some (Sha256.digest data)
  | .other _, _ => Option.none

end Check

/-- What is added to so many bytes to fill a group of four. -/
def paddingOf (size : Nat) : Nat := (4 - size % 4) % 4

/-- Whether some bytes end with the CRC-32 of what comes before. -/
def isSealed (data : ByteArray) : Bool :=
  (crc32 (data.extract 0 (data.size - 4))).toNat = numberAt data (data.size - 4) 4

/-- A number in groups of seven bits, the least significant first, with the position after
it. -/
def number? (data : ByteArray) (pos : Nat) : (limit : Nat := 9) → Option (Nat × Nat)
  | 0 => none
  | limit + 1 =>
    let b := (byteAt data pos).toNat
    if data.size ≤ pos then none
    else if b < 128 then some (b, pos + 1)
    else do
      let (high, pos) ← number? data (pos + 1) limit
      if high = 0 then none else return (b - 128 + 128 * high, pos)

def isBlank (data : ByteArray) (pos stop : Nat) : Bool :=
  (data.extract pos stop).data.all (· = 0)

structure BlockHeader where
  codedSize : Option Nat
  plainSize : Option Nat
  dictionary : Nat

/-- The header in these bytes, seal included. -/
def BlockHeader.ofBytes? (data : ByteArray) : Option BlockHeader := do
  let stop := data.size - 4
  let flags := (byteAt data 1).toNat
  guard (isSealed data)
  -- One filter, and no reserved flag.
  guard (flags % 64 = 0)
  let optional (present : Bool) (pos : Nat) : Option (Option Nat × Nat) :=
    if present then (number? data pos).map fun (n, pos) => (some n, pos) else some (none, pos)
  let (codedSize, pos) ← optional (flags / 64 % 2 = 1) 2
  let (plainSize, pos) ← optional (flags / 128 = 1) pos
  let (filter, pos) ← number? data pos
  let (propertySize, pos) ← number? data pos
  guard (filter = lzma2 ∧ propertySize = 1 ∧ pos < stop ∧ codedSize ≠ some 0)
  let dictionary ← Lzma.Chunks.dictionaryOf? (byteAt data pos)
  guard (isBlank data (pos + 1) stop)
  return { codedSize, plainSize, dictionary }

/-- A block as the index lists it: its size without padding, and its plain size. -/
structure Record where
  size : Nat
  plainSize : Nat
deriving DecidableEq, Repr

/-- The block whose header has this first byte. -/
def block (check : Check) (first : UInt8) : Flow Record := do
  let headerSize := 4 * first.toNat + 4
  match BlockHeader.ofBytes? (← Flow.bytes (headerSize - 1) (ofList [first])) with
  | none => Flow.fail "invalid block header"
  | some header =>
    let start := (← Flow.history).size
    let codedSize ← Lzma.Chunks.decode header.dictionary
    let plainSize := (← Flow.history).size - start
    if header.codedSize.any (· ≠ codedSize) || header.plainSize.any (· ≠ plainSize) then
      Flow.fail "block size mismatch"
    else
      let padding ← Flow.bytes (paddingOf codedSize)
      if !isBlank padding 0 padding.size then Flow.fail "invalid block padding"
      else
        let found ← Flow.bytes check.size
        let plain := (← Flow.history).extract start (start + plainSize)
        if (check.compute? plain).any (·.data ≠ found.data) then Flow.fail "check mismatch"
        else return ⟨headerSize + codedSize + check.size, plainSize⟩

/-- A number in groups of seven bits; `taken` collects its bytes. -/
def number (taken : ByteArray) : (limit : Nat := 9) → Flow (Nat × ByteArray)
  | 0 => Flow.fail "number too long"
  | limit + 1 => do
    let b ← Flow.byte
    let taken := taken.push b
    if b < 128 then return (b.toNat, taken)
    else
      let (high, taken) ← number taken limit
      if high = 0 then Flow.fail "number too long" else return (b.toNat - 128 + 128 * high, taken)

/-- The index of these blocks, after its first byte; the answer is its size. -/
def index (blocks : List Record) : Flow Nat := do
  let (count, taken) ← number (ofList [0])
  if count ≠ blocks.length then Flow.fail "index mismatch"
  else
    let taken ← blocks.foldlM (fun taken record => do
      let (size, taken) ← number taken
      let (plainSize, taken) ← number taken
      if (⟨size, plainSize⟩ : Record) = record then return taken else Flow.fail "index mismatch")
      taken
    let unpadded := taken.size
    let taken ← Flow.bytes (paddingOf unpadded) taken
    if !isBlank taken unpadded taken.size then Flow.fail "invalid index padding"
    else
      let taken ← Flow.bytes 4 taken
      if isSealed taken then return taken.size else Flow.fail "index checksum mismatch"

/-- Blocks up to the index; the answer is the size of the index. -/
def blocksAndIndex (check : Check) : Flow Nat :=
  Flow.repeatFor (fun blocks => do
    match ← Flow.byte with
    | 0 => return .inr (← index blocks.reverse)
    | first => return .inl ((← block check first) :: blocks))
    (Flow.fail "stream without end") Flow.endless []

/-- Whether these 12 bytes are the footer of a stream with these flags and this index. -/
def isFooter (data : ByteArray) (flags : List UInt8) (indexSize : Nat) : Bool :=
  let body := littleEndian (indexSize / 4 - 1) 4 ++ flags
  data.toList = littleEndian (crc32 (ofList body)).toNat 4 ++ body ++ footerMagic

def decode : Flow Unit := do
  let header := (← Flow.bytes 12).toList
  let flags := (header.drop 6).take 2
  if header.take 6 ≠ magic || !isSealed (ofList (header.drop 6)) then
    Flow.fail "invalid stream header"
  else
    match flags with
    | [0, id] =>
      if 16 ≤ id then Flow.fail "unknown stream flags"
      else
        let indexSize ← blocksAndIndex (.ofId id.toNat)
        let footer ← Flow.bytes 12
        if isFooter footer flags indexSize then return () else Flow.fail "invalid stream footer"
    | _ => Flow.fail "unknown stream flags"

end StreamCodec.Format.Xz
