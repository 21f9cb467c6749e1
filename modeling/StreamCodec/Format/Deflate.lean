import StreamCodec.Format.Checksum
import StreamCodec.Format.PrefixCode
import StreamCodec.Format.Ranges
import StreamCodec.Format.Window

/-!
# Deflate and zlib

`Deflate.decode` reads the blocks of a deflate stream up to the one marked
final. `Zlib.decode` reads the header and trailer around one. The window that
matches reach back into starts out blank.
-/
namespace StreamCodec.Format

namespace Deflate

/-- The lengths that symbols from 257 on stand for. The last symbol is the longest match alone. -/
def lengthCodes : Array (Nat × Nat) :=
  (ranges 3 ([0, 0, 0, 0] ++ (List.range 6).flatMap (.replicate 4 ·))).push (258, 0)

def distanceCodes : Array (Nat × Nat) :=
  ranges 1 ([0, 0] ++ (List.range 14).flatMap (.replicate 2 ·))

/-- The order in which a block's header lists the lengths of the code-length code. -/
def headerOrder : List Nat := [16, 17, 18, 0, 8, 7, 9, 6, 10, 5, 11, 4, 12, 3, 13, 2, 14, 1, 15]

structure BlockCodes where
  literals : PrefixCode
  distances : PrefixCode

/-- The codes of a block that brings none. -/
def fixedCodes : BlockCodes where
  literals := .ofLengths (.replicate 144 8 ++ .replicate 112 9 ++ .replicate 24 7 ++ .replicate 8 8)
  distances := .ofLengths (.replicate 32 5)

/-- A number that a symbol stands for, with the extra bits that follow the symbol. -/
def extended (table : Array (Nat × Nat)) (symbol : Nat) : BitFlow Nat :=
  match table[symbol]? with
  | some (least, extra) => do return least + (← BitFlow.bits extra)
  | none => BitFlow.fail "invalid symbol"

def copyMatch (length distance : Nat) : Flow Unit := do
  let history ← Flow.history
  Flow.emit (repeatBack history distance length)

/-- One symbol of a block: a byte, a match, or the end. -/
def symbol (codes : BlockCodes) (_ : Unit) : BitFlow (Unit ⊕ Unit) := do
  let s ← codes.literals.read
  if s < 256 then
    Flow.emit ⟨#[UInt8.ofNat s]⟩
    return .inl ()
  else if s = 256 then return .inr ()
  else
    let length ← extended lengthCodes (s - 257)
    let distance ← extended distanceCodes (← codes.distances.read)
    copyMatch length distance
    return .inl ()

/-- A block whose bytes stand as they are. -/
def storedBlock : BitFlow Unit := do
  let _ ← BitFlow.align
  let length ← Flow.littleEndian 2
  let check ← Flow.littleEndian 2
  if length + check ≠ 0xffff then BitFlow.fail "stored length does not match its complement"
  else Flow.copyThrough length

/-- How often the next code length occurs, and which it is; a repetition needs a last one. -/
def lengthRun (code : PrefixCode) (last : Option Nat) : BitFlow (Nat × Nat) := do
  match ← code.read with
  | 16 =>
    match last with
    | some length => return (3 + (← BitFlow.bits 2), length)
    | none => BitFlow.fail "no length to repeat"
  | 17 => return (3 + (← BitFlow.bits 3), 0)
  | 18 => return (11 + (← BitFlow.bits 7), 0)
  | length => return (1, length)

def codeLengths (code : PrefixCode) (wanted : Nat) : BitFlow (Array Nat) :=
  Flow.repeatFor (fun lengths => do
    let (count, length) ← lengthRun code lengths.back?
    let lengths := lengths ++ Array.replicate count length
    if lengths.size < wanted then return .inl lengths
    else if lengths.size = wanted then return .inr lengths
    else BitFlow.fail "code lengths overrun") (BitFlow.fail "code lengths without end") wanted #[]

/-- A code of a block may fall short of its code space only if it has at most one symbol. -/
def blockCode (lengths : List Nat) : BitFlow PrefixCode :=
  if PrefixCode.isComplete lengths || (lengths.countP (0 < ·) ≤ 1) then
    return .ofLengths lengths
  else BitFlow.fail "invalid code lengths"

/-- The codes at the head of a block that brings its own. -/
def dynamicCodes : BitFlow BlockCodes := do
  let literals := 257 + (← BitFlow.bits 5)
  let distances := 1 + (← BitFlow.bits 5)
  let listed := 4 + (← BitFlow.bits 4)
  if 286 < literals || 30 < distances then BitFlow.fail "too many symbols"
  else
    let headerLengths ← (headerOrder.take listed).mapM fun s => do return (s, ← BitFlow.bits 3)
    let lengths := (List.range 19).map fun s => (headerLengths.lookup s).getD 0
    if !PrefixCode.isComplete lengths then BitFlow.fail "invalid code-length code"
    else
      let lengths ← codeLengths (.ofLengths lengths) (literals + distances)
      return {
        literals := ← blockCode (lengths.toList.take literals)
        distances := ← blockCode (lengths.toList.drop literals) }

def codedBlock (codes : BlockCodes) : BitFlow Unit :=
  Flow.repeatFor (symbol codes) (BitFlow.fail "block without end") Flow.endless ()

/-- One block; the answer tells whether another follows. -/
def block (_ : Unit) : BitFlow (Unit ⊕ Unit) := do
  let isFinal ← BitFlow.bit
  match ← BitFlow.bits 2 with
  | 0 => storedBlock
  | 1 => codedBlock fixedCodes
  | 2 => codedBlock (← dynamicCodes)
  | _ => BitFlow.fail "reserved block type"
  return if isFinal = 1 then .inr () else .inl ()

def decode : Flow Unit :=
  BitFlow.run (Flow.repeatFor block (BitFlow.fail "stream without end") Flow.endless ())

end Deflate

namespace Zlib

/-- Whether two bytes are the header of a deflate stream that needs no dictionary. -/
def isHeader (method flags : Nat) : Bool :=
  method % 16 = 8 && method / 16 ≤ 7 && (256 * method + flags) % 31 = 0 && flags / 32 % 2 = 0

def decode : Flow Unit := do
  let method ← Flow.byte
  let flags ← Flow.byte
  if !isHeader method.toNat flags.toNat then Flow.fail "invalid zlib header"
  else
    Deflate.decode
    let check ← Flow.bigEndian32
    if check = adler32 (← Flow.history) then return () else Flow.fail "checksum mismatch"

end Zlib

end StreamCodec.Format
