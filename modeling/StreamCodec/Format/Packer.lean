import StreamCodec.Engine
import StreamCodec.Format.Bytes

/-!
# Packers

A packer is an encoder that leaves plain bytes as they are. Its framing says
what stands before, between and behind the chunks into which it cuts them. Bytes
are held until a chunk is full, a flush asks for what there is, or the stream
ends; what was written is handed on as room for it comes.
-/
namespace StreamCodec.Format

/-- How plain bytes become a stream. -/
structure Framing where
  head : ByteArray := .empty
  /-- The most bytes of a chunk. -/
  limit : Nat
  /-- A chunk behind so many others. -/
  chunk : (index : Nat) → ByteArray → ByteArray
  /-- What ends the stream of these plain bytes: the last of them, behind so many chunks. -/
  last : (index : Nat) → (rest plain : ByteArray) → ByteArray

structure Packer where
  framing : Framing
  /-- All bytes taken in. -/
  plain : ByteArray := .empty
  /-- How many of them stand in chunks. -/
  framed : Nat := 0
  chunks : Nat := 0
  /-- All bytes written. -/
  written : ByteArray := framing.head
  /-- How many of them were handed on. -/
  emitted : Nat := 0
  isClosed : Bool := false

namespace Packer

def cut (p : Packer) (size : Nat) : Packer :=
  let chunk := p.framing.chunk p.chunks (p.plain.extract p.framed (p.framed + size))
  { p with framed := p.framed + size, chunks := p.chunks + 1, written := p.written ++ chunk }

/-- Writes up to so many full chunks. -/
def cutFull : (count : Nat) → Packer → Packer
  | 0, p => p
  | count + 1, p => cutFull count (p.cut p.framing.limit)

def held (p : Packer) : Nat := p.plain.size - p.framed

/-- Takes bytes in. -/
def take (p : Packer) (input : ByteArray) : Packer :=
  let p := { p with plain := p.plain ++ input }
  p.cutFull (p.held / p.framing.limit)

def flush (p : Packer) : Packer := if p.held = 0 then p else p.cut p.held

def close (p : Packer) : Packer :=
  if p.isClosed then p
  else
    let last := p.framing.last p.chunks (p.plain.extract p.framed p.plain.size) p.plain
    { p with framed := p.plain.size, written := p.written ++ last, isClosed := true }

/-- Takes bytes in and carries an operation out. -/
def step (p : Packer) (op : FlushOp) (input : ByteArray) : Packer :=
  match op with
  | .process => p.take input
  | .flush => (p.take input).flush
  | .finish => (p.take input).close

def pending (p : Packer) : Nat := p.written.size - p.emitted

def emit (p : Packer) (room : Nat) : ByteArray × Packer :=
  let stop := p.emitted + min room p.pending
  (p.written.extract p.emitted stop, { p with emitted := stop })

end Packer

end StreamCodec.Format
