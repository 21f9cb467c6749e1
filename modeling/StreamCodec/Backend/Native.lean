import StreamCodec.Engine.Codecs
import StreamCodec.Format.Brotli.Stream
import StreamCodec.Format.Deflate
import StreamCodec.Format.Framings
import StreamCodec.Format.Unpacker

/-!
# The library's own formats

A backend whose decoders read the formats in full and whose encoders store
bytes as they are. Its state is the encoder or the decoder that was created
last.
-/
namespace StreamCodec.Native

open Format (Flow Framing Packer Unpacker)

inductive State where
  | idle
  | packing (packer : Packer)
  | unpacking (unpacker : Unpacker)

/-- Where a coder stands after a call. -/
inductive Outcome where
  /-- The stream is over and everything was handed on. -/
  | ended
  /-- It is not over; so many bytes, or more, wait for room. -/
  | more (pending : Nat)
  | failed (reason : String)

structure Turn where
  used : Nat
  bytes : ByteArray
  outcome : Outcome

namespace State

def newEncoder (framing : Framing) : State := .packing { framing }

/-- A decoder that runs ahead up to a multiple of `span` plain bytes. -/
def newDecoder (flow : Flow Unit) (span : Nat := 1) : State := .unpacking { flow, span }

def encode (op : FlushOp) (input : ByteArray) (room : Nat) : State → Turn × State
  | .packing packer =>
    let (bytes, packer) := (packer.step op input).emit room
    let isEnded := packer.isClosed && packer.pending = 0
    ({ used := input.size, bytes, outcome := if isEnded then .ended else .more packer.pending },
      .packing packer)
  | s => ({ used := 0, bytes := .empty, outcome := .failed "no encoder" }, s)

def decode (input : ByteArray) (room : Nat) : State → Turn × State
  | .unpacking unpacker =>
    let (stop, used, bytes, unpacker) := unpacker.run input room
    let outcome : Outcome := match stop with
      | .failed reason => .failed reason
      | .finished => if unpacker.pending = 0 then .ended else .more unpacker.pending
      | .starved | .sated => .more unpacker.pending
    ({ used, bytes, outcome }, .unpacking unpacker)
  | s => ({ used := 0, bytes := .empty, outcome := .failed "no decoder" }, s)

end State

namespace Brotli

/-- The window up to which a decoder runs ahead. -/
def span : Nat := 1 <<< 22

def backend : Brotli.Backend State where
  newEncoder _ := .newEncoder .brotli
  setQuality _ s := (true, s)
  setWindow _ s := (true, s)
  compress op input room s :=
    let (turn, s) := s.encode op input room.size
    ({ accepted := true
       leftIn := input.size - turn.used
       leftOut := room.size - turn.bytes.size
       room := overlay room 0 turn.bytes
       hasMore := turn.outcome matches .more (_ + 1)
       isDone := turn.outcome matches .ended }, s)
  newDecoder _ := .newDecoder Format.Brotli.decode span
  decompress input room s :=
    let (turn, s) := s.decode input room.size
    ({ used := turn.used
       leftOut := room.size - turn.bytes.size
       room := overlay room 0 turn.bytes
       verdict := match turn.outcome with
         | .ended => .success
         | .more 0 => .needsMoreInput
         | .more _ => .needsMoreOutput
         | .failed _ => .failure }, s)

end Brotli

namespace Zstd

/-- The logarithms of the windows that frames may have. -/
def isWindow (log : UInt32) : Bool := decide (10 ≤ log) && decide (log ≤ 31)

/-- The window where none is set. -/
def standardWindow : Nat := 21

def answer (room : ByteArray) (turn : Turn) : Zstd.Run where
  used := turn.used
  produced := turn.bytes.size
  room := overlay room 0 turn.bytes
  result := match turn.outcome with
    | .ended => .ok 0
    | .more pending => .ok (pending + 1)
    | .failed reason => .error reason

/-- A flush is through when nothing waits, though the frame goes on. -/
def flushAnswer (room : ByteArray) (turn : Turn) : Zstd.Run :=
  { answer room turn with
    result := match turn.outcome with
      | .ended => .ok 0
      | .more pending => .ok pending
      | .failed reason => .error reason }

def backend : Zstd.Backend State where
  newEncoder _ := (.ok (), .newEncoder (.zstd standardWindow))
  setLevel _ s := (true, s)
  setWindow log s := if isWindow log then (true, .newEncoder (.zstd log.toNat)) else (false, s)
  run input room s :=
    let (turn, s) := s.encode .process input room.size
    (answer room turn, s)
  flush room s :=
    let (turn, s) := s.encode .flush .empty room.size
    (flushAnswer room turn, s)
  finish room s :=
    let (turn, s) := s.encode .finish .empty room.size
    (flushAnswer room turn, s)
  newDecoder _ := (.ok (), .newDecoder (Format.Zstd.decode Format.Zstd.defaultWindowLimit))
  setWindowMax log s :=
    if isWindow log then (true, .newDecoder (Format.Zstd.decode (1 <<< log.toNat))) else (false, s)
  decode input room s :=
    let (turn, s) := s.decode input room.size
    (answer room turn, s)

end Zstd

namespace Deflate

def span : Nat := 1 <<< 15

def op : Deflate.FlushMode → FlushOp
  | .none => .process
  | .sync => .flush
  | .finish => .finish

def answer (room : ByteArray) (turn : Turn) : Deflate.Call where
  used := turn.used
  produced := turn.bytes.size
  room := overlay room 0 turn.bytes
  result := match turn.outcome with
    | .ended => .ok .streamEnd
    | .more _ => .ok .ok
    | .failed reason => .error reason

def backend : Deflate.Backend State where
  newEncoder _ zlib _ := .newEncoder (if zlib then .zlib else .deflate)
  compress mode input room s :=
    let (turn, s) := s.encode (op mode) input room.size
    (answer room turn, s)
  newDecoder zlib _ :=
    .newDecoder (if zlib then Format.Zlib.decode else Format.Deflate.decode) span
  decompress input room s :=
    let (turn, s) := s.decode input room.size
    (answer room turn, s)

end Deflate

namespace Lzma

/-- The dictionary where none is set. -/
def standardDictionary : Nat := 1 <<< 23

def framing (container : Lzma.Container) (dictionary : Option UInt32) : Framing :=
  match container with
  | .xz => .xz ((dictionary.map UInt32.toNat).getD standardDictionary)
  | .alone => .lzmaAlone

def op : Lzma.Action → FlushOp
  | .run => .process
  | .syncFlush => .flush
  | .finish => .finish

/-- A flush that is through reports the end as well. -/
def result (action : Lzma.Action) (outcome : Outcome) : Except String Lzma.Status :=
  match outcome with
  | .ended => .ok .streamEnd
  | .more pending => .ok (if action = .syncFlush ∧ pending = 0 then .streamEnd else .ok)
  | .failed reason => .error reason

def backend : Lzma.Backend State where
  newEncoder container _ dictionary _ := (.ok (), .newEncoder (framing container dictionary))
  newDecoder container _ :=
    (.ok (), .newDecoder (match container with
      | .xz => Format.Xz.decode
      | .alone => Format.Lzma.Alone.decode))
  process action input room s :=
    let (turn, s) := match s with
      | .unpacking _ => s.decode input room.size
      | _ => s.encode (op action) input room.size
    ({ used := turn.used
       produced := turn.bytes.size
       room := overlay room 0 turn.bytes
       result := result action turn.outcome }, s)

end Lzma

def backend : StreamCodec.Backend State where
  brotli := Brotli.backend
  zstd := Zstd.backend
  deflate := Deflate.backend
  lzma := Lzma.backend

end StreamCodec.Native
