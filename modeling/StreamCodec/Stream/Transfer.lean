import StreamCodec.Stream.Compressor
import StreamCodec.Stream.Decompressor

/-!
# Transfers

Whole sources are compressed or decompressed into whole sinks, one chunk at a
time. Both ends are used up by a transfer: whichever way it comes out, source
and sink are dropped. A file transfer works between two named files and answers
their sizes.
-/
namespace StreamCodec

/-- Why a transfer failed. -/
inductive TransferError where
  | failed (error : CodecError)
  /-- The source claimed more bytes than the chunk has: there is nothing to cut them from. -/
  | outOfBounds (reported capacity : Nat)
deriving DecidableEq, Repr

/-- A transfer that is over: its result, the two ends as they were left, and the library. -/
structure Transfer (ω : Type) where
  result : Except TransferError Nat
  source : Source
  sink : Sink
  world : ω

namespace Transfer

variable {ω ε δ : Type}

/-- Reads chunk after chunk into `chunk` and writes each to the compressor, up to the first
empty read. Interruptions are tried again. -/
def feed (source : Source) (chunk : ByteArray) (c : Compressor ω ε) :
    Except TransferError Unit × Source × Compressor ω ε :=
  match _h : source.readPatiently chunk.size with
  | (.error e, left) => (.error (.failed (.io e)), left, c)
  | (.ok delivery, left) =>
    if _hz : delivery.reported = 0 then (.ok (), left, c)
    else if _ho : chunk.size < delivery.reported then
      (.error (.outOfBounds delivery.reported chunk.size), left, c)
    else
      let filled := overlay chunk 0 delivery.bytes
      match c.writeAll (filled.extract 0 delivery.reported) with
      | (.error e, c) => (.error (.failed e), left, c)
      | (.ok (), c) => feed left filled c
termination_by source.weight
decreasing_by
  have hw := Source.weight_readPatiently source chunk.size
  rw [_h] at hw
  exact hw.2 delivery rfl (by omega) (by omega)

/-- Compresses a source into a sink; answers how many bytes the sink was given. -/
def compress (registry : Registry ω ε δ) (world : ω) (source : Source) (sink : Sink)
    (options : CodecOptions) (bufferSize : UInt64) : Transfer ω :=
  let streamOptions : StreamOptions := { bufferSize }
  match Compressor.new registry world sink options streamOptions with
  | (.error e, world) => ⟨.error (.failed e), source.drop, sink.drop, world⟩
  | (.ok c, _) =>
    match feed source ⟨Array.replicate streamOptions.capacity 0⟩ c with
    | (.error (.outOfBounds reported capacity), source, c) =>
      let c := c.releaseSink
      ⟨.error (.outOfBounds reported capacity), source.drop, c.sink, c.session.world⟩
    | (.error (.failed e), source, c) =>
      let c := c.drop
      ⟨.error (.failed e), source.drop, c.sink, c.session.world⟩
    | (.ok (), source, c) =>
      match c.complete with
      | (.error e, c) =>
        let c := c.drop
        ⟨.error (.failed e), source.drop, c.sink, c.session.world⟩
      | (.ok (), c) =>
        let total := c.totalOut
        match c.finish with
        | (.error e, c) => ⟨.error (.failed e), source.drop, c.sink, c.session.world⟩
        | (.ok sink, c) => ⟨.ok total, source.drop, sink.drop, c.session.world⟩

/-- A transfer under way: the decompressor, the chunk it reads into, the sink and the sum of the
chunks so far. -/
structure Pouring (ω δ : Type) where
  decompressor : Decompressor ω δ
  chunk : ByteArray
  sink : Sink
  total : Nat

/-- Reads one chunk and writes it to the sink; an empty read is the last. -/
def Pouring.round (p : Pouring ω δ) :
    Pouring ω δ ⊕ (Except CodecError Nat × Decompressor ω δ × Sink) :=
  match p.decompressor.read p.chunk with
  | (.error e, _, d) => .inr (.error e, d, p.sink)
  | (.ok n, chunk, d) =>
    if n = 0 then
      match p.sink.flush with
      | (.error e, sink) => .inr (.error (.io e), d, sink)
      | (.ok (), sink) => .inr (.ok p.total, d, sink)
    else
      match p.sink.writeAll (chunk.extract 0 n) with
      | (.error e, sink) => .inr (.error (.io e), d, sink)
      | (.ok (), sink) => .inl ⟨d, chunk, sink, p.total + n⟩

/-- Reads chunk after chunk and writes each to the sink, up to an empty read. Answers the sum
of the chunks. -/
def pour (d : Decompressor ω δ) (chunk : ByteArray) (sink : Sink) :
    Except CodecError Nat × Decompressor ω δ × Sink :=
  (loop Pouring.round ⟨d, chunk, sink, 0⟩).getD (.error d.restless, d, sink)

/-- Decompresses a source into a sink; answers how many bytes the sink was given. -/
def decompress (registry : Registry ω ε δ) (world : ω) (source : Source) (sink : Sink)
    (codec : Codec) (bufferSize : UInt64) : Transfer ω :=
  let streamOptions : StreamOptions := { bufferSize }
  match Decompressor.new registry world source { codec } streamOptions with
  | (.error e, world) => ⟨.error (.failed e), source.drop, sink.drop, world⟩
  | (.ok d, _) =>
    match pour d ⟨Array.replicate streamOptions.capacity 0⟩ sink with
    | (result, d, sink) =>
      ⟨result.mapError .failed, d.source.drop, sink.drop, d.session.world⟩

end Transfer

abbrev Files := List (String × ByteArray)

namespace Files

/-- Creates a file, or replaces it. -/
def put (files : Files) (name : String) (data : ByteArray) : Files :=
  (name, data) :: files.filter fun f => f.1 ≠ name

variable {ω ε δ : Type}

/-- Runs a transfer from one file to another. The output is created before the transfer starts;
the answer is the size of the input and of the output. -/
def transfer (files : Files) (input output : String) (world : ω)
    (run : ω → Source → Sink → Transfer ω) : Except TransferError (Nat × Nat) × Files × ω :=
  match files.lookup input with
  | none => (.error (.failed (.io .noSuchFile)), files, world)
  | some data =>
    let t := run world { answers := [.data data] } {}
    let files := files.put output t.sink.data
    match t.result with
    | .error e => (.error e, files, t.world)
    | .ok _ => (.ok (data.size, t.sink.data.size), files, t.world)

def compress (registry : Registry ω ε δ) (world : ω) (files : Files) (input output : String)
    (options : CodecOptions) : Except TransferError (Nat × Nat) × Files × ω :=
  files.transfer input output world fun world source sink =>
    Transfer.compress registry world source sink options defaultBufferSize

def decompress (registry : Registry ω ε δ) (world : ω) (files : Files) (input output : String)
    (codec : Codec) : Except TransferError (Nat × Nat) × Files × ω :=
  files.transfer input output world fun world source sink =>
    Transfer.decompress registry world source sink codec defaultBufferSize

end Files

end StreamCodec
