import StreamCodec.CursorBuffer
import StreamCodec.Options

/-!
# Engines

An engine turns bytes into bytes, one call at a time. A call offers it the
unread part of a source and the free part of a destination; the engine answers
how much of each it left over, and may have changed the free part. Nothing
forces an engine to answer sensibly: whoever drives it clamps the counts.

Engines share a state `ω` of the library that backs them, and each open engine
has a handle `σ` of its own.
-/
namespace StreamCodec

/-- What an encoder call does with its input. -/
inductive FlushOp where
  /-- Take input in; output may be held back. -/
  | process
  /-- Emit all that was taken in, without ending the stream. -/
  | flush
  | finish
deriving DecidableEq, Repr

namespace FlushOp

def name : FlushOp → String
  | .process => "process"
  | .flush => "flush"
  | .finish => "finish"

end FlushOp

/-- How an engine describes one call. -/
inductive CallCode where
  | ok
  | needsMoreInput
  | needsMoreOutput
  | streamEnd
  | error (detail : String)
deriving DecidableEq, Repr

namespace CallCode

def name : CallCode → String
  | .ok => "Ok"
  | .needsMoreInput => "NeedsMoreInput"
  | .needsMoreOutput => "NeedsMoreOutput"
  | .streamEnd => "StreamEnd"
  | .error _ => "Error"

end CallCode

/-- An engine's answer to a call. -/
structure Reply where
  /-- How many offered bytes it did not take. -/
  leftIn : Nat
  /-- How much of the room it did not fill. -/
  leftOut : Nat
  /-- The room as it stands after the call. -/
  room : ByteArray
  code : CallCode

/-- What remains of `offered` bytes when an engine claims to have used `used` of them. A
claim of more than was offered leaves nothing. -/
def leftAfter (offered used : Nat) : Nat := offered - used

/-- An encoder: plain bytes in, compressed bytes out. -/
structure EncoderEngine (ω σ : Type) where
  create : ω → Except CodecError σ × ω
  /-- Whether the parameter is accepted. -/
  setParameter : Parameter → σ → ω → Bool × σ × ω
  compress : FlushOp → (input room : ByteArray) → σ → ω → Reply × σ × ω
  /-- Output is held inside for want of room. -/
  hasMoreOutput : σ → Bool
  isFinished : σ → Bool

/-- A decoder: compressed bytes in, plain bytes out. -/
structure DecoderEngine (ω σ : Type) where
  create : ω → Except CodecError σ × ω
  setParameter : Parameter → σ → ω → Bool × σ × ω
  decompress : (input room : ByteArray) → σ → ω → Reply × σ × ω
  hasMoreOutput : σ → Bool
  /-- The end of the compressed stream was decoded. -/
  isFinished : σ → Bool

/-- Sets parameters in turn up to the first that is refused. -/
def EncoderEngine.configure {ω σ : Type} (engine : EncoderEngine ω σ) :
    List Parameter → σ → ω → Except Parameter σ × ω
  | [], handle, world => (.ok handle, world)
  | p :: rest, handle, world =>
    match engine.setParameter p handle world with
    | (true, handle, world) => engine.configure rest handle world
    | (false, _, world) => (.error p, world)

@[inherit_doc EncoderEngine.configure]
def DecoderEngine.configure {ω σ : Type} (engine : DecoderEngine ω σ) :
    List Parameter → σ → ω → Except Parameter σ × ω
  | [], handle, world => (.ok handle, world)
  | p :: rest, handle, world =>
    match engine.setParameter p handle world with
    | (true, handle, world) => engine.configure rest handle world
    | (false, _, world) => (.error p, world)

/-- A version with the engines of both roles. -/
structure Factory (ω ε δ : Type) where
  version : EngineVersion
  encoder : EncoderEngine ω ε
  decoder : DecoderEngine ω δ

/-- The engines at hand, in the order in which they were registered, and the runtime that suspending
callers write through. -/
structure Registry (ω ε δ : Type) where
  factories : List (Factory ω ε δ)
  /-- Whether the runtime tries an interrupted write of a chunk again. -/
  retriesWrites : Bool := false

namespace Registry

variable {ω ε δ : Type} (registry : Registry ω ε δ)

/-- The engines of a codec; a codec without a stream engine is unsupported. -/
def factory (codec : Codec) : Except CodecError (Factory ω ε δ) :=
  match registry.factories.find? fun f => f.version.codec = codec with
  | some f => .ok f
  | none => .error (.unsupported codec)

def isAvailable (codec : Codec) : Bool := (registry.factory codec).isOk

def versions : List EngineVersion := registry.factories.map (·.version)

end Registry

end StreamCodec
