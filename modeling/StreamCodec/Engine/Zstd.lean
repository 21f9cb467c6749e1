import StreamCodec.Backend.Zstd
import StreamCodec.Loop

/-!
# Zstandard engines

One call of the encoder may run its backend many times: as long as there is
both input and room. Only when all input was taken in is the operation itself
carried out. A failing backend keeps the bytes that it moved, and leaves what
the engine remembers as it was.
-/
namespace StreamCodec.Zstd

/-- What an engine remembers of its last call. -/
structure Handle where
  hasMore : Bool := false
  isFinished : Bool := false
deriving DecidableEq, Repr

/-- How far a call has come: the bytes used and produced so far, and the room. -/
structure Progress where
  used : Nat
  produced : Nat
  room : ByteArray

namespace Progress

/-- The progress after a run on what was left of the windows. Positions stay within them. -/
def advance (p : Progress) (offered : Nat) (run : Run) : Progress where
  used := p.used + min run.used (offered - p.used)
  produced := p.produced + min run.produced (p.room.size - p.produced)
  room := overlay p.room p.produced run.room

def reply (p : Progress) (offered : Nat) (code : CallCode) : Reply where
  leftIn := offered - p.used
  leftOut := p.room.size - p.produced
  room := p.room
  code

def rest (p : Progress) : ByteArray := p.room.extract p.produced p.room.size

end Progress

variable {ω : Type} (backend : Backend ω)

/-- One more run on what is left of the windows, as long as there is both input and room. -/
def runOnce (input : ByteArray) (x : Progress × ω) :
    (Progress × ω) ⊕ (Except String Unit × Progress × ω) :=
  let (p, world) := x
  if p.used < input.size ∧ p.produced < p.room.size then
    let (run, world) := backend.run (input.extract p.used input.size) p.rest world
    let p := p.advance input.size run
    match run.result with
    | .ok _ => .inl (p, world)
    | .error detail => .inr (.error detail, p, world)
  else .inr (.ok (), p, world)

/-- Runs the backend while both input and room remain. -/
def runAll (input : ByteArray) (p : Progress) (world : ω) : Except String Unit × Progress × ω :=
  (loop (runOnce backend input) (p, world)).getD (.error "encoder never came to rest", p, world)

def encoder : EncoderEngine ω Handle where
  create world :=
    match backend.newEncoder world with
    | (.ok (), world) => (.ok {}, world)
    | (.error detail, world) => (.error (.engineCreation .zstd detail), world)
  setParameter p handle world :=
    match p with
    | .quality value =>
      let (accepted, world) := backend.setLevel value world
      (accepted, handle, world)
    | .windowLog log =>
      let (accepted, world) := backend.setWindow log world
      (accepted, handle, world)
  compress op input room handle world :=
    match runAll backend input ⟨0, 0, room⟩ world with
    | (.error detail, p, world) => (p.reply input.size (.error detail), handle, world)
    | (.ok (), p, world) =>
      if p.used < input.size then
        (p.reply input.size .needsMoreOutput, { handle with hasMore := true }, world)
      else
        match op with
        | .process =>
          (p.reply input.size .ok, { handle with hasMore := p.produced = room.size }, world)
        | .flush =>
          let (run, world) := backend.flush p.rest world
          let p := p.advance input.size run
          match run.result with
          | .ok remaining =>
            (p.reply input.size .ok, { handle with hasMore := 0 < remaining }, world)
          | .error detail => (p.reply input.size (.error detail), handle, world)
        | .finish =>
          let (run, world) := backend.finish p.rest world
          let p := p.advance input.size run
          match run.result with
          | .ok 0 =>
            (p.reply input.size .streamEnd, { hasMore := false, isFinished := true }, world)
          | .ok _ => (p.reply input.size .needsMoreOutput, { handle with hasMore := true }, world)
          | .error detail => (p.reply input.size (.error detail), handle, world)
  hasMoreOutput handle := handle.hasMore
  isFinished handle := handle.isFinished

def decoder : DecoderEngine ω Handle where
  create world :=
    match backend.newDecoder world with
    | (.ok (), world) => (.ok {}, world)
    | (.error detail, world) => (.error (.engineCreation .zstd detail), world)
  setParameter p handle world :=
    match p with
    | .quality _ => (false, handle, world)
    | .windowLog log =>
      let (accepted, world) := backend.setWindowMax log world
      (accepted, handle, world)
  decompress input room handle world :=
    let (run, world) := backend.decode input room world
    let p := Progress.advance ⟨0, 0, room⟩ input.size run
    match run.result with
    | .ok 0 => (p.reply input.size .streamEnd, { hasMore := false, isFinished := true }, world)
    | .ok _ =>
      let isFull : Bool := p.produced = room.size
      (p.reply input.size (if isFull then .needsMoreOutput else .needsMoreInput),
        { handle with hasMore := isFull }, world)
    | .error detail => (p.reply input.size (.error detail), handle, world)
  hasMoreOutput handle := handle.hasMore
  isFinished handle := handle.isFinished

end StreamCodec.Zstd
