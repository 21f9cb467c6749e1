import StreamCodec.Backend.Deflate

/-!
# Deflate engines

The level is only known once parameters were set, so the backend's encoder is
created by the first call, after which no parameter is taken any more. A sync
flush that filled the room may have bytes left inside; those are drained
without asking for another sync marker.
-/
namespace StreamCodec.Deflate

/-- The only window there is. -/
def windowLog : UInt32 := 15

structure EncoderHandle where
  zlib : Bool
  level : Nat := 6
  isBuilt : Bool := false
  hasMore : Bool := false
  /-- The last call was a flush that took all input and filled the room. -/
  isDraining : Bool := false
  isFinished : Bool := false
deriving DecidableEq, Repr

namespace EncoderHandle

/-- What the backend is asked to emit. -/
def mode (h : EncoderHandle) (op : FlushOp) (offered : Nat) : FlushMode :=
  match op with
  | .process => .none
  | .flush => if h.isDraining && offered = 0 then .none else .sync
  | .finish => .finish

end EncoderHandle

variable {ω : Type} (backend : Backend ω)

def encoder (zlib : Bool) : EncoderEngine ω EncoderHandle where
  create world := (.ok { zlib }, world)
  setParameter p handle world :=
    if handle.isBuilt then (false, handle, world)
    else
      match p with
      | .quality value =>
        if 0 ≤ value ∧ value ≤ 9 then
          (true, { handle with level := value.toInt.toNat }, world)
        else (false, handle, world)
      | .windowLog log => (log = windowLog, handle, world)
  compress op input room handle world :=
    let world :=
      if handle.isBuilt then world else backend.newEncoder handle.level handle.zlib world
    let (answer, world) := backend.compress (handle.mode op input.size) input room world
    let leftIn := leftAfter input.size answer.used
    let leftOut := leftAfter room.size answer.produced
    let isFull : Bool := leftOut = 0
    let handle := { handle with
      isBuilt := true
      hasMore := isFull
      isDraining := op = .flush && leftIn = 0 && isFull }
    match answer.result with
    | .ok .streamEnd =>
      ({ leftIn, leftOut, room := answer.room, code := .streamEnd },
        { handle with isFinished := true, hasMore := false }, world)
    | .ok _ =>
      ({ leftIn, leftOut, room := answer.room,
         code := if isFull then .needsMoreOutput else .ok }, handle, world)
    | .error detail =>
      ({ leftIn, leftOut, room := answer.room, code := .error detail }, handle, world)
  hasMoreOutput handle := handle.hasMore
  isFinished handle := handle.isFinished

structure DecoderHandle where
  zlib : Bool
  hasMore : Bool := false
  isFinished : Bool := false
deriving DecidableEq, Repr

namespace DecoderHandle

def codec (h : DecoderHandle) : Codec := if h.zlib then .zlib else .deflate

end DecoderHandle

def decoder (zlib : Bool) : DecoderEngine ω DecoderHandle where
  create world := (.ok { zlib }, backend.newDecoder zlib world)
  setParameter p handle world :=
    match p with
    | .quality _ => (false, handle, world)
    | .windowLog log => (log = windowLog, handle, world)
  decompress input room handle world :=
    let (answer, world) := backend.decompress input room world
    let leftIn := leftAfter input.size answer.used
    let leftOut := leftAfter room.size answer.produced
    let isFull : Bool := leftOut = 0
    let handle := { handle with hasMore := isFull }
    match answer.result with
    | .ok .streamEnd =>
      ({ leftIn, leftOut, room := answer.room, code := .streamEnd },
        { handle with isFinished := true, hasMore := false }, world)
    | .ok _ =>
      ({ leftIn, leftOut, room := answer.room,
         code := if isFull then .needsMoreOutput else .needsMoreInput }, handle, world)
    | .error detail =>
      ({ leftIn, leftOut, room := answer.room,
         code := .error (handle.codec.name ++ " stream: " ++ detail) }, handle, world)
  hasMoreOutput handle := handle.hasMore
  isFinished handle := handle.isFinished

end StreamCodec.Deflate
