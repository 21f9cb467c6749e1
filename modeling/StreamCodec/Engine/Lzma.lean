import StreamCodec.Backend.Lzma

/-!
# LZMA engines

The backend's encoder is created by the first call, once preset and dictionary
are known; while that fails, every call fails and tries again. The header-only
container cannot flush in mid-stream, so a flush runs it like plain input.
Memory is not limited, so a decoder takes any window that an encoder may choose.
-/
namespace StreamCodec.Lzma

/-- The windows that both roles take. -/
def isWindow (log : UInt32) : Bool := decide (12 ≤ log) && decide (log ≤ 30)

structure EncoderHandle where
  container : Container
  preset : Nat := 6
  windowLog : Option UInt32 := none
  isBuilt : Bool := false
  hasMore : Bool := false
  isFinished : Bool := false
deriving DecidableEq, Repr

namespace EncoderHandle

/-- What the backend is asked to do. -/
def action (h : EncoderHandle) : FlushOp → Action
  | .finish => .finish
  | .process => .run
  | .flush => match h.container with
    | .alone => .run
    | .xz => .syncFlush

/-- The dictionary size of the chosen window. -/
def dictionary (h : EncoderHandle) : Option UInt32 :=
  h.windowLog.map fun log => (1 : UInt32) <<< log

end EncoderHandle

variable {ω : Type} (backend : Backend ω)

/-- One call on an encoder that the backend has created. -/
def encode (op : FlushOp) (input room : ByteArray) (handle : EncoderHandle) (world : ω) :
    Reply × EncoderHandle × ω :=
  let action := handle.action op
  let (answer, world) := backend.process action input room world
  let leftIn := leftAfter input.size answer.used
  let leftOut := leftAfter room.size answer.produced
  match answer.result with
  | .ok .streamEnd =>
    if action = .finish then
      ({ leftIn, leftOut, room := answer.room, code := .streamEnd },
        { handle with isFinished := true, hasMore := false }, world)
    else
      -- A sync flush that is complete also reports the end.
      ({ leftIn, leftOut, room := answer.room, code := .ok },
        { handle with hasMore := false }, world)
  | .ok _ =>
    let hasMore : Bool := action ≠ .run || leftOut = 0
    ({ leftIn, leftOut, room := answer.room,
       code := if hasMore then .needsMoreOutput else .ok }, { handle with hasMore }, world)
  | .error detail =>
    ({ leftIn, leftOut, room := answer.room, code := .error detail }, handle, world)

def encoder (container : Container) : EncoderEngine ω EncoderHandle where
  create world := (.ok { container }, world)
  setParameter p handle world :=
    if handle.isBuilt then (false, handle, world)
    else
      match p with
      | .quality value =>
        if 0 ≤ value ∧ value ≤ 9 then
          (true, { handle with preset := value.toInt.toNat }, world)
        else (false, handle, world)
      | .windowLog log =>
        if isWindow log then (true, { handle with windowLog := some log }, world)
        else (false, handle, world)
  compress op input room handle world :=
    if handle.isBuilt then encode backend op input room handle world
    else
      match backend.newEncoder handle.container handle.preset handle.dictionary world with
      | (.ok (), world) => encode backend op input room { handle with isBuilt := true } world
      | (.error detail, world) =>
        ({ leftIn := input.size, leftOut := room.size, room, code := .error detail },
          handle, world)
  hasMoreOutput handle := handle.hasMore
  isFinished handle := handle.isFinished

structure DecoderHandle where
  hasMore : Bool := false
  isFinished : Bool := false
deriving DecidableEq, Repr

def decoder (container : Container) : DecoderEngine ω DecoderHandle where
  create world :=
    match backend.newDecoder container world with
    | (.ok (), world) => (.ok {}, world)
    | (.error detail, world) => (.error (.engineCreation container.codec detail), world)
  setParameter p handle world :=
    match p with
    | .quality _ => (false, handle, world)
    | .windowLog log => (isWindow log, handle, world)
  decompress input room handle world :=
    let (answer, world) := backend.process .run input room world
    let leftIn := leftAfter input.size answer.used
    let leftOut := leftAfter room.size answer.produced
    let isFull : Bool := leftOut = 0
    let handle := { handle with hasMore := isFull }
    match answer.result with
    | .ok .streamEnd =>
      ({ leftIn, leftOut, room := answer.room, code := .streamEnd },
        { handle with isFinished := true, hasMore := false }, world)
    | .ok _ =>
      ({ leftIn, leftOut, room := answer.room,
         code := if isFull then .needsMoreOutput else .needsMoreInput }, handle, world)
    | .error detail =>
      ({ leftIn, leftOut, room := answer.room, code := .error detail }, handle, world)
  hasMoreOutput handle := handle.hasMore
  isFinished handle := handle.isFinished

end StreamCodec.Lzma
