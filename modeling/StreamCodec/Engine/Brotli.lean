import StreamCodec.Backend.Brotli

/-!
# Brotli engines

Both engines hand every call on and remember what the backend said last. A
quality below zero never reaches the backend. The decoder takes any standard
window and has nothing to set.
-/
namespace StreamCodec.Brotli

/-- What an engine remembers of its last call. -/
structure Handle where
  hasMore : Bool := false
  isFinished : Bool := false
deriving DecidableEq, Repr

variable {ω : Type} (backend : Backend ω)

def encoder : EncoderEngine ω Handle where
  create world := (.ok {}, backend.newEncoder world)
  setParameter p handle world :=
    match p with
    | .quality value =>
      if value < 0 then (false, handle, world)
      else
        let (accepted, world) := backend.setQuality value.toUInt32 world
        (accepted, handle, world)
    | .windowLog log =>
      let (accepted, world) := backend.setWindow log world
      (accepted, handle, world)
  compress op input room _ world :=
    let (answer, world) := backend.compress op input room world
    let code : CallCode :=
      if !answer.accepted then .error "encoder rejected the operation"
      else if answer.isDone then .streamEnd
      else if answer.hasMore then .needsMoreOutput
      else .ok
    ({ leftIn := answer.leftIn, leftOut := answer.leftOut, room := answer.room, code },
      { hasMore := answer.hasMore, isFinished := answer.isDone }, world)
  hasMoreOutput handle := handle.hasMore
  isFinished handle := handle.isFinished

/-- The windows that the format knows. -/
def isStandardWindow (log : UInt32) : Bool := decide (10 ≤ log) && decide (log ≤ 24)

def decoder : DecoderEngine ω Handle where
  create world := (.ok {}, backend.newDecoder world)
  setParameter p handle world :=
    match p with
    | .quality _ => (false, handle, world)
    | .windowLog log => (isStandardWindow log, handle, world)
  decompress input room handle world :=
    let (answer, world) := backend.decompress input room world
    let handle : Handle :=
      { hasMore := answer.verdict = .needsMoreOutput
        isFinished := handle.isFinished || answer.verdict = .success }
    let code : CallCode := match answer.verdict with
      | .success => .streamEnd
      | .needsMoreInput => .needsMoreInput
      | .needsMoreOutput => .needsMoreOutput
      | .failure => .error "corrupt brotli stream"
    ({ leftIn := leftAfter input.size answer.used, leftOut := answer.leftOut,
       room := answer.room, code }, handle, world)
  hasMoreOutput handle := handle.hasMore
  isFinished handle := handle.isFinished

end StreamCodec.Brotli
