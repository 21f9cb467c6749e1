import StreamCodec.Session.Status

/-!
# Decoder sessions

The counterpart of encoder sessions. `decompress` calls the engine until the
end of the stream is decoded, the destination is full, or more compressed bytes
are needed; it always comes back. A session that has never been given a byte
only asks for more.
-/
namespace StreamCodec

structure DecoderSession (ω σ : Type) where
  options : CodecOptions
  version : EngineVersion
  engine : DecoderEngine ω σ
  /-- The state of the library under the engine. -/
  world : ω
  handle : Option σ := none
  isDisposed : Bool := false
  /-- A compressed byte was consumed at some time. -/
  hasSeenInput : Bool := false
  /-- What the engine said when it last failed. -/
  lastError : Option String := none
  /-- Compressed bytes consumed. -/
  totalIn : Nat := 0
  /-- Plain bytes produced. -/
  totalOut : Nat := 0

namespace DecoderSession

variable {ω σ ε : Type}

/-- A session for the codec of the options, over a library in state `world`. A window log
caps the window that the decoder takes. -/
def new (registry : Registry ω ε σ) (world : ω) (options : CodecOptions) :
    Except CodecError (DecoderSession ω σ) :=
  match options.validate with
  | .error e => .error e
  | .ok () =>
    if !options.codec.isStreaming then .error (.unsupported options.codec)
    else
      match registry.factory options.codec with
      | .error e => .error e
      | .ok factory => .ok { options, version := factory.version, engine := factory.decoder, world }

variable (s : DecoderSession ω σ)

def codec : Codec := s.options.codec

def isFinished : Bool := s.handle.any s.engine.isFinished

/-- Creates the engine and sets its parameters, unless it is open already. -/
def opened : Except CodecError σ × DecoderSession ω σ :=
  if s.isDisposed then (.error .disposed, s)
  else
    match s.handle with
    | some handle => (.ok handle, s)
    | none =>
      match s.engine.create s.world with
      | (.error e, world) => (.error e, { s with world })
      | (.ok handle, world) =>
        match s.engine.configure s.options.decoderParameters handle world with
        | (.error p, world) => (.error (p.rejected s.codec), { s with world })
        | (.ok handle, world) => (.ok handle, { s with world, handle := some handle })

def openNow : Except CodecError Unit × DecoderSession ω σ :=
  match s.opened with
  | (.ok _, s) => (.ok (), s)
  | (.error e, s) => (.error e, s)

/-- The session after a call with this reply on these windows. -/
def record (w : Windows) (reply : Reply) (handle : σ) (world : ω) : DecoderSession ω σ :=
  { s with
    world
    handle := some handle
    hasSeenInput := s.hasSeenInput || 0 < w.consumed reply
    totalIn := s.totalIn + w.consumed reply
    totalOut := s.totalOut + w.produced reply }

def fail (detail : String) : DecoderSession ω σ := { s with lastError := some detail }

def noProgress : String := s.codec.name ++ " decoder made no progress"

/-- Calls the engine over and over. `stalled` counts the calls in a row that moved nothing. -/
def drive (s : DecoderSession ω σ) (handle : σ) (w : Windows) (stalled : Nat) :
    Status × DecoderSession ω σ × Windows :=
  if w.dst.availableWrite = 0 then (.destinationTooSmall, s, w)
  else
    match s.engine.decompress w.src.unread w.dst.unwritten handle s.world with
    | (reply, handle', world) =>
      let s' := s.record w reply handle' world
      let w' := w.settle reply
      match reply.code with
      | .error detail => (.invalidData, s'.fail detail, w')
      | .streamEnd => (.done, s', w')
      | _ =>
        let pending := s.engine.hasMoreOutput handle'
        if w'.dst.availableWrite = 0 then (.destinationTooSmall, s', w')
        else if w'.src.isEmpty && !pending then (.needMoreData, s', w')
        else if h : w.consumed reply = 0 ∧ w.produced reply = 0 then
          if !pending then (.needMoreData, s', w')
          else if hs : maxStalledCalls ≤ stalled + 1 then
            (.invalidData, s'.fail s'.noProgress, w')
          else drive s' handle' w' (stalled + 1)
        else drive s' handle' w' 0
termination_by (w.budget, maxStalledCalls - stalled)
decreasing_by
  · have hb : w'.budget = w.budget := by
      simp only [w', Windows.budget_settle, h.1, h.2]; omega
    rw [hb]
    apply Prod.Lex.right
    omega
  · exact Prod.Lex.left _ _ (w.budget_settle_lt reply h)

/-- Decodes what the source buffer holds. Once the end of the stream was decoded there is
nothing left to do. -/
def decompress (w : Windows) : Except CodecError Status × DecoderSession ω σ × Windows :=
  match s.opened with
  | (.error e, s) => (.error e, s, w)
  | (.ok handle, s) =>
    if s.engine.isFinished handle then (.ok .done, s, w)
    else if w.src.isEmpty && !s.hasSeenInput then (.ok .needMoreData, s, w)
    else
      match s.drive handle w 0 with
      | (status, s, w) => (.ok status, s, w)

/-- Lets the engine go; every later operation fails. -/
def dispose : DecoderSession ω σ := { s with handle := none, isDisposed := true }

end DecoderSession

end StreamCodec
