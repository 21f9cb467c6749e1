import StreamCodec.Session.Status

/-!
# Encoder sessions

A session owns one encoder in the making, at work, or disposed of. The engine
is created by the first operation; if that fails or a parameter is refused the
session stays as it was, and the next operation starts over with a new engine.

`compress` calls the engine until the operation is complete, the destination
is full, or the engine fails or gets stuck. It always comes back: each round
either moves a byte or counts as stalled.
-/
namespace StreamCodec

structure EncoderSession (ω σ : Type) where
  options : CodecOptions
  version : EngineVersion
  engine : EncoderEngine ω σ
  /-- The state of the library under the engine. -/
  world : ω
  handle : Option σ := none
  isDisposed : Bool := false
  /-- Bytes were consumed since the last flush or finish that was completed. -/
  isDirty : Bool := false
  /-- What the engine said when it last failed. -/
  lastError : Option String := none
  /-- Plain bytes consumed. -/
  totalIn : Nat := 0
  /-- Compressed bytes produced. -/
  totalOut : Nat := 0

namespace EncoderSession

variable {ω σ δ : Type}

/-- A session for the codec of the options, over a library in state `world`. -/
def new (registry : Registry ω σ δ) (world : ω) (options : CodecOptions) :
    Except CodecError (EncoderSession ω σ) :=
  match options.validate with
  | .error e => .error e
  | .ok () =>
    if !options.codec.isStreaming then .error (.unsupported options.codec)
    else
      match registry.factory options.codec with
      | .error e => .error e
      | .ok factory => .ok { options, version := factory.version, engine := factory.encoder, world }

variable (s : EncoderSession ω σ)

def codec : Codec := s.options.codec

/-- Whether a finish was completed. -/
def isFinished : Bool := s.handle.any s.engine.isFinished

/-- Creates the engine and sets its parameters, unless it is open already. -/
def opened : Except CodecError σ × EncoderSession ω σ :=
  if s.isDisposed then (.error .disposed, s)
  else
    match s.handle with
    | some handle => (.ok handle, s)
    | none =>
      match s.engine.create s.world with
      | (.error e, world) => (.error e, { s with world })
      | (.ok handle, world) =>
        match s.engine.configure s.options.encoderParameters handle world with
        | (.error p, world) => (.error (p.rejected s.codec), { s with world })
        | (.ok handle, world) => (.ok handle, { s with world, handle := some handle })

def openNow : Except CodecError Unit × EncoderSession ω σ :=
  match s.opened with
  | (.ok _, s) => (.ok (), s)
  | (.error e, s) => (.error e, s)

/-- The session after a call with this reply on these windows. -/
def record (w : Windows) (reply : Reply) (handle : σ) (world : ω) : EncoderSession ω σ :=
  { s with
    world
    handle := some handle
    isDirty := s.isDirty || 0 < w.consumed reply
    totalIn := s.totalIn + w.consumed reply
    totalOut := s.totalOut + w.produced reply }

def fail (detail : String) : EncoderSession ω σ := { s with lastError := some detail }

def noProgress : String := s.codec.name ++ " encoder made no progress"

/-- The session after a completed operation: only plain processing leaves bytes behind. -/
def settled (op : FlushOp) : EncoderSession ω σ :=
  if op = .process then s else { s with isDirty := false }

/-- Whether nothing is left to do for the operation. -/
def isComplete (op : FlushOp) (handle : σ) (w : Windows) : Bool :=
  match op with
  | .finish => s.engine.isFinished handle
  | .process | .flush => w.src.isEmpty && !s.engine.hasMoreOutput handle

/-- Calls the engine over and over. `stalled` counts the calls in a row that moved nothing. -/
def drive (op : FlushOp) (s : EncoderSession ω σ) (handle : σ) (w : Windows) (stalled : Nat) :
    Status × EncoderSession ω σ × Windows :=
  if w.dst.availableWrite = 0 then (.destinationTooSmall, s, w)
  else
    match s.engine.compress op w.src.unread w.dst.unwritten handle s.world with
    | (reply, handle', world) =>
      let s' := s.record w reply handle' world
      let w' := w.settle reply
      match reply.code with
      | .error detail => (.invalidData, s'.fail detail, w')
      | _ =>
        if s.isComplete op handle' w' then (.done, s'.settled op, w')
        else if w'.dst.availableWrite = 0 then (.destinationTooSmall, s', w')
        else if h : w.consumed reply = 0 ∧ w.produced reply = 0 then
          let pending := s.engine.hasMoreOutput handle'
          if !pending && op = .process then (.done, s', w')
          else if hs : !pending || maxStalledCalls ≤ stalled + 1 then
            (.invalidData, s'.fail s'.noProgress, w')
          else drive op s' handle' w' (stalled + 1)
        else drive op s' handle' w' 0
termination_by (w.budget, maxStalledCalls - stalled)
decreasing_by
  · have hb : w'.budget = w.budget := by
      simp only [w', Windows.budget_settle, h.1, h.2]; omega
    rw [hb]
    apply Prod.Lex.right
    simp only [Bool.or_eq_true, decide_eq_true_eq, not_or] at hs
    omega
  · exact Prod.Lex.left _ _ (w.budget_settle_lt reply h)

/-- Whether an operation can be skipped: nothing to consume, nothing pending, and for a flush
nothing consumed since the last one. Some engines answer an idle flush with an empty block. -/
def isIdle (op : FlushOp) (handle : σ) (src : CursorBuffer) : Bool :=
  src.isEmpty && op ≠ .finish && !s.engine.hasMoreOutput handle && (op = .process || !s.isDirty)

/-- Runs one operation. When the destination is full it is to be drained, and the same
operation to be run again. -/
def compress (op : FlushOp) (w : Windows) :
    Except CodecError Status × EncoderSession ω σ × Windows :=
  match s.opened with
  | (.error e, s) => (.error e, s, w)
  | (.ok handle, s) =>
    if s.engine.isFinished handle then
      if w.src.isEmpty && op = .finish then (.ok .done, s, w) else (.error .completed, s, w)
    else if s.isIdle op handle w.src then (.ok .done, s, w)
    else
      match s.drive op handle w 0 with
      | (status, s, w) => (.ok status, s, w)

/-- Lets the engine go; every later operation fails. -/
def dispose : EncoderSession ω σ := { s with handle := none, isDisposed := true }

end EncoderSession

end StreamCodec
