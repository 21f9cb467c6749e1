import StreamCodec.Stream.Compressor

/-!
# Suspending compressors

A suspending compressor runs the same drives as a blocking one; engine calls
never suspend, and the only places where an operation may wait are writes to
the sink and its flush. There it races the caller's token. An operation that is
cancelled or dropped while it waits may have left part of a chunk in the sink,
so it leaves its guard set, and the compressor refuses every later operation.
-/
namespace StreamCodec

inductive Outcome (α : Type) where
  | returned (result : Except CodecError α)
  /-- It was suspended for good, and dropped. -/
  | abandoned

namespace Outcome

def ofWait {α : Type} : Wait (Except IoError α) → Outcome α
  | .ready (.ok a) => .returned (.ok a)
  | .ready (.error e) => .returned (.error (.io e))
  | .cancelled => .returned (.error .cancelled)
  | .abandoned => .abandoned

/-- Whether the operation's guard stays set. -/
def poisons {α : Type} : Outcome α → Bool
  | .returned (.error .cancelled) => true
  | .returned _ => false
  | .abandoned => true

end Outcome

structure AsyncCompressor (ω σ : Type) where
  base : Compressor ω σ
  /-- An operation is under way, or was cancelled or dropped while it waited. -/
  inFlight : Bool := false

namespace AsyncCompressor

variable {ω σ δ : Type}

/-- A compressor over a sink under the registry's runtime, its engine open. On failure the library's
state is returned too. -/
def new (registry : Registry ω σ δ) (world : ω) (sink : Sink) (codecOptions : CodecOptions)
    (options : StreamOptions) : Except CodecError (AsyncCompressor ω σ) × ω :=
  match Compressor.new registry world (sink.under registry.retriesWrites) codecOptions options with
  | (.ok base, world) => (.ok { base }, world)
  | (.error e, world) => (.error e, world)

def drain (token : Token) (c : Compressor ω σ) (cancelled : Cancelled) :
    Outcome Unit × Compressor ω σ × Cancelled :=
  if c.output.isEmpty then (.returned (.ok ()), c, cancelled)
  else if !c.holdsSink then (.returned (.error .disposed), c, cancelled)
  else
    match c.sink.writeAllOr token c.output.unread cancelled with
    | (.ready (.ok ()), sink, cancelled) =>
      (.returned (.ok ()), { c with sink, output := c.output.clear }, cancelled)
    | (wait, sink, cancelled) => (.ofWait wait, { c with sink }, cancelled)

def pass (token : Token) (op : FlushOp) (c : Compressor ω σ) (src : CursorBuffer)
    (cancelled : Cancelled) : (Compressor ω σ × CursorBuffer × Cancelled) ⊕
      (Outcome Unit × Compressor ω σ × CursorBuffer × Cancelled) :=
  match c.session.compress op ⟨src, c.output⟩ with
  | (.error e, session, w) =>
    .inr (.returned (.error e), { c with session, output := w.dst }, w.src, cancelled)
  | (.ok status, session, w) =>
    match drain token { c with session, output := w.dst } cancelled with
    | (.returned (.ok ()), c, cancelled) =>
      match status with
      | .done | .needMoreData => .inr (.returned (.ok ()), c, w.src, cancelled)
      | .destinationTooSmall => .inl (c, w.src, cancelled)
      | .invalidData => .inr (.returned (.error c.failure), c, w.src, cancelled)
    | (outcome, c, cancelled) => .inr (outcome, c, w.src, cancelled)

def drive (token : Token) (op : FlushOp) (c : Compressor ω σ) (src : CursorBuffer)
    (cancelled : Cancelled) : Outcome Unit × Compressor ω σ × CursorBuffer × Cancelled :=
  (loop (fun (c, src, cancelled) => pass token op c src cancelled) (c, src, cancelled)).getD
    (.returned (.error c.restless), c, src, cancelled)

def flushSink (token : Token) (c : Compressor ω σ) (cancelled : Cancelled) :
    Outcome Unit × Compressor ω σ × Cancelled :=
  if !c.holdsSink then (.returned (.error .disposed), c, cancelled)
  else
    match c.sink.signalOr .flush (some token) cancelled with
    | (wait, sink, cancelled) => (.ofWait wait, { c with sink }, cancelled)

def flushInner (token : Token) (c : Compressor ω σ) (cancelled : Cancelled) :
    Outcome Unit × Compressor ω σ × Cancelled :=
  if c.isCompleted then flushSink token c cancelled
  else
    match drive token .flush c (.filled ByteArray.empty) cancelled with
    | (.returned (.ok ()), c, _, cancelled) => flushSink token c cancelled
    | (outcome, c, _, cancelled) => (outcome, c, cancelled)

def completeInner (token : Token) (c : Compressor ω σ) (cancelled : Cancelled) :
    Outcome Unit × Compressor ω σ × Cancelled :=
  match drive token .finish c (.filled ByteArray.empty) cancelled with
  | (.returned (.ok ()), c, _, cancelled) =>
    flushSink token { c with isCompleted := true } cancelled
  | (outcome, c, _, cancelled) => (outcome, c, cancelled)

variable (c : AsyncCompressor ω σ)

/-- Why an operation may not begin; none if it may. -/
def refusal (token : Token) (cancelled : Cancelled) : Option CodecError :=
  if c.inFlight then some .operationInProgress
  else if c.base.session.isDisposed then some .disposed
  else if token ∈ cancelled then some .cancelled
  else none

def write (token : Token) (data : ByteArray) (cancelled : Cancelled) :
    Outcome Nat × AsyncCompressor ω σ × Cancelled :=
  let cancelled := cancelled.look
  match c.refusal token cancelled with
  | some e => (.returned (.error e), c, cancelled)
  | none =>
    if c.base.isCompleted then (.returned (.error .completed), c, cancelled)
    else
      match drive token .process c.base (.filled data) cancelled with
      | (outcome, base, src, cancelled) =>
        let accepted : Outcome Nat := match outcome with
          | .returned (.ok ()) => .returned (.ok (data.size - src.availableRead))
          | .returned (.error e) => .returned (.error e)
          | .abandoned => .abandoned
        (accepted, { base, inFlight := outcome.poisons }, cancelled)

def writeAll (c : AsyncCompressor ω σ) (token : Token) (data : ByteArray) (cancelled : Cancelled) :
    Outcome Unit × AsyncCompressor ω σ × Cancelled :=
  if _h : data.size = 0 then (.returned (.ok ()), c, cancelled)
  else
    match c.write token data cancelled with
    | (.abandoned, c, cancelled) => (.abandoned, c, cancelled)
    | (.returned (.error e), c, cancelled) => (.returned (.error e), c, cancelled)
    | (.returned (.ok n), c, cancelled) =>
      if _hn : n = 0 then
        (.returned (.error (.invalidData c.base.codec "encoder stopped accepting input")), c,
          cancelled)
      else c.writeAll token (data.extract n data.size) cancelled
termination_by data.size
decreasing_by simp only [ByteArray.size_extract, Nat.min_self]; omega

/-- Emits everything written so far as a prefix that decodes, then flushes the sink. -/
def flush (token : Token) (cancelled : Cancelled) :
    Outcome Unit × AsyncCompressor ω σ × Cancelled :=
  let cancelled := cancelled.look
  match c.refusal token cancelled with
  | some e => (.returned (.error e), c, cancelled)
  | none =>
    match flushInner token c.base cancelled with
    | (outcome, base, cancelled) =>
      (outcome, { base, inFlight := outcome.poisons }, cancelled)

/-- Emits the trailer and flushes the sink. Once that is done there is nothing to do on a live
compressor. -/
def complete (token : Token) (cancelled : Cancelled) :
    Outcome Unit × AsyncCompressor ω σ × Cancelled :=
  if c.base.isCompleted && !c.inFlight && !c.base.session.isDisposed then
    (.returned (.ok ()), c, cancelled)
  else
    let cancelled := cancelled.look
    match c.refusal token cancelled with
    | some e => (.returned (.error e), c, cancelled)
    | none =>
      match completeInner token c.base cancelled with
      | (outcome, base, cancelled) =>
        (outcome, { base, inFlight := outcome.poisons }, cancelled)

/-- The end of a compressor. The stream is not completed, since that may have to wait. -/
def drop : AsyncCompressor ω σ := { c with base := c.base.releaseSink }

/-- Lets the engine go without completing the stream. The sink is kept only if it was to be
left open. -/
def dispose : AsyncCompressor ω σ :=
  let base := { c.base with session := c.base.session.dispose }
  { c with base := if base.options.leaveOpen then base else base.releaseSink }

def finish (token : Token) (cancelled : Cancelled) :
    Outcome Sink × AsyncCompressor ω σ × Cancelled :=
  match c.complete token cancelled with
  | (.abandoned, c, cancelled) => (.abandoned, c.drop, cancelled)
  | (.returned (.error e), c, cancelled) => (.returned (.error e), c.drop, cancelled)
  | (.returned (.ok ()), c, cancelled) =>
    if c.base.holdsSink then
      let base := { c.base with holdsSink := false }
      (.returned (.ok c.base.sink), { c with base }, cancelled)
    else (.returned (.error .disposed), c.drop, cancelled)

/-- Completes the stream and hands the sink back if it was to be left open; else the sink is
shut down, which no token interrupts. -/
def close (token : Token) (cancelled : Cancelled) :
    Outcome (Option Sink) × AsyncCompressor ω σ × Cancelled :=
  match c.complete token cancelled with
  | (.abandoned, c, cancelled) => (.abandoned, c.drop, cancelled)
  | (.returned (.error e), c, cancelled) => (.returned (.error e), c.drop, cancelled)
  | (.returned (.ok ()), c, cancelled) =>
    if !c.base.holdsSink then (.returned (.error .disposed), c.drop, cancelled)
    else if c.base.options.leaveOpen then
      (.returned (.ok (some c.base.sink)),
        { c with base := { c.base with holdsSink := false } }, cancelled)
    else
      match c.base.sink.signalOr .shutdown none cancelled with
      | (wait, sink, cancelled) =>
        let outcome : Outcome (Option Sink) := match Outcome.ofWait wait with
          | .returned (.ok ()) => .returned (.ok none)
          | .returned (.error e) => .returned (.error e)
          | .abandoned => .abandoned
        (outcome, { c with base := { c.base with sink }.releaseSink }, cancelled)

end AsyncCompressor

end StreamCodec
