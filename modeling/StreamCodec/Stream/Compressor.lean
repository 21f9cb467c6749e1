import StreamCodec.Loop
import StreamCodec.Session.Encoder
import StreamCodec.Stream.Sink

/-!
# Stream compressors

A compressor stands in front of a sink: plain bytes written to it reach the
sink compressed. It holds one encoder session and one output buffer, which is
handed to the sink whenever a drive of the session ends, and counts as drained
only once the sink took all of it.

`complete` emits the trailer and `finish`, `close` and `dispose` do so on the
way out. A compressor that is dropped unfinished completes the stream as well
as it can.
-/
namespace StreamCodec

structure Compressor (ω σ : Type) where
  session : EncoderSession ω σ
  output : CursorBuffer
  sink : Sink
  /-- Whether the sink is still the compressor's. -/
  holdsSink : Bool := true
  options : StreamOptions := {}
  /-- Whether the trailer was emitted. -/
  isCompleted : Bool := false

namespace Compressor

variable {ω σ δ : Type}

/-- A compressor over a sink, its engine open. On failure the library's state is returned too. -/
def new (registry : Registry ω σ δ) (world : ω) (sink : Sink) (codecOptions : CodecOptions)
    (options : StreamOptions) : Except CodecError (Compressor ω σ) × ω :=
  match EncoderSession.new registry world codecOptions with
  | .error e => (.error e, world)
  | .ok session =>
    match session.openNow with
    | (.error e, session) => (.error e, session.world)
    | (.ok (), session) =>
      (.ok { session, output := .withCapacity options.capacity, sink, options }, session.world)

variable (c : Compressor ω σ)

def codec : Codec := c.session.codec

def totalIn : Nat := c.session.totalIn

def totalOut : Nat := c.session.totalOut

/-- The failure that the session met last, as an error. -/
def failure : CodecError := .invalidData c.codec (c.session.lastError.getD "unknown failure")

/-- Hands the output buffer to the sink. The buffer is cleared once the sink took all of it. -/
def drain : Except CodecError Unit × Compressor ω σ :=
  if c.output.isEmpty then (.ok (), c)
  else if !c.holdsSink then (.error .disposed, c)
  else
    match c.sink.writeAll c.output.unread with
    | (.ok (), sink) => (.ok (), { c with sink, output := c.output.clear })
    | (.error e, sink) => (.error (.io e), { c with sink })

/-- How a drive goes on once the output of a pass was drained: only a full destination asks for
another pass. -/
def conclude (status : Status) (src : CursorBuffer) :
    (Compressor ω σ × CursorBuffer) ⊕ (Except CodecError Unit × Compressor ω σ × CursorBuffer) :=
  match status with
  | .done | .needMoreData => .inr (.ok (), c, src)
  | .destinationTooSmall => .inl (c, src)
  | .invalidData => .inr (.error c.failure, c, src)

/-- One pass of a drive: the session runs once and the output is drained. -/
def pass (op : FlushOp) (c : Compressor ω σ) (src : CursorBuffer) :
    (Compressor ω σ × CursorBuffer) ⊕ (Except CodecError Unit × Compressor ω σ × CursorBuffer) :=
  match c.session.compress op ⟨src, c.output⟩ with
  | (.error e, session, w) => .inr (.error e, { c with session, output := w.dst }, w.src)
  | (.ok status, session, w) =>
    match { c with session, output := w.dst }.drain with
    | (.error e, c) => .inr (.error e, c, w.src)
    | (.ok (), c) => c.conclude status w.src

/-- The answer to a drive that never ends. No run ever sees it. -/
def restless : CodecError := .invalidData c.codec "encoder never came to rest"

/-- Drives the session until the operation is done, draining the output after each pass. -/
def drive (op : FlushOp) (c : Compressor ω σ) (src : CursorBuffer) :
    Except CodecError Unit × Compressor ω σ × CursorBuffer :=
  (loop (fun (c, src) => pass op c src) (c, src)).getD (.error c.restless, c, src)

/-- Drives the session without any input. -/
def driveIdle (op : FlushOp) : Except CodecError Unit × Compressor ω σ :=
  match drive op c (.filled ByteArray.empty) with
  | (result, c, _) => (result, c)

def flushSink : Except CodecError Unit × Compressor ω σ :=
  if !c.holdsSink then (.error .disposed, c)
  else
    match c.sink.flush with
    | (.ok (), sink) => (.ok (), { c with sink })
    | (.error e, sink) => (.error (.io e), { c with sink })

def write (data : ByteArray) : Except CodecError Nat × Compressor ω σ :=
  if c.session.isDisposed then (.error .disposed, c)
  else if c.isCompleted then (.error .completed, c)
  else
    match drive .process c (.filled data) with
    | (.error e, c, _) => (.error e, c)
    | (.ok (), c, src) => (.ok (data.size - src.availableRead), c)

/-- Writes until every byte was accepted. A write never reports an interruption, since those of
the sink are tried again within it. -/
def writeAll (c : Compressor ω σ) (data : ByteArray) : Except CodecError Unit × Compressor ω σ :=
  if _h : data.size = 0 then (.ok (), c)
  else
    match c.write data with
    | (.error e, c) => (.error e, c)
    | (.ok n, c) =>
      if _hn : n = 0 then (.error (.io .wholeBuffer), c)
      else c.writeAll (data.extract n data.size)
termination_by data.size
decreasing_by simp only [ByteArray.size_extract, Nat.min_self]; omega

/-- Emits everything written so far as a prefix that decodes, then flushes the sink. After
completion only the sink is flushed. -/
def flush : Except CodecError Unit × Compressor ω σ :=
  if c.session.isDisposed then (.error .disposed, c)
  else if c.isCompleted then c.flushSink
  else
    match c.driveIdle .flush with
    | (.error e, c) => (.error e, c)
    | (.ok (), c) => c.flushSink

/-- Emits the trailer and flushes the sink. Once the trailer is out there is nothing to do. -/
def complete : Except CodecError Unit × Compressor ω σ :=
  if c.session.isDisposed then (.error .disposed, c)
  else if c.isCompleted then (.ok (), c)
  else
    match c.driveIdle .finish with
    | (.error e, c) => (.error e, c)
    | (.ok (), c) => { c with isCompleted := true }.flushSink

def releaseSink : Compressor ω σ :=
  if c.holdsSink then { c with sink := c.sink.drop, holdsSink := false } else c

theorem releaseSink_holdsSink : c.releaseSink.holdsSink = false := by
  unfold releaseSink
  split
  · rfl
  · next hgone => exact eq_false_of_ne_true hgone

/-- Letting the sink go is no call of it. -/
theorem releaseSink_sink :
    c.releaseSink.sink = if c.holdsSink then c.sink.drop else c.sink := by
  unfold releaseSink
  split <;> rfl

@[simp] theorem releaseSink_session : c.releaseSink.session = c.session := by
  unfold releaseSink
  split <;> rfl

@[simp] theorem releaseSink_options : c.releaseSink.options = c.options := by
  unfold releaseSink
  split <;> rfl

@[simp] theorem releaseSink_isCompleted : c.releaseSink.isCompleted = c.isCompleted := by
  unfold releaseSink
  split <;> rfl

/-- Completes the stream as well as it can, then lets the engine go. The sink is kept only if
it was to be left open. -/
def dispose : Compressor ω σ :=
  if c.session.isDisposed then c
  else
    let c := if c.isCompleted then c else c.complete.2
    let c := { c with session := c.session.dispose }
    if c.options.leaveOpen then c else c.releaseSink

/-- The end of a compressor: an unfinished one is disposed of first. -/
def drop : Compressor ω σ :=
  let c := if c.holdsSink && !c.isCompleted then c.dispose else c
  c.releaseSink

def finish : Except CodecError Sink × Compressor ω σ :=
  match c.complete with
  | (.error e, c) => (.error e, c.drop)
  | (.ok (), c) =>
    if c.holdsSink then (.ok c.sink, { c with holdsSink := false })
    else (.error .disposed, c.drop)

/-- Completes the stream and hands the sink back if it was to be left open. -/
def close : Except CodecError (Option Sink) × Compressor ω σ :=
  match c.complete with
  | (.error e, c) => (.error e, c.drop)
  | (.ok (), c) =>
    if !c.holdsSink then (.error .disposed, c.drop)
    else if c.options.leaveOpen then (.ok (some c.sink), { c with holdsSink := false })
    else (.ok none, c.releaseSink)

end Compressor

end StreamCodec
