import StreamCodec.Loop
import StreamCodec.Session.Decoder
import StreamCodec.Stream.Source

/-!
# Stream decompressors

A decompressor stands behind a source: compressed bytes pulled from the source
are read from it decompressed. Zero bytes mark the end of the compressed
stream; a source that ends before the stream does is an error, unless it never
delivered anything.

Every read comes back: a pass that moves nothing pulls from the source, and a
source can only be pulled from so often before it has ended.
-/
namespace StreamCodec

namespace Source

theorem weight_readFrom_error (room : Nat) (answers : List SourceAnswer) (s : Source) (e : IoError)
    (hp : s.piece.size = 0) (h : (readFrom room answers s).1 = .error e) :
    (readFrom room answers s).2.weight < SourceAnswer.total answers := by
  induction answers generalizing s with
  | nil => simp [readFrom] at h
  | cons answer rest ih =>
    cases answer with
    | data piece => simp only [readFrom] at h; split at h <;> simp at h
    | fail e => simp [readFrom, weight, note, hp, SourceAnswer.total, SourceAnswer.weight]
    | lie excess => simp [readFrom] at h
    | pause p =>
      have := ih s hp h
      simp only [readFrom, SourceAnswer.total, SourceAnswer.weight]
      omega

/-- A failure uses up an answer. -/
theorem weight_read_error (s : Source) (room : Nat) (e : IoError)
    (h : (s.read room).1 = .error e) : (s.read room).2.weight < s.weight := by
  simp only [read] at h ⊢
  split
  · next hp =>
    rw [if_pos hp] at h
    have := weight_readFrom_error room s.answers s e hp h
    simpa [weight, hp] using this
  · next hp => rw [if_neg hp] at h; simp at h

/-- One read; interruptions are tried again. -/
def readPatiently (s : Source) (room : Nat) : Except IoError Delivery × Source :=
  match _h : s.read room with
  | (.ok delivery, s) => (.ok delivery, s)
  | (.error e, s) => if e.kind = .interrupted then s.readPatiently room else (.error e, s)
termination_by s.weight
decreasing_by
  have := weight_read_error _ room e (by rw [_h])
  rwa [_h] at this

theorem weight_readPatiently (s : Source) (room : Nat) :
    (s.readPatiently room).2.weight ≤ s.weight ∧
      (∀ d, (s.readPatiently room).1 = .ok d → 0 < room → 0 < d.reported →
        (s.readPatiently room).2.weight < s.weight) := by
  fun_induction readPatiently s room with
  | case1 s delivery s' h => have := weight_read s room; rwa [h] at this
  | case2 s e s' h hi ih =>
    have := weight_read_error s room e (by rw [h])
    rw [h] at this
    simp only at this
    exact ⟨by omega, fun d h1 h2 h3 => by have := ih.2 d h1 h2 h3; omega⟩
  | case3 s e s' h =>
    have := weight_read s room
    rw [h] at this
    exact ⟨this.1, fun d h1 => by simp at h1⟩

end Source

structure Decompressor (ω σ : Type) where
  session : DecoderSession ω σ
  input : CursorBuffer
  source : Source
  options : StreamOptions := {}
  /-- The source answered zero bytes to a read into some room. -/
  sourceEnded : Bool := false

namespace Decompressor

variable {ω σ ε : Type}

/-- A decompressor over a source, its engine open. On failure the library's state is returned
too. -/
def new (registry : Registry ω ε σ) (world : ω) (source : Source) (codecOptions : CodecOptions)
    (options : StreamOptions) : Except CodecError (Decompressor ω σ) × ω :=
  match DecoderSession.new registry world codecOptions with
  | .error e => (.error e, world)
  | .ok session =>
    match session.openNow with
    | (.error e, session) => (.error e, session.world)
    | (.ok (), session) =>
      (.ok { session, input := .withCapacity options.capacity, source, options }, session.world)

variable (d : Decompressor ω σ)

def codec : Codec := d.session.codec

def totalIn : Nat := d.session.totalIn

def totalOut : Nat := d.session.totalOut

def isFinished : Bool := d.session.isFinished

def hasBufferedInput : Bool := !d.input.isEmpty

/-- The failure that the session met last, as an error. -/
def failure : CodecError := .invalidData d.codec (d.session.lastError.getD "unknown failure")

def fullInput : CodecError :=
  .invalidData d.codec "decoder made no progress on a full input buffer"

/-- The answer to a read that finds the source ended before the stream. -/
def endOfSource : Except CodecError Nat :=
  if d.session.hasSeenInput then .error (.truncated d.codec) else .ok 0

/-- Takes in what a read of the source delivered. -/
def accept (delivery : Delivery) (source : Source) : Decompressor ω σ :=
  if delivery.reported = 0 then { d with source, sourceEnded := true }
  else { d with source, input := (d.input.poke delivery.bytes).commit delivery.reported }

/-- Makes room and pulls one piece from the source. -/
def fill : Except CodecError Unit × Decompressor ω σ :=
  let d := { d with input := d.input.compact }
  let room := d.input.availableWrite
  if room = 0 then (.error d.fullInput, d)
  else
    match d.source.readPatiently room with
    | (.error e, source) => (.error (.io e), { d with source })
    | (.ok delivery, source) =>
      if room < delivery.reported then
        (.error (.sourceOverrun delivery.reported room), { d with source })
      else (.ok (), d.accept delivery source)

theorem source_accept (delivery : Delivery) (source : Source) :
    (d.accept delivery source).source = source := by
  simp only [accept]; split <;> rfl

theorem fill_decreases {d d' : Decompressor ω σ} (he : d.sourceEnded = false)
    (h : d.fill = (.ok (), d')) :
    Prod.Lex (· < ·) (· < ·) (d'.source.weight, if d'.sourceEnded then 0 else 1)
      (d.source.weight, if d.sourceEnded then 0 else 1) := by
  unfold fill at h
  simp only at h
  split at h
  · simp at h
  · next hr =>
    split at h
    · simp at h
    · next delivery source hread =>
      split at h
      · simp at h
      · simp only [Prod.mk.injEq, true_and] at h
        have hw := Source.weight_readPatiently d.source d.input.compact.availableWrite
        rw [hread] at hw
        have hs : d'.source = source := by rw [← h]; exact source_accept ..
        rw [hs]
        by_cases hz : delivery.reported = 0
        · have hd : d'.sourceEnded = true := by rw [← h]; simp [accept, hz]
          rw [hd, he]
          rcases Nat.lt_or_eq_of_le hw.1 with hlt | heq
          · exact Prod.Lex.left _ _ hlt
          · simp only at heq
            rw [heq]
            exact Prod.Lex.right _ (by decide)
        · exact Prod.Lex.left _ _ (hw.2 delivery rfl (by omega) (by omega))

/-- Decodes into a destination with room, pulling from the source as often as it takes to
produce a byte or to meet an end. Answers the count and the destination. -/
def readSome (d : Decompressor ω σ) (dst : ByteArray) :
    Except CodecError Nat × ByteArray × Decompressor ω σ :=
  match d.session.decompress ⟨d.input, .empty dst⟩ with
  | (.error e, session, w) =>
    (.error e, w.dst.storage, { d with session, input := w.src })
  | (.ok status, session, w) =>
    let decoded := { d with session, input := w.src }
    let produced := w.dst.size
    match status with
    | .done | .destinationTooSmall => (.ok produced, w.dst.storage, decoded)
    | .invalidData => (.error decoded.failure, w.dst.storage, decoded)
    | .needMoreData =>
      if 0 < produced then (.ok produced, w.dst.storage, decoded)
      else if _he : decoded.sourceEnded then (decoded.endOfSource, w.dst.storage, decoded)
      else
        match _h : decoded.fill with
        | (.error e, filled) => (.error e, w.dst.storage, filled)
        | (.ok (), filled) => readSome filled w.dst.storage
termination_by (d.source.weight, if d.sourceEnded then 0 else 1)
decreasing_by exact fill_decreases (d := decoded) (by simpa using _he) _h

/-- A read without room: answered from the buffer where it can be, else the source is asked. -/
def readNothing : Except CodecError Nat × Decompressor ω σ :=
  if d.hasBufferedInput then (.ok 0, d)
  else
    match d.source.read 0 with
    | (.error e, source) => (.error (.io e), { d with source })
    | (.ok delivery, source) =>
      if 0 < delivery.reported then
        (.error (.sourceOverrun delivery.reported 0), { d with source })
      else (.ok 0, { d with source })

def read (dst : ByteArray) : Except CodecError Nat × ByteArray × Decompressor ω σ :=
  if d.session.isDisposed then (.error .disposed, dst, d)
  else if dst.size = 0 then
    match d.readNothing with
    | (result, d) => (result, dst, d)
  else d.readSome dst

/-- Reads until the destination from `offset` on is filled. An end before that is an error.
A read into some room never reports an interruption, since those of the source are tried
again within it. -/
def readExactFrom (d : Decompressor ω σ) (dst : ByteArray) (offset : Nat) :
    Except CodecError ByteArray × Decompressor ω σ :=
  if _h : dst.size ≤ offset then (.ok dst, d)
  else
    match d.read (dst.extract offset dst.size) with
    | (.error e, _, d) => (.error e, d)
    | (.ok n, part, d) =>
      if _hn : n = 0 then (.error (.io .fillWholeBuffer), d)
      else d.readExactFrom (overlay dst offset part) (offset + n)
termination_by dst.size - offset
decreasing_by
  rw [size_overlay _ _ _ (by omega)]; omega

@[inherit_doc readExactFrom]
def readExact (count : Nat) : Except CodecError ByteArray × Decompressor ω σ :=
  d.readExactFrom ⟨Array.replicate count 0⟩ 0

/-- The answer to a reading that never ends. No run ever sees it. -/
def restless : CodecError := .invalidData d.codec "decoder never came to rest"

/-- Reads one chunk and adds it to what was read before; an empty read is the last. -/
def readChunk (d : Decompressor ω σ) (chunk out : ByteArray) :
    (Decompressor ω σ × ByteArray × ByteArray) ⊕
      (Except CodecError Unit × ByteArray × Decompressor ω σ) :=
  match d.read chunk with
  | (.error e, _, d) => .inr (.error e, out, d)
  | (.ok n, chunk, d) =>
    if n = 0 then .inr (.ok (), out, d) else .inl (d, chunk, out ++ chunk.extract 0 n)

/-- Reads to the end of the stream in pieces of at most so many bytes. Answers what was read,
also where the reading failed. -/
def readToEnd (pieceSize : Nat) : Except CodecError Unit × ByteArray × Decompressor ω σ :=
  (loop (fun (d, chunk, out) => readChunk d chunk out)
    (d, ⟨Array.replicate pieceSize 0⟩, ByteArray.empty)).getD (.error d.restless, .empty, d)

/-- Lets the engine go; later reads fail. -/
def dispose : Decompressor ω σ := { d with session := d.session.dispose }

def drop : Decompressor ω σ := { d with source := d.source.drop }

/-- Lets the engine go and hands the source back if it was to be left open. -/
def close : Option Source × Decompressor ω σ :=
  if d.options.leaveOpen then (some d.source, d.dispose) else (none, d.dispose.drop)

end Decompressor

end StreamCodec
