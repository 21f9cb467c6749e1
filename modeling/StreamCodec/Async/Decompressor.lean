import StreamCodec.Async.Compressor
import StreamCodec.Stream.Decompressor

/-!
# Suspending decompressors

A suspending decompressor runs the same drives as a blocking one and may only
wait for its source, where it races the caller's token. A read that is
cancelled there took nothing from the source, so the decompressor stays usable;
only a read that is dropped while it waits leaves its guard set. Interruptions
are not tried again.
-/
namespace StreamCodec

structure AsyncDecompressor (ω σ : Type) where
  base : Decompressor ω σ
  /-- A read is under way, or was dropped while it waited. -/
  inFlight : Bool := false

namespace AsyncDecompressor

variable {ω σ ε : Type}

/-- A decompressor over a source, its engine open. On failure the library's state is returned
too. -/
def new (registry : Registry ω ε σ) (world : ω) (source : Source) (codecOptions : CodecOptions)
    (options : StreamOptions) : Except CodecError (AsyncDecompressor ω σ) × ω :=
  match Decompressor.new registry world source codecOptions options with
  | (.ok base, world) => (.ok { base }, world)
  | (.error e, world) => (.error e, world)

end AsyncDecompressor

namespace Source

theorem weight_readRacing (room : Nat) (token : Token) (answers : List SourceAnswer) (s : Source)
    (cancelled : Cancelled) (hp : s.piece.size = 0) :
    (readRacing room token answers s cancelled).2.1.weight ≤
        SourceAnswer.total answers ∧
      (∀ d, (readRacing room token answers s cancelled).1 = .ready (.ok d) → 0 < room →
        0 < d.reported → (readRacing room token answers s cancelled).2.1.weight <
          SourceAnswer.total answers) := by
  induction answers generalizing s cancelled with
  | nil => simp [readRacing, weight, note, hp, SourceAnswer.total]
  | cons answer rest ih =>
    cases answer with
    | data piece =>
      simp only [readRacing]
      split
      · simp [weight, note, hp, SourceAnswer.total, SourceAnswer.weight]
      · simp only [SourceAnswer.total, SourceAnswer.weight, weight_serve]
        constructor
        · omega
        · intros; omega
    | fail e => simp [readRacing, weight, note, hp, SourceAnswer.total, SourceAnswer.weight]
    | lie excess => simp [readRacing, weight, note, hp, SourceAnswer.total, SourceAnswer.weight]
    | pause p =>
      have := ih (s.note (.readPaused room)) (p.apply cancelled).look hp
      simp only [readRacing, SourceAnswer.total, SourceAnswer.weight]
      split
      · simp [weight, note, hp]
      · split
        · simp [weight, note, hp]
        · exact ⟨by omega, fun d h1 h2 h3 => by have := this.2 d h1 h2 h3; omega⟩

theorem weight_readOr (s : Source) (room : Nat) (token : Token) (cancelled : Cancelled) :
    (s.readOr room token cancelled).2.1.weight ≤ s.weight ∧
      (∀ d, (s.readOr room token cancelled).1 = .ready (.ok d) → 0 < room → 0 < d.reported →
        (s.readOr room token cancelled).2.1.weight < s.weight) := by
  simp only [readOr]
  split
  · simp
  · split
    · next h =>
      have := weight_readRacing room token s.answers s cancelled.look h
      simpa [weight, h] using this
    · simp only [weight_serve]
      constructor
      · simp only [weight]; omega
      · intros; simp only [weight]; omega

end Source

namespace AsyncDecompressor

variable {ω σ : Type}

def fill (token : Token) (d : Decompressor ω σ) (cancelled : Cancelled) :
    Outcome Unit × Decompressor ω σ × Cancelled :=
  let d := { d with input := d.input.compact }
  let room := d.input.availableWrite
  if room = 0 then (.returned (.error d.fullInput), d, cancelled)
  else
    match d.source.readOr room token cancelled with
    | (.ready (.ok delivery), source, cancelled) =>
      (.returned (.ok ()), d.accept delivery source, cancelled)
    | (.ready (.error e), source, cancelled) =>
      (.returned (.error (.io e)), { d with source }, cancelled)
    | (.cancelled, source, cancelled) =>
      (.returned (.error .cancelled), { d with source }, cancelled)
    | (.abandoned, source, cancelled) => (.abandoned, { d with source }, cancelled)

theorem fill_decreases {token : Token} {d d' : Decompressor ω σ} {cancelled cancelled' : Cancelled}
    (he : d.sourceEnded = false)
    (h : fill token d cancelled = (.returned (.ok ()), d', cancelled')) :
    Prod.Lex (· < ·) (· < ·) (d'.source.weight, if d'.sourceEnded then 0 else 1)
      (d.source.weight, if d.sourceEnded then 0 else 1) := by
  unfold fill at h
  simp only at h
  split at h
  · simp at h
  · next hr =>
    have hw := Source.weight_readOr d.source d.input.compact.availableWrite token cancelled
    split at h
    · next delivery source c hread =>
      rw [hread] at hw
      simp only [Prod.mk.injEq, true_and] at h
      have hs : d'.source = source := by rw [← h.1]; exact Decompressor.source_accept ..
      rw [hs]
      by_cases hz : delivery.reported = 0
      · have hd : d'.sourceEnded = true := by rw [← h.1]; simp [Decompressor.accept, hz]
        rw [hd, he]
        rcases Nat.lt_or_eq_of_le hw.1 with hlt | heq
        · exact Prod.Lex.left _ _ hlt
        · simp only at heq
          rw [heq]
          exact Prod.Lex.right _ (by decide)
      · exact Prod.Lex.left _ _ (hw.2 delivery rfl (by omega) (by omega))
    all_goals simp at h

def readSome (token : Token) (d : Decompressor ω σ) (dst : ByteArray) (cancelled : Cancelled) :
    Outcome Nat × ByteArray × Decompressor ω σ × Cancelled :=
  match d.session.decompress ⟨d.input, .empty dst⟩ with
  | (.error e, session, w) =>
    (.returned (.error e), w.dst.storage, { d with session, input := w.src }, cancelled)
  | (.ok status, session, w) =>
    let decoded := { d with session, input := w.src }
    let produced := w.dst.size
    match status with
    | .done | .destinationTooSmall =>
      (.returned (.ok produced), w.dst.storage, decoded, cancelled)
    | .invalidData => (.returned (.error decoded.failure), w.dst.storage, decoded, cancelled)
    | .needMoreData =>
      if 0 < produced then (.returned (.ok produced), w.dst.storage, decoded, cancelled)
      else if _he : decoded.sourceEnded then
        (.returned decoded.endOfSource, w.dst.storage, decoded, cancelled)
      else
        match _h : fill token decoded cancelled with
        | (.returned (.ok ()), filled, cancelled) => readSome token filled w.dst.storage cancelled
        | (.returned (.error e), filled, cancelled) =>
          (.returned (.error e), w.dst.storage, filled, cancelled)
        | (.abandoned, filled, cancelled) => (.abandoned, w.dst.storage, filled, cancelled)
termination_by (d.source.weight, if d.sourceEnded then 0 else 1)
decreasing_by exact fill_decreases (d := decoded) (by simpa using _he) _h

def readNothing (token : Token) (d : Decompressor ω σ) (cancelled : Cancelled) :
    Outcome Nat × Decompressor ω σ × Cancelled :=
  if d.hasBufferedInput then (.returned (.ok 0), d, cancelled)
  else
    match d.source.readOr 0 token cancelled with
    | (.ready (.ok _), source, cancelled) => (.returned (.ok 0), { d with source }, cancelled)
    | (.ready (.error e), source, cancelled) =>
      (.returned (.error (.io e)), { d with source }, cancelled)
    | (.cancelled, source, cancelled) =>
      (.returned (.error .cancelled), { d with source }, cancelled)
    | (.abandoned, source, cancelled) => (.abandoned, { d with source }, cancelled)

variable (d : AsyncDecompressor ω σ)

def refusal (token : Token) (cancelled : Cancelled) : Option CodecError :=
  if d.inFlight then some .operationInProgress
  else if d.base.session.isDisposed then some .disposed
  else if token ∈ cancelled then some .cancelled
  else none

def read (token : Token) (dst : ByteArray) (cancelled : Cancelled) :
    Outcome Nat × ByteArray × AsyncDecompressor ω σ × Cancelled :=
  let cancelled := cancelled.look
  match d.refusal token cancelled with
  | some e => (.returned (.error e), dst, d, cancelled)
  | none =>
    if dst.size = 0 then
      match readNothing token d.base cancelled with
      | (.abandoned, base, cancelled) => (.abandoned, dst, { base, inFlight := true }, cancelled)
      | (outcome, base, cancelled) => (outcome, dst, { base }, cancelled)
    else
      match readSome token d.base dst cancelled with
      | (.abandoned, dst, base, cancelled) =>
        (.abandoned, dst, { base, inFlight := true }, cancelled)
      | (outcome, dst, base, cancelled) => (outcome, dst, { base }, cancelled)

def readChunk (token : Token) (d : AsyncDecompressor ω σ) (chunk out : ByteArray)
    (cancelled : Cancelled) : (AsyncDecompressor ω σ × ByteArray × ByteArray × Cancelled) ⊕
      (Outcome Unit × ByteArray × AsyncDecompressor ω σ × Cancelled) :=
  match d.read token chunk cancelled with
  | (.abandoned, _, d, cancelled) => .inr (.abandoned, out, d, cancelled)
  | (.returned (.error e), _, d, cancelled) => .inr (.returned (.error e), out, d, cancelled)
  | (.returned (.ok n), chunk, d, cancelled) =>
    if n = 0 then .inr (.returned (.ok ()), out, d, cancelled)
    else .inl (d, chunk, out ++ chunk.extract 0 n, cancelled)

def readToEnd (token : Token) (cancelled : Cancelled) :
    Outcome Unit × ByteArray × AsyncDecompressor ω σ × Cancelled :=
  (loop (fun (d, chunk, out, cancelled) => readChunk token d chunk out cancelled)
    (d, ⟨Array.replicate d.base.options.capacity 0⟩, ByteArray.empty, cancelled)).getD
    (.returned (.error d.base.restless), .empty, d, cancelled)

def dispose : AsyncDecompressor ω σ := { d with base := d.base.dispose }

def drop : AsyncDecompressor ω σ := { d with base := d.base.drop }

def close : Option Source × AsyncDecompressor ω σ :=
  match d.base.close with
  | (source, base) => (source, { d with base })

end AsyncDecompressor

end StreamCodec
