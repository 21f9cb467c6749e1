import StreamCodec.Proofs.Recording

/-!
# Runs of a compressor

A run begins with `Compressor.new` and serves requests one after the other; each
may succeed or fail, and a failed one may be made again. Compressors are looked
at over recording engines, so that the bytes the engine consumed and produced
can be spoken of.
-/
namespace StreamCodec.Compressor

variable {ω σ ε δ : Type}

/-- A call on a compressor that leaves it to its owner. -/
inductive Request where
  | write (data : ByteArray)
  | flush
  | complete
  | dispose

/-- The plain bytes that a request offers. -/
def Request.offered : Request → List UInt8
  | .write data => octets data
  | .flush | .complete | .dispose => []

/-- A call that uses the compressor up. -/
inductive Ending where
  | finish
  | close
  | drop

/-- Serves a request. Only a write answers a count. -/
def serve (c : Compressor ω σ) : Request → Except CodecError (Option Nat) × Compressor ω σ
  | .write data => (c.write data).map (·.map some) id
  | .flush => c.flush.map (·.map fun _ => none) id
  | .complete => c.complete.map (·.map fun _ => none) id
  | .dispose => (.ok none, c.dispose)

def serveAll (c : Compressor ω σ) (requests : List Request) : Compressor ω σ :=
  requests.foldl (fun c request => (c.serve request).2) c

/-- The compressor once it is used up; its sink's record stays. -/
def endWith (c : Compressor ω σ) : Ending → Compressor ω σ
  | .finish => c.finish.2
  | .close => c.close.2
  | .drop => c.drop

theorem recorded_serve (c : Compressor ω σ) (request : Request) (ledger : Ledger) :
    Same (c.serve request) ((c.recorded ledger).serve request) := by
  cases request with
  | write data =>
    obtain ⟨ledger', hwrite⟩ := recorded_write c data ledger
    exact ⟨ledger', congrArg (Prod.map _ id) hwrite⟩
  | flush =>
    obtain ⟨ledger', hflush⟩ := recorded_flush c ledger
    exact ⟨ledger', congrArg (Prod.map _ id) hflush⟩
  | complete =>
    obtain ⟨ledger', hcomplete⟩ := recorded_complete c ledger
    exact ⟨ledger', congrArg (Prod.map _ id) hcomplete⟩
  | dispose =>
    obtain ⟨ledger', hdispose⟩ := recorded_dispose c ledger
    exact ⟨ledger', congrArg (Prod.mk _) hdispose⟩

theorem recorded_serveAll (requests : List Request) (c : Compressor ω σ) (ledger : Ledger) :
    ∃ ledger', (c.recorded ledger).serveAll requests = (c.serveAll requests).recorded ledger' := by
  induction requests generalizing c ledger with
  | nil => exact ⟨ledger, rfl⟩
  | cons request rest ih =>
    obtain ⟨ledger', hserve⟩ := recorded_serve c request ledger
    obtain ⟨ledger'', hrest⟩ := ih (c.serve request).2 ledger'
    refine ⟨ledger'', ?_⟩
    rw [serveAll, List.foldl_cons, hserve]
    exact hrest

def ledger (c : Compressor (ω × Ledger) σ) : Ledger := c.session.world.2

/-- A compressor over a recording engine that did nothing yet. -/
structure Fresh (c : Compressor (ω × Ledger) σ) (sink : Sink) (options : StreamOptions) : Prop where
  engine : ∃ engine : EncoderEngine ω σ, c.session.engine = engine.recording
  handle : c.session.handle.isSome
  ledger : c.ledger = []
  totalIn : c.totalIn = 0
  totalOut : c.totalOut = 0
  output : c.output = .withCapacity options.capacity
  sink : c.sink = sink
  holdsSink : c.holdsSink = true

theorem created {registry : Registry ω σ δ} {world world' : ω} {sink : Sink} {o : CodecOptions}
    {options : StreamOptions} {c : Compressor ω σ}
    (h : Compressor.new registry world sink o options = (.ok c, world')) :
    ∃ factory handle₁ world₁ handle, registry.factory o.codec = .ok factory ∧
      factory.encoder.create world = (.ok handle₁, world₁) ∧
      factory.encoder.configure o.encoderParameters handle₁ world₁ = (.ok handle, world') ∧
      c = { session := { options := o, version := factory.version, engine := factory.encoder,
                         world := world', handle := some handle },
            output := .withCapacity options.capacity, sink, options } := by
  unfold Compressor.new at h
  split at h
  · cases h
  · next session hsession =>
    unfold EncoderSession.new at hsession
    split at hsession
    · cases hsession
    · split at hsession
      · cases hsession
      · split at hsession
        · cases hsession
        · next factory hfactory =>
          obtain rfl := Except.ok.inj hsession
          split at h
          · cases h
          · next session hopen =>
            unfold EncoderSession.openNow at hopen
            split at hopen
            · next handle session' hopened =>
              obtain ⟨-, rfl⟩ := Prod.mk.inj hopen
              obtain ⟨handle₁, world₁, world₂, hcreate, hconf, rfl⟩ :=
                EncoderSession.opened_fresh rfl rfl hopened
              obtain ⟨hok, rfl⟩ := Prod.mk.inj h
              obtain rfl := Except.ok.inj hok
              exact ⟨factory, handle₁, world₁, handle, hfactory, hcreate, hconf, rfl⟩
            · cases hopen

theorem fresh_new (registry : Registry ω σ δ) (world : ω) (sink : Sink) (o : CodecOptions)
    (options : StreamOptions) {c : Compressor ω σ} {world' : ω}
    (h : Compressor.new registry world sink o options = (.ok c, world')) :
    Fresh (c.recorded []) sink options := by
  obtain ⟨factory, handle₁, world₁, handle, -, -, -, rfl⟩ := created h
  exact ⟨⟨factory.encoder, rfl⟩, rfl, rfl, rfl, rfl, rfl, rfl, rfl⟩

/-- What a pass may do: it is refused and nothing happens, or the session runs and its output is
drained, and the pass ends as the draining does. -/
theorem pass_ends {engine : EncoderEngine ω σ} (op : FlushOp) (c : Compressor (ω × Ledger) σ)
    (he : c.session.engine = engine.recording) (hr : c.session.IsReady) (src : CursorBuffer) :
    (∃ e, pass op c src = .inr (.error e, c, src)) ∨
      (c.session.isDisposed = false ∧ ∃ status session w calls drained,
        EncoderSession.DriveEnds c.session ⟨src, c.output⟩ status session w calls ∧
        ((∃ e, { c with session, output := w.dst }.drain = (.error e, drained) ∧
            pass op c src = .inr (.error e, drained, w.src)) ∨
          ({ c with session, output := w.dst }.drain = (.ok (), drained) ∧
            pass op c src = drained.conclude status w.src))) := by
  rcases EncoderSession.compress_ends op c.session he hr ⟨src, c.output⟩ with
    ⟨e, h⟩ | ⟨hopen, status, session, w, calls, h, hends⟩
  · exact .inl ⟨e, by simp only [pass, h]⟩
  · rcases hd : { c with session, output := w.dst }.drain with ⟨_ | _, drained⟩
    · exact .inr ⟨hopen, status, session, w, calls, drained, hends,
        .inl ⟨_, hd, by simp only [pass, h, hd]⟩⟩
    · exact .inr ⟨hopen, status, session, w, calls, drained, hends,
        .inr ⟨hd, by simp only [pass, h, hd]⟩⟩

/-- The outcome of a pass, as that of a drive which ends with it. -/
def outcome (op : FlushOp) (c : Compressor ω σ) (src : CursorBuffer) :
    Except CodecError Unit × Compressor ω σ × CursorBuffer :=
  (pass op c src).elim (fun x => (.error c.restless, x.1, x.2)) id

theorem drive_of_last (op : FlushOp) (c : Compressor ω σ) (src : CursorBuffer)
    (h : (pass op c src).isRight = true) : drive op c src = outcome op c src := by
  obtain ⟨result, hpass⟩ := Sum.isRight_iff.mp h
  unfold drive outcome
  rw [loop_eq]
  dsimp only
  rw [hpass]
  rfl

/-- The compressor and the source that a pass leaves. -/
def left (op : FlushOp) (c : Compressor ω σ) (src : CursorBuffer) : Compressor ω σ × CursorBuffer :=
  (pass op c src).elim id (·.2)

theorem drive_of_two {op : FlushOp} {c : Compressor ω σ} {src : CursorBuffer}
    (hfirst : (pass op c src).isLeft = true)
    (hlast : (pass op (left op c src).1 (left op c src).2).isRight = true) :
    drive op c src = outcome op (left op c src).1 (left op c src).2 := by
  obtain ⟨next, hpass⟩ := Sum.isLeft_iff.mp hfirst
  have hnext : left op c src = next := by rw [left, hpass]; rfl
  rw [hnext] at hlast ⊢
  obtain ⟨result, hresult⟩ := Sum.isRight_iff.mp hlast
  unfold drive outcome
  rw [loop_eq]
  dsimp only
  rw [hpass]
  dsimp only
  rw [loop_eq, hresult]
  rfl

/-- The result of a drive is that of its last pass, unless the drive never ends: then, as no run
ever sees, it counts as refused. -/
theorem drive_cases (op : FlushOp) (c : Compressor ω σ) (src : CursorBuffer) :
    loop (fun x => pass op x.1 x.2) (c, src) = some (drive op c src) ∨
      drive op c src = (.error c.restless, c, src) := by
  unfold drive
  cases h : loop (fun x => pass op x.1 x.2) (c, src) with
  | none => exact .inr rfl
  | some result => exact .inl rfl

end StreamCodec.Compressor
