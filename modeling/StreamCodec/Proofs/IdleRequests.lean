import StreamCodec.Proofs.Announcement
import StreamCodec.Proofs.DeflateCalls
import StreamCodec.Proofs.Marked
import StreamCodec.Proofs.SmoothRuns

/-!
# Requests with nothing to do

A write of nothing, and a flush with nothing new to emit, reach neither the
engine nor the bytes of the sink. Whether there is something new is what the
session's dirty flag says: it is set exactly if plain bytes were consumed since
the last flush. An engine that was called has nothing pending once an operation is
done, and one that was not called yet has had nothing to hold back.
-/
namespace StreamCodec

variable {ω σ τ δ : Type}

/-- Before its first call the engine holds no output. -/
structure EncoderEngine.StartsEmpty (engine : EncoderEngine ω σ) : Prop where
  create : ∀ world handle world', engine.create world = (.ok handle, world') →
    engine.hasMoreOutput handle = false
  setParameter : ∀ p handle world,
    engine.hasMoreOutput (engine.setParameter p handle world).2.1 = engine.hasMoreOutput handle

namespace EncoderEngine

theorem StartsEmpty.configure {engine : EncoderEngine ω σ} (h : engine.StartsEmpty)
    (parameters : List Parameter) {handle handle' : σ} {world world' : ω}
    (hempty : engine.hasMoreOutput handle = false)
    (hset : engine.configure parameters handle world = (.ok handle', world')) :
    engine.hasMoreOutput handle' = false := by
  induction parameters generalizing handle world with
  | nil =>
    cases hset
    exact hempty
  | cons p rest ih =>
    have hkept := h.setParameter p handle world
    rw [EncoderEngine.configure] at hset
    split at hset
    · next handle₁ world₁ hp =>
      rw [hp] at hkept
      exact ih (hkept.trans hempty) hset
    · cases hset

theorem startsEmpty_brotli (backend : Brotli.Backend ω) : (Brotli.encoder backend).StartsEmpty where
  create := by
    rintro world handle world' ⟨⟩
    rfl
  setParameter := by
    intro p handle world
    simp only [Brotli.encoder]
    repeat' split
    all_goals rfl

theorem startsEmpty_zstd (backend : Zstd.Backend ω) : (Zstd.encoder backend).StartsEmpty where
  create := by
    intro world handle world' h
    simp only [Zstd.encoder] at h
    split at h <;> cases h
    rfl
  setParameter := by
    intro p handle world
    cases p <;> rfl

theorem startsEmpty_deflate (backend : Deflate.Backend ω) (zlib : Bool) :
    (Deflate.encoder backend zlib).StartsEmpty where
  create := by
    rintro world handle world' ⟨⟩
    rfl
  setParameter := by
    intro p handle world
    simp only [Deflate.encoder]
    repeat' split
    all_goals rfl

theorem startsEmpty_lzma (backend : Lzma.Backend ω) (container : Lzma.Container) :
    (Lzma.encoder backend container).StartsEmpty where
  create := by
    rintro world handle world' ⟨⟩
    rfl
  setParameter := by
    intro p handle world
    simp only [Lzma.encoder]
    repeat' split
    all_goals rfl

theorem StartsEmpty.within {engine : EncoderEngine ω σ} (h : engine.StartsEmpty) {wrap : σ → τ}
    {unwrap : τ → Option σ} (hwrap : ∀ inner, unwrap (wrap inner) = some inner) :
    (engine.within wrap unwrap).StartsEmpty where
  create := by
    intro world handle world' hcreate
    unfold EncoderEngine.within at hcreate ⊢
    dsimp only at hcreate ⊢
    split at hcreate
    · next inner world₁ hinner =>
      cases hcreate
      rw [hwrap]
      exact h.create _ _ _ hinner
    · cases hcreate
  setParameter := by
    intro p handle world
    unfold EncoderEngine.within
    dsimp only
    cases hinner : unwrap handle with
    | none => exact congrArg (Option.any _) hinner
    | some inner =>
      dsimp only
      rw [hwrap]
      exact h.setParameter p inner world

end EncoderEngine

theorem Backend.startsEmpty (backend : Backend ω) {codec : Codec}
    {engine : EncoderEngine ω EncoderHandle} (h : backend.encoder codec = some engine) :
    engine.StartsEmpty := by
  cases codec <;> cases h
  · exact (EncoderEngine.startsEmpty_brotli _).within fun _ => rfl
  · exact (EncoderEngine.startsEmpty_zstd _).within fun _ => rfl
  · exact (EncoderEngine.startsEmpty_deflate _ _).within fun _ => rfl
  · exact (EncoderEngine.startsEmpty_deflate _ _).within fun _ => rfl
  · exact (EncoderEngine.startsEmpty_lzma _ _).within fun _ => rfl
  · exact (EncoderEngine.startsEmpty_lzma _ _).within fun _ => rfl

/-- Every encoder of the registry holds no output before its first call. -/
def Registry.StartsEmpty (registry : Registry ω σ δ) : Prop :=
  ∀ codec factory, registry.factory codec = .ok factory → factory.encoder.StartsEmpty

/-- The registered codecs, over any libraries. -/
theorem Backend.registry_startsEmpty (backend : Backend ω) : backend.registry.StartsEmpty :=
  fun _ _ h => backend.startsEmpty (backend.engines_of_factory h).1

namespace EncoderSession

/-- From one state of a session to a later one the flag is set by consumed bytes alone. -/
structure Soils (s s' : EncoderSession ω σ) : Prop where
  grows : s.totalIn ≤ s'.totalIn
  isDirty : s'.isDirty = true ↔ s.isDirty = true ∨ s.totalIn < s'.totalIn

namespace Soils

theorem refl (s : EncoderSession ω σ) : Soils s s := ⟨Nat.le_refl _, by simp⟩

theorem trans {s s' s'' : EncoderSession ω σ} (first : Soils s s') (second : Soils s' s'') :
    Soils s s'' where
  grows := Nat.le_trans first.grows second.grows
  isDirty := by
    have := first.grows
    have := second.grows
    rw [second.isDirty, first.isDirty, or_assoc]
    exact or_congr_right (by omega)

theorem record (s : EncoderSession ω σ) (w : Windows) (reply : Reply) (handle : σ) (world : ω) :
    Soils s (s.record w reply handle world) where
  grows := Nat.le_add_right ..
  isDirty := by
    simp only [EncoderSession.record, Bool.or_eq_true, decide_eq_true_eq]
    exact or_congr_right (by omega)

theorem fail {s s' : EncoderSession ω σ} (h : Soils s s') (detail : String) :
    Soils s (s'.fail detail) :=
  ⟨h.grows, h.isDirty⟩

end Soils

/-- Plain processing soils the session with what it consumes, and never cleans it. -/
theorem drive_soils (s : EncoderSession ω σ) (handle : σ) (w : Windows) (stalled : Nat) :
    Soils s (drive .process s handle w stalled).2.1 := by
  fun_induction drive .process s handle w stalled with
  | case1 s => exact .refl s
  | case2 s handle w stalled hroom reply handle' world hcall s' w' detail hcode =>
    exact (Soils.record s w reply handle' world).fail detail
  | case3 s handle w stalled hroom reply handle' world
  | case4 s handle w stalled hroom reply handle' world
  | case5 s handle w stalled hroom reply handle' world => exact .record s w reply handle' world
  | case6 s handle w stalled hroom reply handle' world =>
    exact (Soils.record s w reply handle' world).fail _
  | case7 s handle w stalled hroom reply handle' world hcall s' w' hdone hfull hstall pending hp hs
      hcode ih => exact (Soils.record s w reply handle' world).trans ih
  | case8 s handle w stalled hroom reply handle' world hcall s' w' hdone hfull hmoved hcode ih =>
    exact (Soils.record s w reply handle' world).trans ih

/-- Nothing to take in, nothing held, and for a flush nothing new: the operation is skipped. -/
theorem compress_idle {op : FlushOp} {s : EncoderSession ω σ} {w : Windows}
    (hlive : s.isDisposed = false) (hop : op = .process ∨ op = .flush ∧ s.isDirty = false)
    (hdrained : s.Drained) (hrunning : s.isFinished = false) (hempty : w.src.isEmpty = true) :
    s.compress op w = (.ok .done, s, w) := by
  obtain ⟨handle, hhandle, hnone⟩ := hdrained
  rw [isFinished, hhandle, Option.any_some] at hrunning
  have hidle : s.isIdle op handle w.src = true := by
    rcases hop with rfl | ⟨rfl, hclean⟩
    · simp [isIdle, hempty, hnone]
    · simp [isIdle, hempty, hnone, hclean]
  simp only [compress, opened_of_handle hlive hhandle]
  rw [if_neg (by simp [hrunning]), if_pos hidle]

section Open

variable {op : FlushOp} {s s' : EncoderSession ω σ} {w w' : Windows} {status : Status}
  (hlive : s.isDisposed = false) (hopen : s.handle.isSome)

include hlive hopen

theorem compress_soils (h : s.compress .process w = (.ok status, s', w')) : Soils s s' := by
  obtain ⟨handle, hhandle⟩ := Option.isSome_iff_exists.mp hopen
  have hdrive := drive_soils s handle w 0
  simp only [compress, opened_of_handle hlive hhandle] at h
  split at h
  · split at h <;> cases h
    exact .refl s
  · split at h <;> cases h
    · exact .refl s
    · exact hdrive

theorem done_of_compress (h : s.compress op w = (.ok .done, s', w')) : ∃ calls, Done calls s' w' op := by
  obtain ⟨handle, hhandle⟩ := Option.isSome_iff_exists.mp hopen
  have hout : Outcome op s w _ _ := outcome_opened (opened_of_handle hlive hhandle) w
  rw [h] at hout
  exact ⟨_, hout.tells⟩

end Open

end EncoderSession

namespace Compressor

open EncoderSession (Soils)

/-- A drive with nothing to do is over at once, and nothing is touched. -/
theorem drive_idle {op : FlushOp} {c : Compressor ω σ} {src : CursorBuffer} (hready : c.Ready)
    (hop : op = .process ∨ op = .flush ∧ c.session.isDirty = false)
    (hdrained : c.session.Drained) (hrunning : c.session.isFinished = false)
    (hempty : src.isEmpty = true) : drive op c src = (.ok (), c, src) := by
  have hrun := EncoderSession.compress_idle (w := ⟨src, c.output⟩) hready.live hop hdrained hrunning
    hempty
  have hdrain : c.drain = (.ok (), c) := by
    unfold drain
    rw [if_pos hready.isEmpty]
  have hpass : pass op c src = .inr (.ok (), c, src) := by
    simp only [pass, hrun]
    rw [show ({ c with session := c.session, output := c.output } : Compressor ω σ) = c from rfl, hdrain]
    rfl
  rw [drive_of_last op c src (by rw [hpass]; rfl), outcome, hpass]
  rfl

theorem write_nothing {c : Compressor ω σ} {data : ByteArray} (hready : c.Ready)
    (hdrained : c.session.Drained) (hrunning : c.session.isFinished = false) (hdata : data.size = 0) :
    c.write data = (.ok 0, c) := by
  have hempty : (CursorBuffer.filled data).isEmpty = true := by
    rw [CursorBuffer.isEmpty_iff]
    show data.size - 0 = 0
    omega
  unfold write
  rw [if_neg (by rw [hready.live]; simp), if_neg (by rw [hready.notCompleted]; simp),
    drive_idle hready (.inl rfl) hdrained hrunning hempty]
  show (Except.ok (data.size - _), c) = _
  rw [hdata, Nat.zero_sub]

/-- A flush with nothing new to emit flushes the sink and does nothing else. -/
theorem flush_clean {c : Compressor ω σ} (hready : c.Ready) (hdrained : c.session.Drained)
    (hrunning : c.session.isFinished = false) (hclean : c.session.isDirty = false) :
    c.flush = (c.sink.flush.1.mapError .io, { c with sink := c.sink.flush.2 }) := by
  have hempty : (CursorBuffer.filled ByteArray.empty).isEmpty = true := rfl
  have hidle := drive_idle hready (.inr ⟨rfl, hclean⟩) hdrained hrunning hempty
  rw [hready.flush_eq, driveIdle_eq, hidle, ← flushSink_of_holds hready.holdsSink]

section Ledger

variable {base : List UInt8} {c c' : Compressor (ω × Ledger) σ}

/-- How a compressor stands between two requests that succeeded: the flag is set exactly if plain
bytes were consumed in the calls since `flushed`. -/
structure Kept (base : List UInt8) (flushed : Ledger) (c : Compressor (ω × Ledger) σ) : Prop where
  ready : c.Ready
  level : Level base c
  since : ∃ calls, c.ledger = flushed ++ calls ∧ (c.session.isDirty = true ↔ calls.consumed ≠ [])

/-- The totals tell whether the calls in between consumed a byte. -/
theorem Level.consumed_iff {calls : Ledger} (h : Level base c) (h' : Level base c')
    (hledger : c'.ledger = c.ledger ++ calls) : c.totalIn < c'.totalIn ↔ calls.consumed ≠ [] := by
  rw [h.totalIn, h'.totalIn, hledger, Ledger.consumed_append, List.length_append,
    ← List.length_pos_iff]
  omega

/-- A write that succeeds adds what it consumed. -/
theorem Kept.write {flushed : Ledger} {data : ByteArray} {n : Nat} (h : Kept base flushed c)
    (hwrite : c.write data = (.ok n, c')) : Kept base flushed c' ∧ c'.session.Drained := by
  obtain ⟨calls, hledger, hdirty⟩ := h.since
  obtain ⟨more, hlevel, hready, hmore, -⟩ := h.level.write h.ready hwrite
  obtain ⟨src', hdrive, -⟩ := h.ready.drive_of_write hwrite
  have soils_passed {status : Status} {d d' : Compressor (ω × Ledger) σ} {rest rest' : CursorBuffer}
      (hd : d.Ready) (hpassed : Passed .process d rest status d' rest') :
      Soils d.session d'.session := by
    obtain ⟨session, w, hran, hdrained, -⟩ := hpassed
    rw [drain_frame hdrained]
    exact EncoderSession.compress_soils hd.live hd.handle hran
  obtain ⟨d, rest, hd, hsoils, hlast⟩ := drive_passes (P := fun d _ => Soils c.session d.session)
    h.ready (.refl _) (fun d rest d' rest' hd hsoils hpassed => hsoils.trans (soils_passed hd hpassed))
    hdrive
  have hall := hsoils.trans (soils_passed hd hlast)
  obtain ⟨session, w, hran, hdrained, -⟩ := hlast
  obtain ⟨_, hdone⟩ := EncoderSession.done_of_compress hd.live hd.handle hran
  refine ⟨⟨hready, hlevel, calls ++ more, ?_, ?_⟩, ?_⟩
  · rw [hmore, hledger, List.append_assoc]
  · have htotals : c.session.totalIn < c'.session.totalIn ↔ more.consumed ≠ [] :=
      h.level.consumed_iff hlevel hmore
    rw [hall.isDirty, hdirty, htotals, Ledger.consumed_append, ne_eq, ne_eq, ne_eq,
      List.append_eq_nil_iff]
    tauto
  · rw [drain_frame hdrained]
    exact hdone.1

/-- A flush that succeeds leaves nothing to flush. -/
theorem Kept.flush {flushed : Ledger} (h : Kept base flushed c) (hflush : c.flush = (.ok (), c')) :
    Kept base c'.ledger c' ∧ c'.session.Drained ∧ c'.session.isDirty = false := by
  obtain ⟨calls, hlevel, hready, -⟩ := h.level.flush h.ready hflush
  obtain ⟨d, src', hdrive, hd, -, rfl⟩ := h.ready.drive_of_flush hflush
  obtain ⟨d₁, rest, hd₁, -, hlast⟩ := drive_passes (P := fun _ _ => True) h.ready trivial
    (fun _ _ _ _ _ _ _ => trivial) hdrive
  obtain ⟨session, w, hran, hdrained, -⟩ := hlast
  obtain ⟨_, -, hempty, hclean⟩ := EncoderSession.done_of_compress hd₁.live hd₁.handle hran
  obtain rfl : d.session = session := congrArg (·.session) (drain_frame hdrained)
  exact ⟨⟨hready, hlevel, [], (List.append_nil _).symm, by simp [hclean, Ledger.consumed]⟩, hempty, hclean⟩

end Ledger

theorem drained_new {registry : Registry ω σ δ} {world world' : ω} {sink : Sink} {o : CodecOptions}
    {options : StreamOptions} {c : Compressor ω σ} (h : registry.StartsEmpty)
    (hnew : Compressor.new registry world sink o options = (.ok c, world')) :
    (c.recorded []).session.Drained := by
  obtain ⟨factory, handle₁, world₁, handle, hfactory, hcreate, hconfigure, rfl⟩ := created hnew
  have hengine := h _ _ hfactory
  exact ⟨handle, rfl, hengine.configure _ (hengine.create _ _ _ hcreate) hconfigure⟩

/-- What requests with nothing to do come to, in a compressor whose last flush left the ledger at
`flushed`. -/
structure Idles (flushed : Ledger) (c : Compressor (ω × Ledger) σ) : Prop where
  /-- A write of nothing leaves everything as it is, the sink and the ledger included. -/
  write : c.session.isFinished = false → ∀ data, data.size = 0 → c.write data = (.ok 0, c)
  since : ∃ calls, c.ledger = flushed ++ calls ∧
    (c.session.isDirty = true ↔ calls.consumed ≠ []) ∧
    (c.session.isFinished = false → calls.consumed = [] →
      c.flush = (c.sink.flush.1.mapError .io, { c with sink := c.sink.flush.2 }))
  again : ∀ c', c.flush = (.ok (), c') → c'.session.isFinished = false →
    c'.flush = (c'.sink.flush.1.mapError .io, { c' with sink := c'.sink.flush.2 })

theorem Kept.idles {base : List UInt8} {flushed : Ledger} {c : Compressor (ω × Ledger) σ}
    (h : Kept base flushed c) (hdrained : c.session.Drained) : Idles flushed c where
  write hrunning data hdata := write_nothing h.ready hdrained hrunning hdata
  since := by
    obtain ⟨calls, hledger, hdirty⟩ := h.since
    refine ⟨calls, hledger, hdirty, fun hrunning hnone => ?_⟩
    have hclean : c.session.isDirty = false := by
      rw [← Bool.not_eq_true, hdirty]
      exact not_not_intro hnone
    exact flush_clean h.ready hdrained hrunning hclean
  again c' hflush hrunning := by
    obtain ⟨hkept, hempty, hclean⟩ := h.flush hflush
    exact flush_clean hkept.ready hempty hrunning hclean

/-- After any row of writes and flushes that succeeded a compressor is as `Kept` says, and once
there was a request its engine holds nothing. -/
theorem kept_of_smooth {registry : Registry ω σ δ} {world world' : ω} {sink : Sink}
    {o : CodecOptions} {options : StreamOptions} {c : Compressor ω σ}
    (hnew : Compressor.new registry world sink o options = (.ok c, world'))
    {requests : List Request} (hsmooth : (c.recorded []).Smooth requests) :
    Kept (octets sink.data) ((c.recorded []).serveAll (upToFlush requests)).ledger
        ((c.recorded []).serveAll requests) ∧
      (registry.StartsEmpty ∨ requests ≠ [] →
        ((c.recorded []).serveAll requests).session.Drained) := by
  refine smooth_induction (P := fun requests =>
    Kept (octets sink.data) ((c.recorded []).serveAll (upToFlush requests)).ledger
        ((c.recorded []).serveAll requests) ∧
      (registry.StartsEmpty ∨ requests ≠ [] →
        ((c.recorded []).serveAll requests).session.Drained)) ?_ ?_ ?_ requests hsmooth
  · have hclean : (c.recorded []).session.isDirty = false := by
      obtain ⟨factory, handle₁, world₁, handle, -, -, -, rfl⟩ := created hnew
      rfl
    have hlevel := (fresh_new registry world sink o options hnew).level
    refine ⟨⟨(ready_new hnew).recorded [], hlevel, [], (List.append_nil _).symm, ?_⟩, fun h => ?_⟩
    · simp [serveAll, hclean, Ledger.consumed]
    · exact drained_new (h.resolve_right (by simp)) hnew
  · rintro requests data n ⟨hkept, -⟩ hwrite
    obtain ⟨hkept', hempty⟩ := hkept.write hwrite
    rw [upToFlush_write]
    exact ⟨hkept', fun _ => hempty⟩
  · rintro requests ⟨hkept, -⟩ hflush
    obtain ⟨hkept', hempty, -⟩ := hkept.flush hflush
    rw [upToFlush_flush]
    exact ⟨hkept', fun _ => hempty⟩

theorem idles_of_smooth {registry : Registry ω σ δ} {world world' : ω} {sink : Sink}
    {o : CodecOptions} {options : StreamOptions} {c : Compressor ω σ}
    (hnew : Compressor.new registry world sink o options = (.ok c, world'))
    {requests : List Request} (hsmooth : (c.recorded []).Smooth requests)
    (hstart : registry.StartsEmpty ∨ requests ≠ []) :
    Idles ((c.recorded []).serveAll (upToFlush requests)).ledger
      ((c.recorded []).serveAll requests) := by
  obtain ⟨hkept, hdrained⟩ := kept_of_smooth hnew hsmooth
  exact hkept.idles (hdrained hstart)

/-- Over the codecs' engines and any libraries, after any row of writes and flushes that succeeded:
requests with nothing to do reach neither the engine nor the bytes of the sink, and the dirty flag
tells whether there is something to do. It holds of any other engine too, unless nothing was asked of
it yet and it holds output already. -/
theorem idle_requests (world world' : ω) (sink : Sink) (o : CodecOptions) (options : StreamOptions)
    (requests : List Request) :
    (∀ (backend : Backend ω) (c : Compressor ω EncoderHandle),
      Compressor.new backend.registry world sink o options = (.ok c, world') →
      (c.recorded []).Smooth requests →
      Idles ((c.recorded []).serveAll (upToFlush requests)).ledger
        ((c.recorded []).serveAll requests)) ∧
    ∀ {σ δ : Type} (registry : Registry ω σ δ) (c : Compressor ω σ),
      Compressor.new registry world sink o options = (.ok c, world') →
      (c.recorded []).Smooth requests → registry.StartsEmpty ∨ requests ≠ [] →
      Idles ((c.recorded []).serveAll (upToFlush requests)).ledger
        ((c.recorded []).serveAll requests) := by
  constructor
  · intro backend c hnew hsmooth
    exact idles_of_smooth hnew hsmooth (.inl backend.registry_startsEmpty)
  · intro σ δ registry c hnew hsmooth hstart
    exact idles_of_smooth hnew hsmooth hstart

theorem idle_requests_marked :
    (∃ c, Compressor.new Backend.refusing.registry () Marked.slowSink { codec := .zlib }
        Marked.stream₃ = (.ok c, ()) ∧
      (c.recorded []).Smooth [] ∧ Idles (c.recorded []).ledger (c.recorded [])) ∧
    ∃ c, Compressor.new Marked.registry () Marked.slowSink Marked.options Marked.stream₃ =
        (.ok c, ()) ∧
      (c.recorded []).Smooth [.write ⟨#[97]⟩, .flush] ∧
      Idles ((c.recorded []).serveAll [.write ⟨#[97]⟩, .flush]).ledger
        ((c.recorded []).serveAll [.write ⟨#[97]⟩, .flush]) := by
  have hsmooth : ((Marked.compressor Marked.slowSink Marked.stream₃).recorded []).Smooth
      [.write ⟨#[97]⟩, .flush] := by
    generalize hc : (Marked.compressor Marked.slowSink Marked.stream₃).recorded [] = c
    -- Each of the two requests is a single pass, which can be computed.
    have hwrite := drive_of_last .process c (.filled ⟨#[97]⟩) (by subst hc; cbv)
    generalize hpassed : (outcome .process c (.filled ⟨#[97]⟩)).2.1 = passed
    have hwritten : c.serve (.write ⟨#[97]⟩) = (.ok (some 1), passed) := by
      simp only [serve, write, hwrite]
      subst hc hpassed
      cbv
    have hflush := drive_of_last .flush passed (.filled ByteArray.empty) (by subst hc hpassed; cbv)
    have hflushed : (passed.serve .flush).1 = .ok none := by
      simp only [serve, flush, driveIdle, hflush]
      subst hc hpassed
      cbv
    refine ⟨trivial, by rw [hwritten]; rfl, trivial, ?_, trivial⟩
    rw [hwritten, hflushed]
    rfl
  obtain ⟨c, hnew⟩ : ∃ c, Compressor.new (ω := Unit) Backend.refusing.registry () Marked.slowSink
      { codec := .zlib } Marked.stream₃ = (.ok c, ()) := ⟨_, rfl⟩
  constructor
  · have hfresh := (idle_requests () () Marked.slowSink { codec := .zlib } Marked.stream₃ []).1
    exact ⟨c, hnew, trivial, hfresh Backend.refusing c hnew trivial⟩
  · have hserved := (idle_requests () () Marked.slowSink Marked.options Marked.stream₃
      [.write ⟨#[97]⟩, .flush]).2 Marked.registry _ (Marked.new_compressor ..) hsmooth
    exact ⟨_, Marked.new_compressor .., hsmooth, hserved (.inr (by simp))⟩

end Compressor

end StreamCodec
