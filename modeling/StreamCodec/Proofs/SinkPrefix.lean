import StreamCodec.Proofs.CompressorSteps
import StreamCodec.Proofs.Marked

/-!
# What sinks that fail were given

A sink that takes part of a chunk and then fails is given a byte twice exactly
when it takes anything afterwards: the buffer keeps the whole chunk, and the
next drain offers it again from its first byte. Where that does not happen, the
sink's bytes are a front part of what the engine produced.

`Account` is the invariant: all that was produced is either gone from the
output buffer or still in it, and the handovers are placed at the border
between the two.
-/
namespace StreamCodec.Compressor

variable {ω σ δ : Type}

/-- The invariant along a path. `gone` is what has left the output buffer. -/
structure Account (base : List UInt8) (hs : List Handover) (gone : List UInt8)
    (c : Compressor (ω × Ledger) σ) : Prop where
  engine : ∃ engine : EncoderEngine ω σ, c.session.engine = engine.recording
  ready : c.session.IsReady
  produced : c.ledger.produced = gone ++ octets c.output.unread
  totalOut : c.totalOut = c.ledger.produced.length
  sink : octets c.sink.data = base ++ hs.flatMap fun h => h.bytes c.ledger.produced
  placed : Placed c.ledger.produced.length gone.length hs

namespace Account

variable {base gone : List UInt8} {hs : List Handover} {c c' : Compressor (ω × Ledger) σ}

theorem run (ha : Account base hs gone c) {op : FlushOp} {src : CursorBuffer}
    {result : Except CodecError Status} {session : EncoderSession (ω × Ledger) σ} {w : Windows}
    (h : c.session.compress op ⟨src, c.output⟩ = (result, session, w)) :
    Account base hs gone { c with session, output := w.dst } := by
  obtain ⟨engine, he⟩ := ha.engine
  rcases EncoderSession.compress_ends op c.session he ha.ready ⟨src, c.output⟩ with
    ⟨e, hrefused⟩ | ⟨-, status, s', w', calls, hran, hends⟩
  · obtain ⟨-, hrest⟩ := Prod.mk.inj (h.symm.trans hrefused)
    obtain ⟨rfl, rfl⟩ := Prod.mk.inj hrest
    exact ha
  obtain ⟨-, hrest⟩ := Prod.mk.inj (h.symm.trans hran)
  obtain ⟨rfl, rfl⟩ := Prod.mk.inj hrest
  have hcharged := hends.charged
  have hproduced : (ledger { c with session, output := w.dst }).produced =
      c.ledger.produced ++ calls.produced := by
    rw [← Ledger.produced_append]
    exact congrArg Ledger.produced hcharged.ledger
  have hunread : octets w.dst.unread = octets c.output.unread ++ calls.produced := hends.moved.dst
  constructor
  · exact ⟨engine, hcharged.engine.trans he⟩
  · intro hopen
    exact hcharged.handle (ha.ready (hcharged.isDisposed ▸ hopen))
  · rw [hproduced, ha.produced, List.append_assoc]
    exact congrArg _ hunread.symm
  · rw [hproduced, List.length_append, ← ha.totalOut]
    exact hcharged.totalOut
  · rw [hproduced, ha.placed.flatMap_bytes_append]
    exact ha.sink
  · rw [hproduced, List.length_append]
    exact ha.placed.grow _

theorem quiet (ha : Account base hs gone c) (engine : c'.session.engine = c.session.engine)
    (ready : c'.session.IsReady) (world : c'.session.world = c.session.world)
    (output : c'.output = c.output) (totalOut : c'.totalOut = c.totalOut)
    (data : c'.sink.data = c.sink.data) : Account base hs gone c' := by
  have hledger : c'.ledger = c.ledger := congrArg Prod.snd world
  constructor
  · exact engine ▸ ha.engine
  · exact ready
  · rw [hledger, output, ha.produced]
  · rw [hledger, totalOut, ha.totalOut]
  · rw [hledger, data, ha.sink]
  · rw [hledger]
    exact ha.placed

theorem length (ha : Account base hs gone c) :
    gone.length + c.output.availableRead = c.totalOut := by
  rw [ha.totalOut, ha.produced, List.length_append, CursorBuffer.length_octets_unread]

/-- Where output is handed to the sink, the border moves past it if all of it was taken. -/
theorem hands (ha : Account base hs gone c) {taken : Nat} (hfull : c.output.isEmpty = false)
    (hands : Hands c c' taken) : ∃ gone', Account base (hs ++ [c.chunk taken]) gone' c' := by
  have hledger : c'.ledger = c.ledger := congrArg (·.world.2) hands.session
  have hread : 0 < c.output.availableRead := by
    refine Nat.pos_of_ne_zero fun hz => ?_
    rw [c.output.isEmpty_iff.mpr hz] at hfull
    cases hfull
  have hlen := ha.length
  have hstart : (c.chunk taken).start = gone.length := Nat.sub_eq_of_eq_add hlen.symm
  have hplaced : Placed c.ledger.produced.length
      (if taken = c.output.availableRead then c.ledger.produced.length else gone.length)
      (hs ++ [c.chunk taken]) :=
    ha.placed.snoc hstart hread (hlen.trans ha.totalOut) hands.le
  have hsink : octets c'.sink.data =
      base ++ (hs ++ [c.chunk taken]).flatMap fun h => h.bytes c'.ledger.produced := by
    rw [hledger, hands.data, ha.sink, List.flatMap_append, List.flatMap_singleton, Handover.bytes,
      hstart, List.append_assoc]
    congr 3
    rw [ha.produced, List.drop_left]
  have engine : ∃ engine : EncoderEngine ω σ, c'.session.engine = engine.recording := by
    rw [hands.session]
    exact ha.engine
  have ready : c'.session.IsReady := by
    rw [hands.session]
    exact ha.ready
  have htotal : c'.totalOut = c'.ledger.produced.length := by
    rw [hledger, ← ha.totalOut]
    exact congrArg (·.totalOut) hands.session
  rw [← hledger] at hplaced
  rcases hands.rest with ⟨hwhole, hempty⟩ | ⟨hpart, hsame⟩
  · rw [if_pos hwhole] at hplaced
    refine ⟨c'.ledger.produced, engine, ready, ?_, htotal, hsink, hplaced⟩
    rw [hempty, List.append_nil]
  · rw [if_neg (Nat.ne_of_lt hpart)] at hplaced
    refine ⟨gone, engine, ready, ?_, htotal, hsink, hplaced⟩
    rw [hledger, hsame]
    exact ha.produced

theorem drain (ha : Account base hs gone c) {result : Except CodecError Unit}
    (h : c.drain = (result, c')) : ∃ gone', Account base (hs ++ handover c c') gone' c' := by
  unfold handover
  split
  · next hidle =>
    rw [drain_idle (by simpa using hidle) h, List.append_nil]
    exact ⟨gone, ha⟩
  · next hbusy =>
    obtain ⟨hfull, hheld⟩ : c.output.isEmpty = false ∧ c.holdsSink = true := by simpa using hbusy
    obtain ⟨taken, hands⟩ := drain_hands hfull hheld h
    have htaken : c'.sink.data.size - c.sink.data.size = taken := by
      have hdata := congrArg List.length hands.data
      have hle := hands.le
      rw [List.length_append, List.length_take, length_octets, length_octets,
        CursorBuffer.length_octets_unread] at hdata
      omega
    rw [htaken]
    exact ha.hands hfull hands

theorem flushSink (ha : Account base hs gone c) : Account base hs gone c.flushSink.2 := by
  obtain ⟨event, -, -, hdata, -⟩ := c.sink.flush_silent
  unfold Compressor.flushSink
  split
  · exact ha
  · split
    all_goals
      next hflush =>
      rw [hflush] at hdata
      exact ha.quiet rfl ha.ready rfl rfl rfl hdata

theorem releaseSink (ha : Account base hs gone c) : Account base hs gone c.releaseSink := by
  unfold Compressor.releaseSink
  split
  · exact ha.quiet rfl ha.ready rfl rfl rfl rfl
  · exact ha

theorem step (ha : Account base hs gone c) {h : List Handover} (next : Step c h c') :
    ∃ gone', Account base (hs ++ h) gone' c' := by
  cases next with
  | run hrun =>
    rw [List.append_nil]
    exact ⟨gone, ha.run hrun⟩
  | drain hdrain => exact ha.drain hdrain
  | flushSink =>
    rw [List.append_nil]
    exact ⟨gone, ha.flushSink⟩
  | complete =>
    rw [List.append_nil]
    exact ⟨gone, ha.quiet rfl ha.ready rfl rfl rfl rfl⟩
  | dispose =>
    rw [List.append_nil]
    exact ⟨gone, ha.quiet rfl nofun rfl rfl rfl rfl⟩
  | release =>
    rw [List.append_nil]
    exact ⟨gone, ha.releaseSink⟩
  | handBack =>
    rw [List.append_nil]
    exact ⟨gone, ha.quiet rfl ha.ready rfl rfl rfl rfl⟩

theorem path (ha : Account base [] gone c) {hs : List Handover} (h : Path c hs c') :
    ∃ gone', Account base hs gone' c' := by
  induction h with
  | refl => exact ⟨gone, ha⟩
  | step _ next ih =>
    obtain ⟨gone', ha'⟩ := ih
    exact ha'.step next

end Account

theorem Fresh.account {c : Compressor (ω × Ledger) σ} {sink : Sink} {options : StreamOptions}
    (h : Fresh c sink options) : Account (octets sink.data) [] [] c where
  engine := h.engine
  ready := fun _ => h.handle
  produced := by
    rw [h.ledger, h.output, CursorBuffer.withCapacity, CursorBuffer.octets_unread_empty]
    rfl
  totalOut := by rw [h.totalOut, h.ledger]; rfl
  sink := by rw [h.sink]; exact (List.append_nil _).symm
  placed := .nil _

/-- What holds at a moment of a run, after these handovers: the sink has the bytes that it took of
them and no others. Each was taken once, and all of them in order, exactly if the row is intact,
and then the sink's bytes are a front part of what the engine produced. -/
structure Accepted (base : List UInt8) (hs : List Handover) (c : Compressor (ω × Ledger) σ) :
    Prop where
  sink : octets c.sink.data = base ++ hs.flatMap fun h => h.bytes c.ledger.produced
  inside : ∀ h ∈ hs, h.taken ≤ h.offered ∧ h.start + h.offered ≤ c.ledger.produced.length
  once : hs.Pairwise Handover.Apart ↔ Intact hs
  inOrder : (∃ n, hs.flatMap Handover.positions = List.range n) ↔ Intact hs
  front : Intact hs → (hs.flatMap fun h => h.bytes c.ledger.produced) <+: c.ledger.produced

/-- Runs of a compressor over any engine and any sink, their ending included. -/
theorem accepted_along_runs (registry : Registry ω σ δ) (world : ω) (sink : Sink) (o : CodecOptions)
    (options : StreamOptions) {c : Compressor ω σ} {world' : ω}
    (hnew : Compressor.new registry world sink o options = (.ok c, world')) :
    (∀ hs c', Path (c.recorded []) hs c' → Accepted (octets sink.data) hs c') ∧
      ∀ requests, Leads (c.recorded []) ((c.recorded []).serveAll requests) ∧
        ∀ ending, Leads ((c.recorded []).serveAll requests)
          (((c.recorded []).serveAll requests).endWith ending) := by
  refine ⟨fun hs c' hpath => ?_, fun requests => ?_⟩
  · obtain ⟨gone, ha⟩ := (fresh_new registry world sink o options hnew).account.path hpath
    exact ⟨ha.sink, ha.placed.inside, ha.placed.apart, ha.placed.inOrder_iff,
      ha.placed.prefix_of_intact⟩
  · exact ⟨serveAll_leads requests _, fun ending => endWith_leads _ ending⟩

theorem accepted_along_runs_marked :
    ∃ c, Compressor.new Marked.registry () Marked.tearingSink Marked.options Marked.stream₃ =
        (.ok c, ()) ∧
      ∃ written ended, Path (c.recorded []) written ((c.recorded []).serveAll [.write ⟨#[97]⟩]) ∧
        Path (c.recorded []) (written ++ ended)
          (((c.recorded []).serveAll [.write ⟨#[97]⟩]).endWith .finish) ∧
        Accepted [] (written ++ ended)
          (((c.recorded []).serveAll [.write ⟨#[97]⟩]).endWith .finish) := by
  obtain ⟨haccepted, hleads⟩ := accepted_along_runs Marked.registry () Marked.tearingSink
    Marked.options Marked.stream₃ (Marked.new_compressor ..)
  obtain ⟨⟨written, hwritten⟩, hends⟩ := hleads [.write ⟨#[97]⟩]
  obtain ⟨ended, hended⟩ := hends .finish
  have hrun := hwritten.trans hended
  exact ⟨_, Marked.new_compressor .., written, ended, hwritten, hrun, haccepted _ _ hrun⟩

/-- A sink that takes the first byte of a chunk, fails, and is then given the chunk again when the
compressor is finished. Its bytes are no front part of what the engine produced. -/
theorem sink_given_twice :
    ∃ c, Compressor.new Marked.registry () Marked.tearingSink Marked.options Marked.stream₃ =
        (.ok c, ()) ∧
      ¬octets (((c.recorded []).serveAll [.write ⟨#[97]⟩]).endWith .finish).sink.data <+:
        (((c.recorded []).serveAll [.write ⟨#[97]⟩]).endWith .finish).ledger.produced := by
  refine ⟨_, Marked.new_compressor .., ?_⟩
  generalize hc : (Marked.compressor Marked.tearingSink Marked.stream₃).recorded [] = c
  -- Each of the two calls is a single pass, which can be computed.
  have hwrite := drive_of_last .process c (.filled ⟨#[97]⟩) (by subst hc; cbv)
  generalize hpassed : (outcome .process c (.filled ⟨#[97]⟩)).2.1 = passed
  have hwritten : c.serveAll [.write ⟨#[97]⟩] = passed := by
    simp only [serveAll, List.foldl_cons, List.foldl_nil, serve, write, hwrite]
    subst hc hpassed
    cbv
  have hfinish := drive_of_last .finish passed (.filled ByteArray.empty) (by subst hc hpassed; cbv)
  have hsink : octets (passed.endWith .finish).sink.data = [1, 1, 97, 0] := by
    simp only [endWith, finish, complete, driveIdle, hfinish]
    subst hc hpassed
    cbv
  have hproduced : (passed.endWith .finish).ledger.produced = [1, 97, 0] := by
    simp only [endWith, finish, complete, driveIdle, hfinish]
    subst hc hpassed
    cbv
  rw [hwritten, hsink, hproduced]
  decide

end StreamCodec.Compressor
