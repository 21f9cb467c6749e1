import StreamCodec.Proofs.Chunking
import StreamCodec.Proofs.CompressorRun
import StreamCodec.Proofs.Drain
import StreamCodec.Proofs.EncoderContract

/-!
# Round trips

What goes in at a compressor comes out again at a decompressor, over any two
engines that keep their contracts and are made for each other: once the encoder
has finished, all that it emitted is a stream that the decoder decodes to all
that the encoder took in. The buffers, the cutting of the input, flushes between
the writes and the partial writes of the sink leave no trace.

`Encoding` is the invariant of the compressor. A drive comes to an end because
each pass that goes on has emitted a full buffer of what is owed.
-/
namespace StreamCodec.Compressor

variable {ω ε δ : Type} {engine : EncoderEngine ω ε} {parameters : List Parameter}
  {view : EncoderView ω ε}

/-- The invariant between two passes: the engine has taken in `x` and emitted `y`, and the sink has
all of `y`. -/
structure Encoding (engine : EncoderEngine ω ε) (view : EncoderView ω ε)
    (base : List UInt8) (c : Compressor ω ε) (finished : Bool) (x y : List UInt8) : Prop where
  stands : EncoderSession.Stands engine view c.session finished x y
  holdsSink : c.holdsSink = true
  isCompleted : c.isCompleted = false
  steady : c.sink.Steady
  flushable : c.sink.Flushable
  empty : octets c.output.unread = []
  pos : c.output.pos = 0
  capacity : 0 < c.output.capacity
  sink : octets c.sink.data = base ++ y

/-- The end of a drive over `input`: for a finish the engine is finished, else all is taken in. -/
structure Encoded (engine : EncoderEngine ω ε) (view : EncoderView ω ε)
    (base : List UInt8) (op : FlushOp) (x input : List UInt8) (c' : Compressor ω ε)
    (src' : CursorBuffer) : Prop where
  encoding : ∃ taken y, Encoding engine view base c' (decide (op = .finish)) (x ++ taken) y ∧
    input = taken ++ octets src'.unread
  taken : op ≠ .finish → octets src'.unread = [] ∧ c'.session.Ready view

/-- A drive under way: what was taken in and what is left are all of the input. -/
structure Feeding (engine : EncoderEngine ω ε) (view : EncoderView ω ε) (base : List UInt8)
    (op : FlushOp) (x input : List UInt8) (c : Compressor ω ε) (src : CursorBuffer) : Prop where
  encoding : ∃ taken y, Encoding engine view base c false (x ++ taken) y ∧
    input = taken ++ octets src.unread
  takes : c.session.Takes view op (octets src.unread)

/-- The invariant between two calls: no operation is under way. -/
structure Resting (engine : EncoderEngine ω ε) (view : EncoderView ω ε) (base : List UInt8)
    (c : Compressor ω ε) (x y : List UInt8) : Prop where
  encoding : Encoding engine view base c false x y
  ready : c.session.Ready view

def owes (view : EncoderView ω ε) (op : FlushOp) (c : Compressor ω ε)
    (src : CursorBuffer) : Nat :=
  c.session.owes view op (octets src.unread)

theorem Encoding.drained {base x y x' y' emitted : List UInt8} {c c' : Compressor ω ε}
    {finished finished' : Bool} {session : EncoderSession ω ε} {output : CursorBuffer}
    {sizes : List Nat} (h : Encoding engine view base c finished x y)
    (hs : EncoderSession.Stands engine view session finished' x' y') (hy : y' = y ++ emitted)
    (hout : octets output.unread = emitted) (hcap : output.capacity = c.output.capacity)
    (hd : Drained { c with session, output } c' sizes) :
    Encoding engine view base c' finished' x' y' where
  stands := by
    rw [hd.session]
    exact hs
  holdsSink := hd.holdsSink.trans h.holdsSink
  isCompleted := hd.isCompleted.trans h.isCompleted
  steady := hd.steady
  flushable := by
    rw [Sink.Flushable, hd.flushes]
    exact h.flushable
  empty := hd.empty
  pos := hd.pos
  capacity := by
    rw [hd.capacity]
    exact hcap ▸ h.capacity
  sink := by
    rw [hd.data, hout, hy, ← List.append_assoc, ← h.sink]

/-- A pass ends the drive, or it goes on with less owed. -/
theorem Feeding.pass (hc : engine.Encodes parameters view) (op : FlushOp)
    {base x input : List UInt8} {c : Compressor ω ε} {src : CursorBuffer}
    (h : Feeding engine view base op x input c src) :
    (∃ c' src', pass op c src = .inl (c', src') ∧ Feeding engine view base op x input c' src' ∧
      owes view op c' src' < owes view op c src) ∨
    ∃ c' src', pass op c src = .inr (.ok (), c', src') ∧
      Encoded engine view base op x input c' src' := by
  obtain ⟨⟨before, y, henc, hinput⟩, htakes⟩ := h
  have hcap := henc.capacity
  have hroom : c.output.availableWrite ≠ 0 := by
    have hsum := c.output.availableRead_add_availableWrite henc.pos
    have hnone := c.output.length_octets_unread
    rw [henc.empty, List.length_nil] at hnone
    omega
  obtain ⟨status, session, w, taken, emitted, hrun, hran⟩ :=
    EncoderSession.compress_encodes hc op henc.stands (w := ⟨src, c.output⟩) hroom
      htakes
  have hout : octets w.dst.unread = emitted := by
    rw [hran.dst, henc.empty, List.nil_append]
  have hsrc : octets src.unread = taken ++ octets w.src.unread := hran.src
  obtain ⟨c', hdrain, hd⟩ := drain_steady (c := { c with session, output := w.dst }) henc.steady
    henc.holdsSink (hran.pos.trans henc.pos)
  simp only [Compressor.pass, hrun, hdrain]
  rw [hsrc, ← List.append_assoc] at hinput
  have hafter : c'.session = session := hd.session
  rcases hran.ends with ⟨rfl, hstands, htaken⟩ | ⟨rfl, hstands, hfull, hmoreTakes, howes⟩
  · rw [List.append_assoc] at hstands
    rw [← hafter] at htaken
    exact .inr ⟨c', w.src, rfl, ⟨_, _, henc.drained hstands rfl hout hran.capacity hd, hinput⟩, htaken⟩
  · rw [List.append_assoc] at hstands
    rw [← hafter] at hmoreTakes howes
    refine .inl ⟨c', w.src, rfl,
      ⟨⟨_, _, henc.drained hstands rfl hout hran.capacity hd, hinput⟩, hmoreTakes⟩, ?_⟩
    have hmore : 0 < emitted.length := by
      have hsum : w.dst.availableRead + w.dst.availableWrite = c.output.capacity :=
        (w.dst.availableRead_add_availableWrite (hran.pos.trans henc.pos)).trans hran.capacity
      rw [← hout, CursorBuffer.length_octets_unread]
      omega
    have hless : emitted.length + owes view op c' w.src ≤ owes view op c src := howes
    omega

theorem Resting.drive (hc : engine.Encodes parameters view) (op : FlushOp) {base x y : List UInt8}
    {c : Compressor ω ε} (h : Resting engine view base c x y) (src : CursorBuffer) :
    ∃ c' src', drive op c src = (.ok (), c', src') ∧
      Encoded engine view base op x (octets src.unread) c' src' := by
  have start : Feeding engine view base op x (octets src.unread) c src :=
    ⟨⟨[], y, (List.append_nil x).symm ▸ h.encoding, rfl⟩, .inl h.ready⟩
  have kept : ∀ s s' : Compressor ω ε × CursorBuffer,
      Feeding engine view base op x (octets src.unread) s.1 s.2 → pass op s.1 s.2 = .inl s' →
      Feeding engine view base op x (octets src.unread) s'.1 s'.2 ∧
        owes view op s'.1 s'.2 < owes view op s.1 s.2 := by
    intro s s' hs hpass
    rcases hs.pass hc op with ⟨c', src', hgoes, hfeeding, hless⟩ | ⟨c', src', hends, -⟩
    · obtain rfl := Sum.inl.inj (hgoes.symm.trans hpass)
      exact ⟨hfeeding, hless⟩
    · rw [hends] at hpass
      cases hpass
  obtain ⟨result, hresult⟩ := exists_loop
    (fun s : Compressor ω ε × CursorBuffer => Feeding engine view base op x _ s.1 s.2)
    (fun s => owes view op s.1 s.2) kept (x := (c, src)) start
  obtain ⟨last, hlast, hpass⟩ := loop_invariant
    (fun s : Compressor ω ε × CursorBuffer => Feeding engine view base op x _ s.1 s.2)
    (fun s s' hs hgoes => (kept s s' hs hgoes).1) (x := (c, src)) start hresult
  rcases hlast.pass hc op with ⟨c', src', hgoes, -, -⟩ | ⟨c', src', hends, hencoded⟩
  · rw [hgoes] at hpass
    cases hpass
  · obtain rfl := Sum.inr.inj (hends.symm.trans hpass)
    exact ⟨c', src', by rw [Compressor.drive, hresult]; rfl, hencoded⟩

theorem Resting.write (hc : engine.Encodes parameters view) {base x y : List UInt8}
    {c : Compressor ω ε} (h : Resting engine view base c x y) (data : ByteArray) :
    ∃ c' y', c.write data = (.ok data.size, c') ∧
      Resting engine view base c' (x ++ octets data) y' := by
  obtain ⟨c', src', hdrive, ⟨taken, y', henc, hinput⟩, htaken⟩ := h.drive hc .process (.filled data)
  obtain ⟨hnone, hready⟩ := htaken (by decide)
  rw [hnone, List.append_nil, CursorBuffer.octets_unread_filled] at hinput
  have hall : src'.availableRead = 0 := by
    rw [← CursorBuffer.length_octets_unread, hnone, List.length_nil]
  refine ⟨c', y', ?_, hinput ▸ henc, hready⟩
  rw [Compressor.write, if_neg (by simp [h.encoding.stands.isDisposed]),
    if_neg (by simp [h.encoding.isCompleted]), hdrive]
  dsimp only
  rw [hall, Nat.sub_zero]

theorem Resting.writeAll (hc : engine.Encodes parameters view) {base x y : List UInt8}
    {c : Compressor ω ε} (h : Resting engine view base c x y) (data : ByteArray) :
    ∃ c' y', c.writeAll data = (.ok (), c') ∧
      Resting engine view base c' (x ++ octets data) y' := by
  rw [Compressor.writeAll]
  by_cases hz : data.size = 0
  · rw [dif_pos hz]
    refine ⟨c, y, rfl, ?_⟩
    rw [(octets_eq_nil_iff data).mpr hz, List.append_nil]
    exact h
  · obtain ⟨c', y', hwrite, hrest⟩ := h.write hc data
    refine ⟨c', y', ?_, hrest⟩
    rw [dif_neg hz, hwrite]
    dsimp only
    rw [dif_neg hz, Compressor.writeAll, dif_pos (by rw [ByteArray.size_extract]; omega)]

theorem Encoding.flushSink {base x y : List UInt8} {c : Compressor ω ε} {finished : Bool}
    (h : Encoding engine view base c finished x y) :
    ∃ c', c.flushSink = (.ok (), c') ∧ c'.session = c.session ∧
      Encoding engine view base c' finished x y := by
  obtain ⟨sink, hflush, hflushable, hdata, hwrites⟩ := Sink.flush_steady h.flushable
  refine ⟨{ c with sink }, ?_, rfl, ?_⟩
  · rw [Compressor.flushSink, if_neg (by simp [h.holdsSink]), hflush]
  refine ⟨h.stands, h.holdsSink, h.isCompleted, ?_, hflushable, h.empty, h.pos, h.capacity, ?_⟩
  · rw [Sink.Steady, hwrites]
    exact h.steady
  · rw [hdata]
    exact h.sink

theorem Resting.driveIdle (hc : engine.Encodes parameters view) (op : FlushOp)
    {base x y : List UInt8} {c : Compressor ω ε} (h : Resting engine view base c x y) :
    ∃ c' y', c.driveIdle op = (.ok (), c') ∧
      Encoding engine view base c' (decide (op = .finish)) x y' ∧
      (op ≠ .finish → c'.session.Ready view) := by
  obtain ⟨c', src', hdrive, ⟨taken, y', henc, hinput⟩, htaken⟩ :=
    h.drive hc op (.filled ByteArray.empty)
  rw [CursorBuffer.octets_unread_filled, octets_empty] at hinput
  rw [(List.append_eq_nil_iff.mp hinput.symm).1, List.append_nil] at henc
  exact ⟨c', y', by rw [Compressor.driveIdle, hdrive], henc, fun hop => (htaken hop).2⟩

theorem Resting.flush (hc : engine.Encodes parameters view) {base x y : List UInt8}
    {c : Compressor ω ε} (h : Resting engine view base c x y) :
    ∃ c' y', c.flush = (.ok (), c') ∧ Resting engine view base c' x y' := by
  obtain ⟨c', y', hdrive, henc, hready⟩ := h.driveIdle hc .flush
  obtain ⟨c'', hflush, hsession, henc'⟩ := Encoding.flushSink henc
  refine ⟨c'', y', ?_, henc', hsession ▸ hready (by decide)⟩
  rw [Compressor.flush, if_neg (by simp [h.encoding.stands.isDisposed]),
    if_neg (by simp [h.encoding.isCompleted]), hdrive]
  exact hflush

/-- Finishing hands the sink back, with all that the finished engine emitted. -/
theorem Resting.finish (hc : engine.Encodes parameters view) {base x y : List UInt8}
    {c : Compressor ω ε} (h : Resting engine view base c x y) :
    ∃ sink y' handle world, c.finish.1 = .ok sink ∧ octets sink.data = base ++ y' ∧
      view.At handle world x y' ∧ engine.isFinished handle = true := by
  obtain ⟨c', y', hdrive, henc, -⟩ := h.driveIdle hc .finish
  obtain ⟨handle, -, hat, hfinished⟩ := henc.stands.handle
  rw [henc.stands.engine] at hfinished
  have hcomplete : c.complete = { c' with isCompleted := true }.flushSink := by
    rw [Compressor.complete, if_neg (by simp [h.encoding.stands.isDisposed]),
      if_neg (by simp [h.encoding.isCompleted]), hdrive]
  obtain ⟨sink, hflush, -, hdata, -⟩ := Sink.flush_steady henc.flushable
  have hflushed : Compressor.flushSink { c' with isCompleted := true } =
      (.ok (), { c' with isCompleted := true, sink }) := by
    rw [Compressor.flushSink, if_neg (by simp [henc.holdsSink]), hflush]
  refine ⟨sink, y', handle, _, ?_, ?_, hat, hfinished⟩
  · rw [Compressor.finish, hcomplete, hflushed]
    dsimp only
    rw [if_pos henc.holdsSink]
  · rw [hdata]
    exact henc.sink

/-- What a compressor is fed with. -/
inductive Feed where
  | bytes (data : ByteArray)
  | flush

def Feed.plain : Feed → List UInt8
  | .bytes data => octets data
  | .flush => []

/-- Feeds a compressor, up to the first failure. -/
def feedAll (c : Compressor ω ε) : List Feed → Except CodecError Unit × Compressor ω ε
  | [] => (.ok (), c)
  | .bytes data :: feeds =>
    match c.writeAll data with
    | (.error e, c) => (.error e, c)
    | (.ok (), c) => c.feedAll feeds
  | .flush :: feeds =>
    match c.flush with
    | (.error e, c) => (.error e, c)
    | (.ok (), c) => c.feedAll feeds

theorem Resting.feedAll (hc : engine.Encodes parameters view) (feeds : List Feed)
    {base x y : List UInt8} {c : Compressor ω ε} (h : Resting engine view base c x y) :
    ∃ c' y', c.feedAll feeds = (.ok (), c') ∧
      Resting engine view base c' (x ++ feeds.flatMap Feed.plain) y' := by
  induction feeds generalizing c x y with
  | nil => exact ⟨c, y, rfl, (List.append_nil x).symm ▸ h⟩
  | cons feed feeds ih =>
    rw [List.flatMap_cons, ← List.append_assoc]
    cases feed with
    | bytes data =>
      obtain ⟨c', y', hwrite, hrest⟩ := h.writeAll hc data
      obtain ⟨c'', y'', hfeeds, hlast⟩ := ih hrest
      exact ⟨c'', y'', by rw [Compressor.feedAll, hwrite]; exact hfeeds, hlast⟩
    | flush =>
      obtain ⟨c', y', hflush, hrest⟩ := h.flush hc
      obtain ⟨c'', y'', hfeeds, hlast⟩ := ih hrest
      refine ⟨c'', y'', by rw [Compressor.feedAll, hflush]; exact hfeeds, ?_⟩
      rw [Feed.plain, List.append_nil]
      exact hlast

theorem resting_new {registry : Registry ω ε δ} {world world' : ω} {sink : Sink} {o : CodecOptions}
    {options : StreamOptions} {factory : Factory ω ε δ} {c : Compressor ω ε}
    (hfactory : registry.factory o.codec = .ok factory)
    (hc : factory.encoder.Encodes o.encoderParameters view) (hsteady : sink.Steady)
    (hflushable : sink.Flushable)
    (hnew : Compressor.new registry world sink o options = (.ok c, world')) :
    Resting factory.encoder view (octets sink.data) c [] [] := by
  obtain ⟨factory', handle₁, world₁, handle, hfactory', hcreate, hconf, rfl⟩ := created hnew
  obtain rfl := Except.ok.inj (hfactory.symm.trans hfactory')
  obtain ⟨hat, hunfinished, haccepts⟩ := hc.opens _ _ _ _ _ hcreate hconf
  refine ⟨⟨⟨rfl, rfl, handle, rfl, hat, hunfinished⟩, rfl, rfl, hsteady, hflushable,
    CursorBuffer.octets_unread_empty _, rfl, ?_, (List.append_nil _).symm⟩, fun handle' hh => ?_⟩
  · rw [CursorBuffer.capacity_withCapacity]
    exact options.capacity_pos
  · obtain rfl := Option.some.inj hh
    exact haccepts

/-- Streaming round trip. Over an encoder and a decoder that keep their contracts and are made for
each other, in front of a sink that never fails, every write and flush succeeds, finishing hands the
sink back, and a decompressor over the bytes that the sink then has delivers all plain bytes and
ends, whatever the sizes of the buffers, the pieces of the source and the destinations, and
whatever lies behind the stream. -/
theorem round_trip (registry : Registry ω ε δ) (world : ω) (sink : Sink) (o : CodecOptions)
    (options : StreamOptions) {factory : Factory ω ε δ} {c : Compressor ω ε} {world' : ω}
    (hfactory : registry.factory o.codec = .ok factory)
    (hc : factory.encoder.Encodes o.encoderParameters view)
    (hpair : ∀ handle world x y, view.At handle world x y →
      factory.encoder.isFinished handle = true →
      ∃ out At, factory.decoder.Decodes o.decoderParameters y x out At)
    (hsteady : sink.Steady) (hflushable : sink.Flushable)
    (hnew : Compressor.new registry world sink o options = (.ok c, world')) (feeds : List Feed) :
    ∃ fed sink' compressed, c.feedAll feeds = (.ok (), fed) ∧ fed.finish.1 = .ok sink' ∧
      octets sink'.data = octets sink.data ++ compressed ∧
      ∀ (world₁ world₂ : ω) (source : Source) (trailing : List UInt8) (options' : StreamOptions)
        (d : Decompressor ω δ) (dsts : List ByteArray), source.Plain →
        source.remaining = compressed ++ trailing →
        Decompressor.new registry world₁ source o options' = (.ok d, world₂) →
        Decompressor.Transcript (.ok 0) (feeds.flatMap Feed.plain) dsts (d.readAll dsts) := by
  obtain ⟨fed, y, hfed, hrest⟩ :=
    (resting_new hfactory hc hsteady hflushable hnew).feedAll hc feeds
  obtain ⟨sink', compressed, handle, world₀, hfinish, hdata, hat, hend⟩ := hrest.finish hc
  obtain ⟨out, At, hd⟩ := hpair handle world₀ _ _ hat hend
  refine ⟨fed, sink', compressed, hfed, hfinish, hdata, ?_⟩
  intro world₁ world₂ source trailing options' d dsts hsource hheld hopened
  have hreading := Decompressor.reading_new registry world₁ source o options' hfactory hd hsource hopened
  exact hreading.delivers_all hd hheld dsts

theorem round_trip_marked :
    ∃ c fed sink, Compressor.new Marked.registry () Marked.slowSink Marked.options Marked.stream₃ =
        (.ok c, ()) ∧
      c.feedAll [.bytes ⟨#[97]⟩, .flush, .bytes ⟨#[98, 99]⟩] = (.ok (), fed) ∧
      fed.finish.1 = .ok sink ∧
      ∀ dsts, Decompressor.Transcript (.ok 0) [97, 98, 99] dsts
        ((Marked.decompressor { piece := sink.data } Marked.stream₃).readAll dsts) := by
  have hfactory : Marked.registry.factory Marked.options.codec = .ok Marked.factory := rfl
  have hsteady : Marked.slowSink.Steady := by unfold Sink.Steady; decide
  obtain ⟨fed, sink, compressed, hfed, hfinish, hdata, hreads⟩ :=
    round_trip Marked.registry () Marked.slowSink Marked.options Marked.stream₃ hfactory
      (Marked.Encoder.encodes _) (fun _ _ x y hat hend => ⟨_, _, Marked.pairs _ hat hend⟩) hsteady
      nofun (Marked.new_compressor ..) [.bytes ⟨#[97]⟩, .flush, .bytes ⟨#[98, 99]⟩]
  refine ⟨_, fed, sink, Marked.new_compressor .., hfed, hfinish, fun dsts => ?_⟩
  refine hreads () () { piece := sink.data } [] Marked.stream₃ _ dsts nofun ?_
    (Marked.new_decompressor ..)
  rw [List.append_nil]
  exact (List.append_nil _).trans hdata

end StreamCodec.Compressor
