import StreamCodec.Proofs.CompressorRun
import StreamCodec.Proofs.Drain
import StreamCodec.Proofs.Marked

/-!
# Conservation through a compressor

In front of a steady sink nothing stays behind in a compressor: between two
requests its output buffer is empty, and the sink has exactly what the engine
produced. `Balanced` is that invariant and `Progress` says what a request adds
to it: a row of engine calls, and a row of chunks of which all but the last
have the size of the buffer. Both are carried pass by pass, so that they hold
after requests that fail as well.
-/
namespace StreamCodec.Compressor

variable {ω σ δ : Type}

/-- The invariant between two passes: the output is drained, and what the engine produced is in
the sink, behind the bytes that were there before. -/
structure Balanced (base : List UInt8) (c : Compressor (ω × Ledger) σ) : Prop where
  engine : ∃ engine : EncoderEngine ω σ, c.session.engine = engine.recording
  ready : c.session.IsReady
  holds : c.session.isDisposed = false → c.holdsSink = true
  steady : c.sink.Steady
  empty : octets c.output.unread = []
  pos : c.output.pos = 0
  sink : octets c.sink.data = base ++ c.ledger.produced
  totalIn : c.totalIn = c.ledger.consumed.length
  totalOut : c.totalOut = c.ledger.produced.length

/-- What was done between two states: the engine calls and, as sizes, the chunks handed to the
sink. -/
structure Progress (c : Compressor (ω × Ledger) σ) (calls : Ledger) (sizes : List Nat)
    (c' : Compressor (ω × Ledger) σ) : Prop where
  ledger : c'.ledger = c.ledger ++ calls
  capacity : c'.output.capacity = c.output.capacity
  journal : ∃ events, c'.sink.journal = events.reverse ++ c.sink.journal ∧
    ∀ more, Sink.chunkSizes 0 (events ++ more) = sizes ++ Sink.chunkSizes 0 more

namespace Progress

theorem refl (c : Compressor (ω × Ledger) σ) : Progress c [] [] c :=
  ⟨(List.append_nil _).symm, rfl, [], rfl, fun _ => rfl⟩

theorem trans {c c' c'' : Compressor (ω × Ledger) σ} {a b : Ledger} {m n : List Nat}
    (first : Progress c a m c') (second : Progress c' b n c'') : Progress c (a ++ b) (m ++ n) c'' := by
  obtain ⟨events, hj, hs⟩ := first.journal
  obtain ⟨events', hj', hs'⟩ := second.journal
  refine ⟨by rw [second.ledger, first.ledger, List.append_assoc],
    second.capacity.trans first.capacity, events ++ events', ?_, fun more => ?_⟩
  · rw [hj', hj, List.reverse_append, List.append_assoc]
  · rw [List.append_assoc, hs, hs', List.append_assoc]

end Progress

/-- The sizes of the chunks of one request: every chunk but the last is a full buffer. -/
structure FullButLast (capacity : Nat) (sizes : List Nat) : Prop where
  bounds : ∀ size ∈ sizes, 0 < size ∧ size ≤ capacity
  full : ∀ size ∈ sizes.dropLast, size = capacity

theorem FullButLast.replicate_append {capacity k : Nat} (hcap : 0 < capacity) {sizes : List Nat}
    (hlast : sizes.length ≤ 1) (h : ∀ size ∈ sizes, 0 < size ∧ size ≤ capacity) :
    FullButLast capacity (List.replicate k capacity ++ sizes) := by
  constructor
  · intro size hmem
    rcases List.mem_append.mp hmem with hk | hs
    · rw [List.eq_of_mem_replicate hk]
      exact ⟨hcap, Nat.le_refl _⟩
    · exact h size hs
  · intro size hmem
    match sizes, hlast with
    | [], _ =>
      rw [List.append_nil] at hmem
      exact List.eq_of_mem_replicate (List.mem_of_mem_dropLast hmem)
    | [last], _ =>
      rw [List.dropLast_concat] at hmem
      exact List.eq_of_mem_replicate hmem

/-- What one pass does: the invariant is kept, at most one chunk goes to the sink, and the source
loses what was consumed. -/
structure PassKeeps (base : List UInt8) (c : Compressor (ω × Ledger) σ) (src : CursorBuffer)
    (c' : Compressor (ω × Ledger) σ) (src' : CursorBuffer) (calls : Ledger) (sizes : List Nat) :
    Prop where
  balanced : Balanced base c'
  progress : Progress c calls sizes c'
  src : octets src.unread = calls.consumed ++ octets src'.unread
  atMostOne : sizes.length ≤ 1
  bounds : ∀ size ∈ sizes, 0 < size ∧ size ≤ c.output.capacity

/-- The invariant is carried by a session that ran and a drain after it. -/
theorem Balanced.drained {base : List UInt8} {c d : Compressor (ω × Ledger) σ} {w w' : Windows}
    {status : Status} {session : EncoderSession (ω × Ledger) σ} {calls : Ledger} {sizes : List Nat}
    (hb : Balanced base c) (hw : w.dst = c.output)
    (hends : EncoderSession.DriveEnds c.session w status session w' calls)
    (hd : Drained { c with session, output := w'.dst } d sizes) :
    Balanced base d ∧ Progress c calls sizes d := by
  have hcharged := hends.charged
  have hledger : d.ledger = c.ledger ++ calls := by
    rw [ledger, hd.session]
    exact hcharged.ledger
  have hout : octets w'.dst.unread = calls.produced := by
    rw [hends.moved.dst, hw, hb.empty, List.nil_append]
  refine ⟨⟨?_, ?_, ?_, hd.steady, hd.empty, hd.pos, ?_, ?_, ?_⟩, hledger, ?_, hd.journal⟩
  · rw [hd.session, hcharged.engine]
    exact hb.engine
  · rw [hd.session]
    intro hopen
    exact hcharged.handle (hb.ready (hcharged.isDisposed ▸ hopen))
  · rw [hd.session, hd.holdsSink]
    intro hopen
    exact hb.holds (hcharged.isDisposed ▸ hopen)
  · rw [hd.data, hout, hledger, Ledger.produced_append, ← List.append_assoc, ← hb.sink]
  · rw [hledger, Ledger.consumed_append, List.length_append, ← hb.totalIn, Compressor.totalIn,
      hd.session]
    exact hcharged.totalIn
  · rw [hledger, Ledger.produced_append, List.length_append, ← hb.totalOut, Compressor.totalOut,
      hd.session]
    exact hcharged.totalOut
  · rw [hd.capacity, ← hw]
    exact hends.moved.capacity

/-- A pass keeps the balance, and one that asks for another handed on a full buffer. -/
theorem Balanced.pass {base : List UInt8} {c : Compressor (ω × Ledger) σ} (hb : Balanced base c)
    (hcap : 0 < c.output.capacity) (op : FlushOp) (src : CursorBuffer) :
    ∃ c' src' calls sizes, PassKeeps base c src c' src' calls sizes ∧
      ((∃ result, pass op c src = .inr (result, c', src')) ∨
        (pass op c src = .inl (c', src') ∧ sizes = [c.output.capacity])) := by
  obtain ⟨engine, he⟩ := hb.engine
  rcases pass_ends op c he hb.ready src with
    ⟨e, hpass⟩ | ⟨hopen, status, session, w, calls, d, hends, hdrained⟩
  · exact ⟨c, src, [], [], ⟨hb, .refl c, rfl, by simp, by simp⟩, .inl ⟨_, hpass⟩⟩
  have hpos : w.dst.pos = 0 := hends.moved.pos.trans hb.pos
  have hroom : w.dst.availableRead + w.dst.availableWrite = c.output.capacity :=
    (w.dst.availableRead_add_availableWrite hpos).trans hends.moved.capacity
  -- A steady sink takes all of the output.
  obtain ⟨c', hok, hd⟩ := drain_steady (c := { c with session, output := w.dst }) hb.steady
    (hb.holds hopen) hpos
  obtain ⟨hbalanced, hprogress⟩ := hb.drained rfl hends hd
  refine ⟨c', w.src, calls, if w.dst.availableRead = 0 then [] else [w.dst.availableRead],
    ⟨hbalanced, hprogress, hends.moved.src, ?_, ?_⟩, ?_⟩
  · split <;> simp
  · split
    · simp
    · simp only [List.mem_singleton, forall_eq]
      omega
  · rcases hdrained with ⟨e, herr, -⟩ | ⟨hok', hpass⟩
    · rw [hok] at herr
      cases herr
    · obtain rfl := (Prod.mk.inj (hok.symm.trans hok')).2
      cases status with
      | done => exact .inl ⟨_, hpass⟩
      | needMoreData => exact .inl ⟨_, hpass⟩
      | invalidData => exact .inl ⟨_, hpass⟩
      | destinationTooSmall =>
        have hfull := hends.full rfl
        have hall : w.dst.availableRead = c.output.capacity := by omega
        refine .inr ⟨hpass, ?_⟩
        rw [hall, if_neg (by omega)]

/-- What a request does to the balance: the invariant is kept, what was consumed is a front part
of what was offered, and all chunks but the last were full. -/
structure Keeps (base : List UInt8) (c : Compressor (ω × Ledger) σ) (c' : Compressor (ω × Ledger) σ)
    (calls : Ledger) (sizes : List Nat) : Prop where
  balanced : Balanced base c'
  progress : Progress c calls sizes c'
  chunks : FullButLast c.output.capacity sizes

/-- A drive that is under way: so far every chunk was a full buffer. -/
def Underway (base : List UInt8) (c : Compressor (ω × Ledger) σ) (src : CursorBuffer)
    (d : Compressor (ω × Ledger) σ) (rest : CursorBuffer) : Prop :=
  ∃ calls k, Balanced base d ∧ Progress c calls (List.replicate k c.output.capacity) d ∧
    octets src.unread = calls.consumed ++ octets rest.unread

theorem Underway.again {base : List UInt8} {c d d' : Compressor (ω × Ledger) σ}
    {src rest rest' : CursorBuffer} {op : FlushOp} (h : Underway base c src d rest)
    (hcap : 0 < c.output.capacity) (hpass : Compressor.pass op d rest = .inl (d', rest')) :
    Underway base c src d' rest' := by
  obtain ⟨calls, k, hd, hprogress, hsrc⟩ := h
  have hcapd : d.output.capacity = c.output.capacity := hprogress.capacity
  obtain ⟨d₁, rest₁, calls', sizes, hkeeps, ⟨result, hend⟩ | ⟨hagain, hsizes⟩⟩ :=
    hd.pass (hcapd ▸ hcap) op rest
  · rw [hend] at hpass
    cases hpass
  · obtain ⟨rfl, rfl⟩ := Prod.mk.inj (Sum.inl.inj (hagain.symm.trans hpass))
    refine ⟨calls ++ calls', k + 1, hkeeps.balanced, ?_, ?_⟩
    · have hboth := hprogress.trans hkeeps.progress
      rwa [hsizes, hcapd, ← List.replicate_succ'] at hboth
    · rw [hsrc, hkeeps.src, Ledger.consumed_append, List.append_assoc]

theorem Underway.last {base : List UInt8} {c d d' : Compressor (ω × Ledger) σ}
    {src rest rest' : CursorBuffer} {op : FlushOp} {result : Except CodecError Unit}
    (h : Underway base c src d rest) (hcap : 0 < c.output.capacity)
    (hpass : Compressor.pass op d rest = .inr (result, d', rest')) :
    ∃ calls sizes, Keeps base c d' calls sizes ∧
      octets src.unread = calls.consumed ++ octets rest'.unread := by
  obtain ⟨calls, k, hd, hprogress, hsrc⟩ := h
  have hcapd : d.output.capacity = c.output.capacity := hprogress.capacity
  obtain ⟨d₁, rest₁, calls', sizes, hkeeps, ⟨result', hend⟩ | ⟨hagain, -⟩⟩ :=
    hd.pass (hcapd ▸ hcap) op rest
  · obtain ⟨-, rfl, rfl⟩ := Prod.mk.inj (Sum.inr.inj (hend.symm.trans hpass))
    refine ⟨calls ++ calls', _, ⟨hkeeps.balanced, hprogress.trans hkeeps.progress, ?_⟩, ?_⟩
    · exact .replicate_append hcap hkeeps.atMostOne (hcapd ▸ hkeeps.bounds)
    · rw [hsrc, hkeeps.src, Ledger.consumed_append, List.append_assoc]
  · rw [hagain] at hpass
    cases hpass

theorem Balanced.drive {base : List UInt8} {c : Compressor (ω × Ledger) σ} (hb : Balanced base c)
    (hcap : 0 < c.output.capacity) (op : FlushOp) (src : CursorBuffer) :
    ∃ calls sizes, Keeps base c (drive op c src).2.1 calls sizes ∧
      octets src.unread = calls.consumed ++ octets (drive op c src).2.2.unread := by
  rcases drive_cases op c src with hloop | hrefused
  · have start : Underway base c src c src := ⟨[], 0, hb, .refl c, rfl⟩
    obtain ⟨⟨d, rest⟩, hunderway, hlast⟩ := loop_invariant (fun x => Underway base c src x.1 x.2)
      (fun _ _ h hpass => h.again hcap hpass) start hloop
    exact hunderway.last hcap hlast
  · rw [hrefused]
    exact ⟨[], [], ⟨hb, .refl c, by simp, by simp⟩, rfl⟩

/-- A change that no byte is involved in: flags, the sink's signals, the end of the engine. -/
structure Quiet (c c' : Compressor (ω × Ledger) σ) : Prop where
  engine : c'.session.engine = c.session.engine
  world : c'.session.world = c.session.world
  totalIn : c'.totalIn = c.totalIn
  totalOut : c'.totalOut = c.totalOut
  output : c'.output = c.output
  handle : c'.session.isDisposed = false → c'.session.handle = c.session.handle
  holds : c'.session.isDisposed = false →
    c.session.isDisposed = false ∧ c'.holdsSink = c.holdsSink
  writes : c'.sink.writes = c.sink.writes
  data : c'.sink.data = c.sink.data
  journal : c'.sink.journal = c.sink.journal ∨
    ∃ event, Sink.Silent event ∧ c'.sink.journal = event :: c.sink.journal

theorem quiet_completed (c : Compressor (ω × Ledger) σ) : Quiet c { c with isCompleted := true } :=
  ⟨rfl, rfl, rfl, rfl, rfl, fun _ => rfl, fun h => ⟨h, rfl⟩, rfl, rfl, .inl rfl⟩

theorem quiet_disposed (c : Compressor (ω × Ledger) σ) :
    Quiet c { c with session := c.session.dispose } :=
  ⟨rfl, rfl, rfl, rfl, rfl, nofun, nofun, rfl, rfl, .inl rfl⟩

theorem quiet_flushSink (c : Compressor (ω × Ledger) σ) : Quiet c c.flushSink.2 := by
  obtain ⟨event, hsilent, hjournal, hdata, hwrites⟩ := c.sink.flush_silent
  unfold flushSink
  split
  · exact ⟨rfl, rfl, rfl, rfl, rfl, fun _ => rfl, fun h => ⟨h, rfl⟩, rfl, rfl, .inl rfl⟩
  · split
    all_goals
      next hflush =>
      rw [hflush] at hjournal hdata hwrites
      exact ⟨rfl, rfl, rfl, rfl, rfl, fun _ => rfl, fun h => ⟨h, rfl⟩, hwrites, hdata,
        .inr ⟨event, hsilent, hjournal⟩⟩

theorem quiet_releaseSink {c : Compressor (ω × Ledger) σ} (h : c.session.isDisposed = true) :
    Quiet c c.releaseSink := by
  have hnot : ¬c.session.isDisposed = false := by simp [h]
  unfold releaseSink
  split
  · exact ⟨rfl, rfl, rfl, rfl, rfl, fun hd => absurd hd hnot, fun hd => absurd hd hnot, rfl, rfl,
      .inr ⟨_, Sink.silent_dropped, rfl⟩⟩
  · exact ⟨rfl, rfl, rfl, rfl, rfl, fun _ => rfl, fun hd => absurd hd hnot, rfl, rfl, .inl rfl⟩

theorem Balanced.refused {base : List UInt8} {c : Compressor (ω × Ledger) σ} (hb : Balanced base c) :
    Keeps base c c [] [] :=
  ⟨hb, .refl c, by simp, by simp⟩

theorem Keeps.quiet {base : List UInt8} {c d d' : Compressor (ω × Ledger) σ} {calls : Ledger}
    {sizes : List Nat} (h : Keeps base c d calls sizes) (hq : Quiet d d') :
    Keeps base c d' calls sizes := by
  have hb := h.balanced
  have hledger : d'.ledger = d.ledger := congrArg Prod.snd hq.world
  refine ⟨⟨?_, ?_, ?_, ?_, ?_, ?_, ?_, ?_, ?_⟩, ⟨?_, ?_, ?_⟩, h.chunks⟩
  · rw [hq.engine]
    exact hb.engine
  · intro hopen
    rw [hq.handle hopen]
    exact hb.ready (hq.holds hopen).1
  · intro hopen
    rw [(hq.holds hopen).2]
    exact hb.holds (hq.holds hopen).1
  · rw [Sink.Steady, hq.writes]
    exact hb.steady
  · rw [hq.output, hb.empty]
  · rw [hq.output, hb.pos]
  · rw [hq.data, hledger, hb.sink]
  · rw [hq.totalIn, hledger, hb.totalIn]
  · rw [hq.totalOut, hledger, hb.totalOut]
  · rw [hledger, h.progress.ledger]
  · rw [hq.output, h.progress.capacity]
  · obtain ⟨events, hjournal, hsizes⟩ := h.progress.journal
    rcases hq.journal with hsame | ⟨event, hsilent, hmore⟩
    · exact ⟨events, hsame.trans hjournal, hsizes⟩
    · refine ⟨events ++ [event], by rw [hmore, hjournal]; simp, fun more => ?_⟩
      rw [List.append_assoc, hsizes]
      exact congrArg _ (hsilent 0 more)

structure Serves (base : List UInt8) (c : Compressor (ω × Ledger) σ) (request : Request)
    (result : Except CodecError (Option Nat)) (c' : Compressor (ω × Ledger) σ) (calls : Ledger)
    (sizes : List Nat) : Prop where
  keeps : Keeps base c c' calls sizes
  front : calls.consumed <+: request.offered
  count : ∀ n, result = .ok (some n) → calls.consumed.length = n

theorem Balanced.driveIdle {base : List UInt8} {c : Compressor (ω × Ledger) σ} (hb : Balanced base c)
    (hcap : 0 < c.output.capacity) (op : FlushOp) :
    ∃ calls sizes, Keeps base c (driveIdle c op).2 calls sizes ∧ calls.consumed = [] := by
  obtain ⟨calls, sizes, hkeeps, hsrc⟩ := hb.drive hcap op (.filled ByteArray.empty)
  rw [CursorBuffer.octets_unread_filled, octets_empty] at hsrc
  exact ⟨calls, sizes, hkeeps, (List.append_eq_nil_iff.mp hsrc.symm).1⟩

theorem Balanced.write {base : List UInt8} {c : Compressor (ω × Ledger) σ} (hb : Balanced base c)
    (hcap : 0 < c.output.capacity) (data : ByteArray) :
    ∃ calls sizes, Keeps base c (c.write data).2 calls sizes ∧ calls.consumed <+: octets data ∧
      ∀ n, (c.write data).1 = .ok n → calls.consumed.length = n := by
  unfold Compressor.write
  split
  · exact ⟨[], [], hb.refused, List.nil_prefix, nofun⟩
  · split
    · exact ⟨[], [], hb.refused, List.nil_prefix, nofun⟩
    · obtain ⟨calls, sizes, hkeeps, hsrc⟩ := hb.drive hcap .process (.filled data)
      rw [CursorBuffer.octets_unread_filled] at hsrc
      have hfront : calls.consumed <+: octets data := ⟨_, hsrc.symm⟩
      split
      · next hdrive =>
        rw [hdrive] at hkeeps
        exact ⟨calls, sizes, hkeeps, hfront, nofun⟩
      · next src' hdrive =>
        rw [hdrive] at hkeeps hsrc
        refine ⟨calls, sizes, hkeeps, hfront, fun n hn => ?_⟩
        have hlen : data.size = calls.consumed.length + src'.availableRead := by
          rw [← length_octets, hsrc, List.length_append, CursorBuffer.length_octets_unread]
        have := Except.ok.inj hn
        omega

theorem Balanced.flush {base : List UInt8} {c : Compressor (ω × Ledger) σ} (hb : Balanced base c)
    (hcap : 0 < c.output.capacity) :
    ∃ calls sizes, Keeps base c c.flush.2 calls sizes ∧ calls.consumed = [] := by
  unfold Compressor.flush
  split
  · exact ⟨[], [], hb.refused, rfl⟩
  · split
    · exact ⟨[], [], hb.refused.quiet (quiet_flushSink c), rfl⟩
    · obtain ⟨calls, sizes, hkeeps, hnone⟩ := hb.driveIdle hcap .flush
      split
      · next hdrive =>
        rw [hdrive] at hkeeps
        exact ⟨calls, sizes, hkeeps, hnone⟩
      · next c' hdrive =>
        rw [hdrive] at hkeeps
        exact ⟨calls, sizes, hkeeps.quiet (quiet_flushSink c'), hnone⟩

theorem Balanced.complete {base : List UInt8} {c : Compressor (ω × Ledger) σ} (hb : Balanced base c)
    (hcap : 0 < c.output.capacity) :
    ∃ calls sizes, Keeps base c c.complete.2 calls sizes ∧ calls.consumed = [] := by
  unfold Compressor.complete
  split
  · exact ⟨[], [], hb.refused, rfl⟩
  · split
    · exact ⟨[], [], hb.refused, rfl⟩
    · obtain ⟨calls, sizes, hkeeps, hnone⟩ := hb.driveIdle hcap .finish
      split
      · next hdrive =>
        rw [hdrive] at hkeeps
        exact ⟨calls, sizes, hkeeps, hnone⟩
      · next c' hdrive =>
        rw [hdrive] at hkeeps
        exact ⟨calls, sizes, (hkeeps.quiet (quiet_completed c')).quiet (quiet_flushSink _), hnone⟩

theorem Balanced.dispose {base : List UInt8} {c : Compressor (ω × Ledger) σ} (hb : Balanced base c)
    (hcap : 0 < c.output.capacity) :
    ∃ calls sizes, Keeps base c c.dispose calls sizes ∧ calls.consumed = [] := by
  unfold Compressor.dispose
  split
  · exact ⟨[], [], hb.refused, rfl⟩
  · have hcompleted : ∃ calls sizes,
        Keeps base c (if c.isCompleted then c else c.complete.2) calls sizes ∧ calls.consumed = [] := by
      split
      · exact ⟨[], [], hb.refused, rfl⟩
      · exact hb.complete hcap
    obtain ⟨calls, sizes, hkeeps, hnone⟩ := hcompleted
    refine ⟨calls, sizes, ?_, hnone⟩
    generalize (if c.isCompleted then c else c.complete.2) = d at hkeeps ⊢
    have hgone := hkeeps.quiet (quiet_disposed d)
    dsimp only
    split
    · exact hgone
    · exact hgone.quiet (quiet_releaseSink rfl)

/-- Every request keeps the balance, whether it succeeds or fails. -/
theorem Balanced.serve {base : List UInt8} {c : Compressor (ω × Ledger) σ} (hb : Balanced base c)
    (hcap : 0 < c.output.capacity) (request : Request) :
    ∃ calls sizes, Serves base c request (c.serve request).1 (c.serve request).2 calls sizes := by
  cases request with
  | write data =>
    obtain ⟨calls, sizes, hkeeps, hfront, hcount⟩ := hb.write hcap data
    refine ⟨calls, sizes, hkeeps, hfront, fun n hn => hcount n ?_⟩
    cases hw : (c.write data).1 with
    | error e => simp [Compressor.serve, hw, Except.map] at hn
    | ok m =>
      simp only [Compressor.serve, Prod.map_fst, hw, Except.map, Except.ok.injEq,
        Option.some.injEq] at hn
      rw [hn]
  | flush =>
    obtain ⟨calls, sizes, hkeeps, hnone⟩ := hb.flush hcap
    refine ⟨calls, sizes, hkeeps, hnone ▸ List.nil_prefix, fun n hn => ?_⟩
    cases hf : c.flush.1 <;> simp [Compressor.serve, hf, Except.map] at hn
  | complete =>
    obtain ⟨calls, sizes, hkeeps, hnone⟩ := hb.complete hcap
    refine ⟨calls, sizes, hkeeps, hnone ▸ List.nil_prefix, fun n hn => ?_⟩
    cases hf : c.complete.1 <;> simp [Compressor.serve, hf, Except.map] at hn
  | dispose =>
    obtain ⟨calls, sizes, hkeeps, hnone⟩ := hb.dispose hcap
    exact ⟨calls, sizes, hkeeps, hnone ▸ List.nil_prefix, nofun⟩

theorem Balanced.serveAll {base : List UInt8} (requests : List Request)
    {c : Compressor (ω × Ledger) σ} (hb : Balanced base c) (hcap : 0 < c.output.capacity) :
    Balanced base (c.serveAll requests) ∧
      (c.serveAll requests).output.capacity = c.output.capacity := by
  induction requests generalizing c with
  | nil => exact ⟨hb, rfl⟩
  | cons request rest ih =>
    obtain ⟨calls, sizes, hserves⟩ := hb.serve hcap request
    have hsame := hserves.keeps.progress.capacity
    have hrest := ih hserves.keeps.balanced (hsame ▸ hcap)
    exact ⟨hrest.1, hrest.2.trans hsame⟩

theorem Fresh.balanced {c : Compressor (ω × Ledger) σ} {sink : Sink} {options : StreamOptions}
    (h : Fresh c sink options) (hs : sink.Steady) : Balanced (octets sink.data) c where
  engine := h.engine
  ready := fun _ => h.handle
  holds := fun _ => h.holdsSink
  steady := h.sink ▸ hs
  empty := by rw [h.output]; exact CursorBuffer.octets_unread_empty _
  pos := by rw [h.output]; rfl
  sink := by rw [h.sink, h.ledger, Ledger.produced_nil, List.append_nil]
  totalIn := by rw [h.totalIn, h.ledger]; rfl
  totalOut := by rw [h.totalOut, h.ledger]; rfl

/-- What holds once a request is served, from `before` to `after`. Chunks are the pieces that the
sink was handed, however many writes each of them took. -/
structure Conserved (base : List UInt8) (capacity : Nat) (before : Compressor (ω × Ledger) σ)
    (request : Request) (result : Except CodecError (Option Nat))
    (after : Compressor (ω × Ledger) σ) : Prop where
  sink : octets after.sink.data = base ++ after.ledger.produced
  drained : after.output.isEmpty = true
  totalOut : base.length + after.totalOut = after.sink.data.size
  totalIn : after.totalIn = after.ledger.consumed.length
  consumed : ∃ calls, after.ledger = before.ledger ++ calls ∧
    calls.consumed <+: request.offered ∧ ∀ n, result = .ok (some n) → calls.consumed.length = n
  chunks : ∃ events, after.sink.journal = events.reverse ++ before.sink.journal ∧
    FullButLast capacity (Sink.chunkSizes 0 events)

/-- Over any engine and in front of a sink whose writes go through, every request conserves the
bytes, whatever was requested before and whether it succeeds or fails. -/
theorem requests_conserve (registry : Registry ω σ δ) (world : ω) (sink : Sink) (o : CodecOptions)
    (options : StreamOptions) {c : Compressor ω σ} {world' : ω} (hsteady : sink.Steady)
    (hnew : Compressor.new registry world sink o options = (.ok c, world'))
    (requests : List Request) (request : Request) :
    Conserved (octets sink.data) options.capacity ((c.recorded []).serveAll requests) request
      (((c.recorded []).serveAll requests).serve request).1
      (((c.recorded []).serveAll requests).serve request).2 := by
  have hfresh := fresh_new registry world sink o options hnew
  have hcap : (c.recorded []).output.capacity = options.capacity := by
    rw [hfresh.output, CursorBuffer.capacity_withCapacity]
  have hpos : 0 < (c.recorded []).output.capacity := hcap ▸ options.capacity_pos
  obtain ⟨hb, hsame⟩ := (hfresh.balanced hsteady).serveAll requests hpos
  obtain ⟨calls, sizes, hserves⟩ := hb.serve (hsame ▸ hpos) request
  obtain ⟨⟨hafter, hprogress, hchunks⟩, hfront, hcount⟩ := hserves
  have hempty := CursorBuffer.octets_unread_eq_nil_iff _ |>.mp hafter.empty
  refine ⟨hafter.sink, hempty, ?_, hafter.totalIn, ⟨calls, hprogress.ledger, hfront, hcount⟩, ?_⟩
  · rw [← length_octets (Compressor.sink _).data, hafter.sink, List.length_append, hafter.totalOut]
  · obtain ⟨events, hjournal, hsizes⟩ := hprogress.journal
    have hall := hsizes []
    rw [List.append_nil, Sink.chunkSizes, List.append_nil] at hall
    exact ⟨events, hjournal, by rw [hall, ← hcap, ← hsame]; exact hchunks⟩

theorem requests_conserve_marked :
    ∃ c, Compressor.new Marked.registry () Marked.slowSink Marked.options Marked.stream₃ =
        (.ok c, ()) ∧
      ∃ d, (c.recorded []).serveAll [.write ⟨#[97, 98]⟩, .flush] = d ∧
        Conserved [] 3 d .complete (d.serve .complete).1 (d.serve .complete).2 ∧
        (d.serve .complete).1 = .ok none ∧ (d.serve .complete).2.sink.data = ⟨#[1, 97, 1, 98, 0]⟩ ∧
        (d.serve .complete).2.ledger.consumed = [97, 98] := by
  have hsteady : Marked.slowSink.Steady := by unfold Sink.Steady; decide
  refine ⟨_, Marked.new_compressor .., _, rfl, requests_conserve Marked.registry () Marked.slowSink
    Marked.options Marked.stream₃ hsteady (Marked.new_compressor ..) _ _, ?_⟩
  generalize hc : (Marked.compressor Marked.slowSink Marked.stream₃).recorded [] = c
  -- The write is two passes, since its output exceeds the buffer. The flush and the completion are one.
  have hwrite : drive .process c (.filled ⟨#[97, 98]⟩) = _ :=
    drive_of_two (by subst hc; cbv) (by subst hc; cbv)
  generalize hpassed : (c.serve (.write ⟨#[97, 98]⟩)).2 = passed
  have hserved : c.serveAll [.write ⟨#[97, 98]⟩, .flush] = (passed.serve .flush).2 := by
    rw [← hpassed]
    rfl
  simp only [serve, write, hwrite] at hpassed
  have hflush := drive_of_last .flush passed (.filled ByteArray.empty) (by subst hc hpassed; cbv)
  generalize hsettled : (passed.serve .flush).2 = settled at hserved
  simp only [serve, flush, driveIdle, hflush] at hsettled
  have hfinish := drive_of_last .finish settled (.filled ByteArray.empty)
    (by subst hc hpassed hsettled; cbv)
  rw [hserved]
  simp only [serve, complete, driveIdle, hfinish]
  subst hc hpassed hsettled
  refine ⟨?_, ?_, ?_⟩ <;> cbv

end StreamCodec.Compressor
