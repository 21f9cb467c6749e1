import StreamCodec.Proofs.Completion
import StreamCodec.Proofs.Marked
import StreamCodec.Proofs.ReadConservation
import StreamCodec.Proofs.ReadReturns
import StreamCodec.Proofs.SmoothRuns
import StreamCodec.Proofs.SourceText
import StreamCodec.Proofs.TransferRecording

/-!
# What a transfer that succeeds has done

A compression that answers a count has had its engine consume the bytes that the
source brought before its first empty answer, each once and in order, and come to
its end; a decompression has read until its decompressor had nothing more. Either
way the sink has taken all bytes that the engine produced and no others, as many as
the count says, and was flushed after the last of them. That holds for any engine,
any source, any sink and any size of the buffers.
-/
namespace StreamCodec

variable {ω σ ε δ : Type}

namespace Compressor

/-- A compressor in front of a sink that is being fed, and nothing has failed so far. -/
structure Fed (sink : Sink) (c : Compressor (ω × Ledger) σ) : Prop where
  level : Level (octets sink.data) c
  ready : c.Ready
  standing : Standing sink c

variable {sink : Sink} {c c' : Compressor (ω × Ledger) σ}

theorem fed_new {registry : Registry ω σ δ} {world world' : ω} {o : CodecOptions}
    {options : StreamOptions} {c : Compressor ω σ}
    (hnew : Compressor.new registry world sink o options = (.ok c, world')) :
    Fed sink (c.recorded []) where
  level := (fresh_new registry world sink o options hnew).level
  ready := (ready_new hnew).recorded []
  standing := standing_new hnew

/-- A write of all bytes that succeeds has consumed them, however many single writes it took. -/
theorem Fed.writeAll {data : ByteArray} (h : Fed sink c) (hwrite : c.writeAll data = (.ok (), c')) :
    ∃ calls, Fed sink c' ∧ c'.ledger = c.ledger ++ calls ∧ calls.consumed = octets data := by
  fun_induction c.writeAll data with
  | case1 c data hz =>
    cases hwrite
    exact ⟨[], h, (List.append_nil _).symm, ((octets_eq_nil_iff data).mpr hz).symm⟩
  | case2 | case3 => cases hwrite
  | case4 c data hz n d hfirst hn ih =>
    obtain ⟨calls, hlevel, hready, hledger, hconsumed, -⟩ := h.level.write h.ready hfirst
    have hstanding := h.standing.write data
    rw [hfirst] at hstanding
    obtain ⟨more, hfed, hledger', hmore⟩ := ih ⟨hlevel, hready, hstanding⟩ hwrite
    refine ⟨calls ++ more, hfed, ?_, ?_⟩
    · rw [hledger', hledger, List.append_assoc]
    · rw [Ledger.consumed_append, hconsumed, hmore, octets_extract_size, List.take_append_drop]

theorem writeAll_of_write {c d : Compressor ω σ} {data : ByteArray} (hdata : data.size ≠ 0)
    (hwrite : c.write data = (.ok data.size, d)) : c.writeAll data = (.ok (), d) := by
  rw [writeAll, dif_neg hdata, hwrite]
  dsimp only
  rw [dif_neg hdata, writeAll, dif_pos (by rw [ByteArray.size_extract]; omega)]

/-- A completion that succeeds consumes nothing more. The bytes are in the sink, which was flushed
after them. -/
theorem Fed.complete (h : Fed sink c) (hcomplete : c.complete = (.ok (), c')) :
    ∃ calls, Level (octets sink.data) c' ∧ Succeeds sink sink.Steady c c' ∧
      c'.ledger = c.ledger ++ calls ∧ calls.consumed = [] := by
  obtain ⟨d, src', hdrive, hready, -, rfl⟩ := h.ready.drive_of_complete hcomplete
  obtain ⟨calls, hlevel, hledger, hsrc⟩ := h.level.drive h.ready hdrive
  rw [CursorBuffer.octets_unread_filled, octets_empty] at hsrc
  have hafter : Level (octets sink.data) { d with isCompleted := true, sink := d.sink.flush.2 } :=
    ⟨hlevel.flushSink.engine, hlevel.flushSink.sink, hlevel.totalIn, hlevel.totalOut⟩
  have hsucceeds := h.standing.complete.2
  rw [hcomplete] at hsucceeds
  exact ⟨calls, hafter, hsucceeds rfl fun _ => hafter.sink, hledger,
    (List.append_eq_nil_iff.mp hsrc.symm).1⟩

end Compressor

namespace Sink

theorem data_of_writeAll {s s' : Sink} {chunk : ByteArray} (h : s.writeAll chunk = (.ok (), s')) :
    octets s'.data = octets s.data ++ octets chunk := by
  obtain ⟨count, hdata, hend⟩ := writeAllFrom_takes s.writes s chunk
  rw [← writeAll, h] at hdata hend
  rcases hend with ⟨-, rfl⟩ | ⟨⟨e, herror⟩, -⟩
  · rwa [← length_octets, List.take_length] at hdata
  · cases herror

theorem flushed_of_flush {s before after : Sink} (hjournal : s.journal <:+ before.journal)
    (h : before.flush = (.ok (), after)) :
    after.data = before.data ∧
      ∃ events, after.drop.journal = events ++ s.journal ∧ .signalled .flush ∈ sinceWrite events := by
  obtain ⟨events, hsignals, hnoted⟩ := before.flush_signals
  rw [h] at hsignals hnoted
  obtain ⟨earlier, hearlier⟩ := hjournal
  have hall := hsignals.trans after.signals_drop
  refine ⟨hsignals.data, [.dropped] ++ events ++ earlier, ?_, ?_⟩
  · rw [hall.journal, ← hearlier, List.append_assoc, List.append_assoc, List.append_assoc]
  · rw [sinceWrite_append hall.noWrite]
    exact List.mem_append_left _ (List.mem_append_right _ (hnoted.ok rfl))

end Sink

namespace Transfer

open Compressor (Fed)

/-- The chunk into which a transfer reads. -/
def blank (bufferSize : UInt64) : ByteArray :=
  ⟨Array.replicate ({ bufferSize } : StreamOptions).capacity 0⟩

theorem size_blank (bufferSize : UInt64) : 0 < (blank bufferSize).size := by
  show 0 < (Array.replicate ({ bufferSize } : StreamOptions).capacity (0 : UInt8)).size
  rw [Array.size_replicate]
  exact StreamOptions.capacity_pos _

section Feeding

variable {source : Source} {chunk : ByteArray}

/-- The engine of a compressor that is fed consumes what the source brings. -/
theorem fed_feed {sink : Sink} {c : Compressor (ω × Ledger) σ} (h : Fed sink c)
    (hfeed : (feed source chunk c).1 = .ok ()) :
    ∃ calls, Fed sink (feed source chunk c).2.2 ∧
      (feed source chunk c).2.2.ledger = c.ledger ++ calls ∧
      calls.consumed = source.heard chunk := by
  fun_induction feed source chunk c with
  | case1 | case3 | case4 => cases hfeed
  | case2 source chunk c delivery left hread hz =>
    exact ⟨[], h, (List.append_nil _).symm, (Source.heard_of_empty hread hz).symm⟩
  | case5 source chunk c delivery left hread hz ho filled d hwrite ih =>
    obtain ⟨calls, hd, hledger, hconsumed⟩ := h.writeAll hwrite
    obtain ⟨more, hfed, hledger', hmore⟩ := ih hd hfeed
    refine ⟨calls ++ more, hfed, ?_, ?_⟩
    · rw [hledger', hledger, List.append_assoc]
    · rw [Ledger.consumed_append, hconsumed, hmore, Source.heard_of_piece hread hz ho]

theorem feed_of_end {left : Source} {delivery : Delivery}
    (hread : source.readPatiently chunk.size = (.ok delivery, left)) (hz : delivery.reported = 0)
    (c : Compressor ω σ) : feed source chunk c = (.ok (), left, c) := by
  rw [feed, hread]
  exact dif_pos hz

/-- A truthful source that was read up to an empty answer has brought the bytes before it. -/
theorem heard_of_feed {c : Compressor ω σ} (hs : source.Truthful) (hchunk : 0 < chunk.size)
    (hfeed : (feed source chunk c).1 = .ok ()) : source.heard chunk = source.untilEmpty := by
  fun_induction feed source chunk c with
  | case1 | case3 | case4 => cases hfeed
  | case2 source chunk c delivery left hread hz =>
    have hbrings := Source.brings_readPatiently hs hchunk
    rw [hread] at hbrings
    rw [Source.heard_of_empty hread hz, hbrings.none delivery rfl hz]
  | case5 source chunk c delivery left hread hz ho filled d hwrite ih =>
    have hbrings := Source.brings_readPatiently hs hchunk
    have hhands := Source.hands_readPatiently hs chunk.size
    rw [hread] at hbrings hhands
    have hle : delivery.reported ≤ chunk.size := Nat.le_of_not_lt ho
    have hsize : delivery.bytes.size = delivery.reported := hhands.size delivery rfl hle
    have hfilled : 0 < filled.size := by
      show 0 < (overlay chunk 0 delivery.bytes).size
      rw [size_overlay _ _ _ (Nat.zero_le _)]
      exact hchunk
    have hfit : (octets delivery.bytes).length ≤ chunk.size := by
      rw [length_octets, hsize]
      exact hle
    have hbytes : octets (filled.extract 0 delivery.reported) = octets delivery.bytes := by
      rw [octets_extract_zero, octets_overlay, List.take_zero, List.nil_append, Nat.sub_zero,
        List.take_of_length_le hfit]
      exact List.take_left' ((length_octets _).trans hsize)
    rw [Source.heard_of_piece hread hz ho, hbrings.bytes delivery rfl hz hle, ← hbytes,
      ← ih hhands.truthful hfilled hfeed]

end Feeding

/-- The compressor of a transfer once it is completed. -/
def completed (source : Source) (bufferSize : UInt64) (c : Compressor ω σ) : Compressor ω σ :=
  (feed source (blank bufferSize) c).2.2.complete.2

/-- A compression that answers `n`, told by the compressor that it began with. -/
structure Compressed (source : Source) (sink : Sink) (bufferSize : UInt64) (c : Compressor ω σ)
    (t : Transfer ω) (n : Nat) : Prop where
  same : completed source bufferSize (c.recorded []) =
    (completed source bufferSize c).recorded (completed source bufferSize (c.recorded [])).ledger
  world : t.world = (completed source bufferSize c).session.world
  isFinished : (completed source bufferSize c).session.isFinished = true
  consumed : (completed source bufferSize (c.recorded [])).ledger.consumed =
    source.heard (blank bufferSize)
  truthful : source.Truthful → source.heard (blank bufferSize) = source.untilEmpty
  data : octets t.sink.data =
    octets sink.data ++ (completed source bufferSize (c.recorded [])).ledger.produced
  count : (completed source bufferSize (c.recorded [])).ledger.produced.length = n
  flushed : ∃ events, t.sink.journal = events ++ sink.journal ∧
    .signalled .flush ∈ sinceWrite events

theorem compress_ok {registry : Registry ω ε δ} {world : ω} {source : Source} {sink : Sink}
    {options : CodecOptions} {bufferSize : UInt64} {t : Transfer ω} {n : Nat}
    (ht : compress registry world source sink options bufferSize = t) (hok : t.result = .ok n) :
    ∃ c world' left fed d back e,
      Compressor.new registry world sink options { bufferSize } = (.ok c, world') ∧
      feed source (blank bufferSize) c = (.ok (), left, fed) ∧ fed.complete = (.ok (), d) ∧
      d.finish = (.ok back, e) ∧ d.totalOut = n ∧ t.sink = back.drop ∧ t.world = e.session.world := by
  unfold compress at ht
  dsimp only at ht
  split at ht
  · subst ht
    cases hok
  · next c world' hnew =>
    split at ht
    · subst ht
      cases hok
    · subst ht
      cases hok
    · next left fed hfeed =>
      split at ht
      · subst ht
        cases hok
      · next d hcomplete =>
        split at ht
        · subst ht
          cases hok
        · next back e hfinish =>
          subst ht
          exact ⟨c, world', left, fed, d, back, e, hnew, hfeed, hcomplete, hfinish,
            Except.ok.inj hok, rfl, rfl⟩

/-- A compressor that is completed already hands its sink back, and nothing else happens. -/
theorem finish_of_completed {d e : Compressor ω σ} {back : Sink}
    (hlive : d.session.isDisposed = false) (hcompleted : d.isCompleted = true)
    (h : d.finish = (.ok back, e)) : back = d.sink ∧ e.session = d.session := by
  have hdead : ¬d.session.isDisposed = true := by simp [hlive]
  rw [Compressor.finish, Compressor.complete, if_neg hdead, if_pos hcompleted] at h
  dsimp only at h
  split at h
  · cases h
    exact ⟨rfl, rfl⟩
  · cases h

theorem compressed {registry : Registry ω ε δ} {world : ω} {source : Source} {sink : Sink}
    {options : CodecOptions} {bufferSize : UInt64} {n : Nat}
    (h : (compress registry world source sink options bufferSize).result = .ok n) :
    ∃ c world', Compressor.new registry world sink options { bufferSize } = (.ok c, world') ∧
      Compressed source sink bufferSize c
        (compress registry world source sink options bufferSize) n := by
  obtain ⟨c, world', left, fed, d, back, e, hnew, hfeed, hcomplete, hfinish, htotal, hsink, hworld⟩ :=
    compress_ok rfl h
  -- The same run over the recording engine.
  obtain ⟨ledger₁, hfeed'⟩ := recorded_feed source (blank bufferSize) c []
  obtain ⟨ledger₂, hcomplete'⟩ := Compressor.recorded_complete fed ledger₁
  rw [hfeed] at hfeed'
  rw [hcomplete] at hcomplete'
  have hd : completed source bufferSize c = d := by
    rw [completed, hfeed, hcomplete]
  have hd' : completed source bufferSize (c.recorded []) = d.recorded ledger₂ := by
    rw [completed, hfeed', hcomplete']
  have hfed : Fed sink (c.recorded []) := Compressor.fed_new hnew
  have hok : (feed source (blank bufferSize) (c.recorded [])).1 = .ok () := by rw [hfeed']
  obtain ⟨calls, hfed, hledger, hconsumed⟩ := fed_feed hfed hok
  rw [hfeed'] at hfed hledger
  obtain ⟨more, hlevel, hsucceeds, hledger', hnone⟩ := hfed.complete hcomplete'
  have hready : fed.Ready := ⟨hfed.ready.live, hfed.ready.handle, hfed.ready.holdsSink,
    hfed.ready.notCompleted, hfed.ready.isEmpty, hfed.ready.pos, hfed.ready.room⟩
  obtain ⟨d₀, -, -, hready₀, -, hd₀⟩ := hready.drive_of_complete hcomplete
  have hlive : d.session.isDisposed = false := by
    rw [hd₀]
    exact hready₀.live
  have hcompleted : d.isCompleted = true := by rw [hd₀]
  obtain ⟨rfl, hsession⟩ := finish_of_completed hlive hcompleted hfinish
  refine ⟨c, world', hnew, ?_, ?_, ?_, ?_, ?_, ?_, ?_, ?_⟩
  · rw [hd, hd']
    rfl
  · rw [hd, hworld, hsession]
  · rw [hd]
    exact hsucceeds.isFinished
  · have hstart : (c.recorded []).ledger = [] := rfl
    rw [hd', hledger', hledger, hstart, List.nil_append, Ledger.consumed_append, hconsumed, hnone,
      List.append_nil]
  · exact fun hs => heard_of_feed hs (size_blank bufferSize) (by rw [hfeed])
  · rw [hd', hsink]
    exact hlevel.sink
  · rw [hd', ← htotal]
    exact hlevel.totalOut.symm
  · obtain ⟨events, hjournal, hflushed⟩ := hsucceeds.flushed
    have hincomplete : (fed.recorded ledger₁).isCompleted = false := hfed.ready.notCompleted
    have hsignalled : .signalled .flush ∈ sinceWrite events := by
      refine hflushed.resolve_right fun hearlier => ?_
      rw [hincomplete] at hearlier
      cases hearlier.1
    refine ⟨.dropped :: events, ?_, List.mem_cons_of_mem _ hsignalled⟩
    rw [hsink]
    exact congrArg _ hjournal

/-- A decompression under way over a recording engine: what was produced is in the sink and is what
the sum says. -/
structure Poured (sink : Sink) (p : Pouring (ω × Ledger) σ) : Prop where
  opened : p.decompressor.Open
  data : octets p.sink.data = octets sink.data ++ p.decompressor.ledger.produced
  total : p.total = p.decompressor.ledger.produced.length
  journal : sink.journal <:+ p.sink.journal

section Pouring

variable {sink : Sink} {p p' : Pouring (ω × Ledger) σ}

/-- A read that answers a count leaves what was produced in it at the front of the chunk. -/
theorem Poured.read (h : Poured sink p) {count : Nat} {chunk : ByteArray}
    {d : Decompressor (ω × Ledger) σ} (hread : p.decompressor.read p.chunk = (.ok count, chunk, d)) :
    ∃ calls, d.Open ∧ d.ledger = p.decompressor.ledger ++ calls ∧
      octets (chunk.extract 0 count) = calls.produced ∧ count = calls.produced.length := by
  obtain ⟨calls, hmoves, hreturns⟩ := Decompressor.moves_read h.opened p.chunk
  rw [hread] at hmoves hreturns
  have hsound : Decompressor.Sound [((.ok count : Except CodecError Nat), chunk)] := by
    intro answer hmem codec detail
    rw [List.mem_singleton.mp hmem]
    exact nofun
  have hbytes := hreturns.bytes hsound
  have hcount := hreturns.count hsound
  refine ⟨calls, hmoves.opened h.opened, hmoves.ledger, ?_, hcount⟩
  rw [octets_extract_zero, ← hbytes]
  exact (List.append_nil _).symm

theorem Poured.round (h : Poured sink p) (hround : p.round = .inl p') : Poured sink p' := by
  unfold Pouring.round at hround
  split at hround
  · cases hround
  · next count chunk d hread =>
    obtain ⟨calls, hopen, hledger, hbytes, hcount⟩ := h.read hread
    split at hround
    · split at hround <;> cases hround
    · split at hround
      · cases hround
      · next sink' hwrite =>
        cases hround
        have hjournal := Sink.writeAllFrom_journal p.sink.writes p.sink (chunk.extract 0 count)
        rw [← Sink.writeAll, hwrite] at hjournal
        refine ⟨hopen, ?_, ?_, h.journal.trans hjournal⟩
        · rw [Sink.data_of_writeAll hwrite, h.data, hbytes, hledger, Ledger.produced_append,
            List.append_assoc]
        · show p.total + count = _
          rw [h.total, hcount, hledger, Ledger.produced_append, List.length_append]

theorem Poured.last (h : Poured sink p) {n : Nat} {d : Decompressor (ω × Ledger) σ} {sink' : Sink}
    (hround : p.round = .inr (.ok n, d, sink')) :
    octets sink'.data = octets sink.data ++ d.ledger.produced ∧ d.ledger.produced.length = n ∧
      ∃ events, sink'.drop.journal = events ++ sink.journal ∧
        .signalled .flush ∈ sinceWrite events := by
  unfold Pouring.round at hround
  split at hround
  · cases hround
  · next count chunk d hread =>
    obtain ⟨calls, -, hledger, -, hcount⟩ := h.read hread
    split at hround
    · next hz =>
      have hnone : calls.produced = [] := List.length_eq_zero_iff.mp (hcount.symm.trans hz)
      split at hround
      · cases hround
      · next hflush =>
        cases hround
        obtain ⟨hdata, hflushed⟩ := Sink.flushed_of_flush h.journal hflush
        rw [hdata, hledger, Ledger.produced_append, hnone, List.append_nil]
        exact ⟨h.data, h.total.symm, hflushed⟩
    · split at hround <;> cases hround

theorem pour_of_rounds {d d' : Decompressor ω σ} {chunk : ByteArray} {sink sink' : Sink} {n : Nat}
    {p : Pouring ω σ} (hfirst : Pouring.round ⟨d, chunk, sink, 0⟩ = .inl p)
    (hlast : p.round = .inr (.ok n, d', sink')) : pour d chunk sink = (.ok n, d', sink') := by
  rw [pour, loop_eq, hfirst]
  dsimp only
  rw [loop_eq, hlast]
  rfl

theorem poured {d d' : Decompressor (ω × Ledger) σ} {chunk : ByteArray} {sink sink' : Sink} {n : Nat}
    (hopen : d.Open) (hfresh : d.ledger = []) (h : pour d chunk sink = (.ok n, d', sink')) :
    octets sink'.data = octets sink.data ++ d'.ledger.produced ∧ d'.ledger.produced.length = n ∧
      ∃ events, sink'.drop.journal = events ++ sink.journal ∧
        .signalled .flush ∈ sinceWrite events := by
  have start : Poured sink ⟨d, chunk, sink, 0⟩ := by
    refine ⟨hopen, ?_, ?_, List.suffix_rfl⟩
    · show octets sink.data = octets sink.data ++ d.ledger.produced
      rw [hfresh, Ledger.produced_nil, List.append_nil]
    · show 0 = d.ledger.produced.length
      rw [hfresh]
      rfl
  unfold pour at h
  cases hloop : loop Pouring.round ⟨d, chunk, sink, 0⟩ with
  | none =>
    rw [hloop] at h
    cases h
  | some answer =>
    rw [hloop] at h
    obtain rfl : answer = _ := h
    obtain ⟨p, hp, hlast⟩ := loop_invariant (Poured sink) (fun _ _ h hround => h.round hround) start
      hloop
    exact hp.last hlast

end Pouring

/-- A decompression that answers `n`, told by the decompressor that it began with. -/
structure Decompressed (sink : Sink) (bufferSize : UInt64) (d : Decompressor ω σ) (t : Transfer ω)
    (n : Nat) : Prop where
  same : (pour (d.recorded []) (blank bufferSize) sink).2.1 =
    (pour d (blank bufferSize) sink).2.1.recorded
      (pour (d.recorded []) (blank bufferSize) sink).2.1.ledger
  world : t.world = (pour d (blank bufferSize) sink).2.1.session.world
  data : octets t.sink.data =
    octets sink.data ++ (pour (d.recorded []) (blank bufferSize) sink).2.1.ledger.produced
  count : (pour (d.recorded []) (blank bufferSize) sink).2.1.ledger.produced.length = n
  flushed : ∃ events, t.sink.journal = events ++ sink.journal ∧
    .signalled .flush ∈ sinceWrite events

theorem decompressed {registry : Registry ω ε δ} {world : ω} {source : Source} {sink : Sink}
    {codec : Codec} {bufferSize : UInt64} {n : Nat}
    (h : (decompress registry world source sink codec bufferSize).result = .ok n) :
    ∃ d world', Decompressor.new registry world source { codec } { bufferSize } = (.ok d, world') ∧
      Decompressed sink bufferSize d
        (decompress registry world source sink codec bufferSize) n := by
  generalize ht : decompress registry world source sink codec bufferSize = t at h ⊢
  unfold decompress at ht
  dsimp only at ht
  split at ht
  · subst ht
    cases h
  · next d world' hnew =>
    subst ht
    refine ⟨d, world', hnew, ?_⟩
    obtain ⟨factory, -, -, handle, -, -, -, hd⟩ := Decompressor.created hnew
    have hopen : (d.recorded []).Open := by
      rw [hd]
      exact ⟨⟨factory.decoder, rfl⟩, rfl, rfl⟩
    obtain ⟨ledger, hrecording⟩ := recorded_pour d (blank bufferSize) sink []
    rcases hplain : pour d (blank bufferSize) sink with ⟨result, last, sink'⟩
    have hunfolded : pour d ⟨Array.replicate ({ bufferSize } : StreamOptions).capacity 0⟩ sink =
        (result, last, sink') := hplain
    rw [hunfolded] at h ⊢
    rw [hplain] at hrecording
    cases result with
    | error e => cases h
    | ok total =>
      obtain rfl : total = n := Except.ok.inj h
      obtain ⟨hdata, hcount, hflushed⟩ := poured hopen rfl hrecording
      refine ⟨?_, ?_, ?_, ?_, hflushed⟩
      · rw [hplain, hrecording]
        rfl
      · rw [hplain]
      · rw [hrecording]
        exact hdata
      · rw [hrecording]
        exact hcount

theorem result_compress {registry : Registry ω ε δ} {world world' : ω} {source left : Source}
    {sink : Sink} {options : CodecOptions} {bufferSize : UInt64} {c fed : Compressor ω ε}
    (hnew : Compressor.new registry world sink options { bufferSize } = (.ok c, world'))
    (hfeed : feed source (blank bufferSize) c = (.ok (), left, fed))
    (hcomplete : fed.complete.1 = .ok ()) (hfinish : fed.complete.2.finish.1.isOk = true) :
    (compress registry world source sink options bufferSize).result =
      .ok fed.complete.2.totalOut := by
  have hunfolded : feed source ⟨Array.replicate ({ bufferSize } : StreamOptions).capacity 0⟩ c =
      (.ok (), left, fed) := hfeed
  unfold compress
  dsimp only
  rw [hnew]
  dsimp only
  rw [hunfolded]
  dsimp only
  rcases hdone : fed.complete with ⟨_ | _, d⟩
  · rw [hdone] at hcomplete
    cases hcomplete
  · rw [hdone] at hfinish
    dsimp only at hfinish ⊢
    rcases hback : d.finish with ⟨_ | _, e⟩
    · rw [hback] at hfinish
      cases hfinish
    · rfl

/-- The encoder makes three bytes of one. -/
theorem compress_short : (compress Marked.registry () Marked.shortSource Marked.slowSink Marked.options
    3).result = .ok 3 := by
  generalize hleft : (Marked.shortSource.readPatiently 3).2 = left
  have hread : Marked.shortSource.readPatiently (blank 3).size = (.ok ⟨⟨#[1]⟩, 1⟩, left) := by
    subst hleft
    cbv
  have hempty : left.readPatiently 3 = (.ok ⟨ByteArray.empty, 0⟩, (left.readPatiently 3).2) := by
    subst hleft
    cbv
  generalize hc : Marked.compressor Marked.slowSink Marked.stream₃ = c
  have hnew : Compressor.new Marked.registry () Marked.slowSink Marked.options Marked.stream₃ =
      (.ok c, ()) := by
    rw [← hc]
    rfl
  -- The write and the completion are a single pass each.
  have hwrite := Compressor.drive_of_last .process c (.filled ⟨#[1]⟩) (by subst hc; cbv)
  generalize hpassed : (Compressor.outcome .process c (.filled ⟨#[1]⟩)).2.1 = passed
  have hwritten : c.writeAll ⟨#[1]⟩ = (.ok (), passed) := by
    apply Compressor.writeAll_of_write (by decide)
    simp only [Compressor.write, hwrite]
    subst hc hpassed
    cbv
  have hfeed : feed Marked.shortSource (blank 3) c = (.ok (), (left.readPatiently 3).2, passed) := by
    have hpiece : (overlay (blank 3) 0 ⟨#[1]⟩).extract 0 1 = ⟨#[1]⟩ := by cbv
    rw [feed_of_piece hread (by decide) (by decide)]
    dsimp only
    rw [hpiece, hwritten]
    exact feed_of_end hempty rfl passed
  have hfinish := Compressor.drive_of_last .finish passed (.filled ByteArray.empty)
    (by subst hc hpassed; cbv)
  rw [result_compress hnew hfeed]
  all_goals
    simp only [Compressor.finish, Compressor.complete, Compressor.driveIdle, hfinish]
    subst hc hpassed
    cbv

/-- The stream of one byte. -/
def byteSource : Source := { answers := [.data ⟨#[1, 97, 0]⟩] }

/-- The decoder makes one byte of it. -/
theorem decompress_byte : (decompress Marked.registry () byteSource Marked.slowSink .brotli
    3).result = .ok 1 := by
  generalize hd : Marked.decompressor byteSource Marked.stream₃ = d
  have hnew : Decompressor.new Marked.registry () byteSource { codec := .brotli }
      { bufferSize := 3 } = (.ok d, ()) := by
    rw [← hd]
    rfl
  -- The first read pulls a piece and brings a byte, the second has its answer at once.
  have hopen : d.session.IsOpen := by
    rw [← hd]
    exact ⟨rfl, rfl⟩
  have hpull : d.round (blank 3) = .inl (blank 3, d) := by
    subst hd
    cbv
  have hfill : d.fill = (.ok (), d.fill.2) := by
    subst hd
    cbv
  have hanswer := Decompressor.round_of_isRight d.fill.2 (blank 3) (by subst hd; cbv)
  have hread := Decompressor.read_of_pull hopen (size_blank 3).ne' hpull hfill hanswer
  generalize hafter : (d.fill.2.outcome (blank 3)).2.2 = after
  have hafterOpen : after.session.IsOpen := by
    subst hafter hd
    cbv
  have hlast := Decompressor.round_of_isRight after ⟨#[97, 0, 0]⟩ (by subst hafter hd; cbv)
  have hnone : after.read ⟨#[97, 0, 0]⟩ = after.outcome ⟨#[97, 0, 0]⟩ := by
    rw [Decompressor.read_of_live hafterOpen.1 (by decide)]
    exact Decompressor.readSome_of_answer hlast
  have hgoesOn : Pouring.round ⟨d, blank 3, Marked.slowSink, 0⟩ =
      .inl ⟨after, ⟨#[97, 0, 0]⟩, (Marked.slowSink.writeAll ⟨#[97]⟩).2, 1⟩ := by
    rw [Pouring.round, hread]
    subst hafter hd
    cbv
  have hends : Pouring.round ⟨after, ⟨#[97, 0, 0]⟩, (Marked.slowSink.writeAll ⟨#[97]⟩).2, 1⟩ =
      .inr (.ok 1, (after.outcome ⟨#[97, 0, 0]⟩).2.2,
        (Marked.slowSink.writeAll ⟨#[97]⟩).2.flush.2) := by
    rw [Pouring.round, hnone]
    subst hafter hd
    cbv
  have hpour := pour_of_rounds hgoesOn hends
  rw [decompress, hnew]
  exact congrArg (fun x => x.1.mapError TransferError.failed) hpour

/-- The counts that transfers answer are true, for any engines, any source, any sink and any size of
the buffers. -/
theorem transfers_count (registry : Registry ω ε δ) (world : ω) (source : Source) (sink : Sink)
    (bufferSize : UInt64) :
    (∀ options n, (compress registry world source sink options bufferSize).result = .ok n →
      ∃ c world', Compressor.new registry world sink options { bufferSize } = (.ok c, world') ∧
        Compressed source sink bufferSize c
          (compress registry world source sink options bufferSize) n) ∧
    (∀ codec n, (decompress registry world source sink codec bufferSize).result = .ok n →
      ∃ d world',
        Decompressor.new registry world source { codec } { bufferSize } = (.ok d, world') ∧
        Decompressed sink bufferSize d
          (decompress registry world source sink codec bufferSize) n) :=
  ⟨fun _ _ => compressed, fun _ _ => decompressed⟩

theorem transfers_count_marked :
    (compress Marked.registry () Marked.shortSource Marked.slowSink Marked.options 3).result = .ok 3 ∧
      (∃ c world', Compressor.new Marked.registry () Marked.slowSink Marked.options { bufferSize := 3 } =
          (.ok c, world') ∧
        Compressed Marked.shortSource Marked.slowSink 3 c
          (compress Marked.registry () Marked.shortSource Marked.slowSink Marked.options 3) 3) ∧
      (decompress Marked.registry () byteSource Marked.slowSink .brotli 3).result = .ok 1 ∧
      (∃ d world', Decompressor.new Marked.registry () byteSource { codec := .brotli }
          { bufferSize := 3 } = (.ok d, world') ∧
        Decompressed Marked.slowSink 3 d
          (decompress Marked.registry () byteSource Marked.slowSink .brotli 3) 1) := by
  have hcompress := (transfers_count Marked.registry () Marked.shortSource Marked.slowSink 3).1
  have hdecompress := (transfers_count Marked.registry () byteSource Marked.slowSink 3).2
  exact ⟨compress_short, hcompress _ _ compress_short, decompress_byte,
    hdecompress _ _ decompress_byte⟩

end Transfer

end StreamCodec
