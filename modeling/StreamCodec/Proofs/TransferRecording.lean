import StreamCodec.Proofs.CompressorRun
import StreamCodec.Proofs.DecoderRecording
import StreamCodec.Stream.Transfer

/-!
# Recording changes nothing about a transfer

A source is fed to a compressor, and a decompressor poured into a sink, over
recording engines as over the engines themselves: with the same result, the same
source and the same sink. Only the ledger is new.
-/
namespace StreamCodec

variable {ω σ : Type}

theorem Compressor.recorded_writeAll (c : Compressor ω σ) (data : ByteArray) (ledger : Ledger) :
    Same (c.writeAll data) ((c.recorded ledger).writeAll data) := by
  fun_induction c.writeAll data generalizing ledger with
  | case1 c data hz =>
    refine ⟨ledger, ?_⟩
    rw [writeAll, dif_pos hz]
  | case2 c data hz e c' hwrite =>
    obtain ⟨ledger', hrecorded⟩ := recorded_write c data ledger
    refine ⟨ledger', ?_⟩
    rw [writeAll, dif_neg hz, hrecorded, hwrite]
  | case3 c data hz c' hwrite =>
    obtain ⟨ledger', hrecorded⟩ := recorded_write c data ledger
    refine ⟨ledger', ?_⟩
    rw [writeAll, dif_neg hz, hrecorded, hwrite]
    exact dif_pos rfl
  | case4 c data hz n c' hwrite hn ih =>
    obtain ⟨ledger', hrecorded⟩ := recorded_write c data ledger
    obtain ⟨ledger'', hrest⟩ := ih ledger'
    refine ⟨ledger'', ?_⟩
    rw [writeAll, dif_neg hz, hrecorded, hwrite, ← hrest]
    exact dif_neg hn

namespace Transfer

/-- A piece that is within the chunk is written, and the feeding goes on. -/
theorem feed_of_piece {source left : Source} {chunk : ByteArray} {delivery : Delivery}
    (hread : source.readPatiently chunk.size = (.ok delivery, left)) (hz : ¬delivery.reported = 0)
    (ho : ¬chunk.size < delivery.reported) (c : Compressor ω σ) :
    feed source chunk c =
      match c.writeAll ((overlay chunk 0 delivery.bytes).extract 0 delivery.reported) with
      | (.error e, c) => (.error (.failed e), left, c)
      | (.ok (), c) => feed left (overlay chunk 0 delivery.bytes) c := by
  rw [feed, hread]
  exact (dif_neg hz).trans (dif_neg ho)

theorem recorded_feed (source : Source) (chunk : ByteArray) (c : Compressor ω σ) (ledger : Ledger) :
    ∃ ledger', feed source chunk (c.recorded ledger) =
      ((feed source chunk c).1, (feed source chunk c).2.1,
        (feed source chunk c).2.2.recorded ledger') := by
  fun_induction feed source chunk c generalizing ledger with
  | case1 source chunk c e left hread =>
    refine ⟨ledger, ?_⟩
    rw [feed, hread]
  | case2 source chunk c delivery left hread hz =>
    refine ⟨ledger, ?_⟩
    rw [feed, hread]
    exact dif_pos hz
  | case3 source chunk c delivery left hread hz ho =>
    refine ⟨ledger, ?_⟩
    rw [feed, hread]
    exact (dif_neg hz).trans (dif_pos ho)
  | case4 source chunk c delivery left hread hz ho filled e c' hwrite =>
    obtain ⟨ledger', hrecorded⟩ := Compressor.recorded_writeAll c
      ((overlay chunk 0 delivery.bytes).extract 0 delivery.reported) ledger
    refine ⟨ledger', ?_⟩
    rw [feed_of_piece hread hz ho, hrecorded, hwrite]
  | case5 source chunk c delivery left hread hz ho filled c' hwrite ih =>
    obtain ⟨ledger', hrecorded⟩ := Compressor.recorded_writeAll c
      ((overlay chunk 0 delivery.bytes).extract 0 delivery.reported) ledger
    obtain ⟨ledger'', hrest⟩ := ih ledger'
    refine ⟨ledger'', ?_⟩
    rw [feed_of_piece hread hz ho, hrecorded, hwrite]
    exact hrest

/-- The transfer under way over the recording engine. -/
def Pouring.recorded (p : Pouring ω σ) (ledger : Ledger) : Pouring (ω × Ledger) σ where
  decompressor := p.decompressor.recorded ledger
  chunk := p.chunk
  sink := p.sink
  total := p.total

theorem recorded_round (p : Pouring ω σ) (ledger : Ledger) :
    ∃ ledger', (p.recorded ledger).round =
      p.round.map (fun p => p.recorded ledger') fun y => (y.1, y.2.1.recorded ledger', y.2.2) := by
  obtain ⟨ledger', hread⟩ := p.decompressor.recorded_read p.chunk ledger
  have hread' : (p.recorded ledger).decompressor.read (p.recorded ledger).chunk = _ := hread
  have hsink : (p.recorded ledger).sink = p.sink := rfl
  have htotal : (p.recorded ledger).total = p.total := rfl
  refine ⟨ledger', ?_⟩
  unfold Pouring.round
  rw [hread', hsink, htotal]
  rcases p.decompressor.read p.chunk with ⟨_ | n, chunk, d⟩
  · rfl
  · dsimp only
    by_cases hz : n = 0
    · rw [if_pos hz, if_pos hz]
      rcases p.sink.flush with ⟨_ | _, sink⟩ <;> rfl
    · rw [if_neg hz, if_neg hz]
      rcases p.sink.writeAll (chunk.extract 0 n) with ⟨_ | _, sink⟩ <;> rfl

theorem recorded_pour (d : Decompressor ω σ) (chunk : ByteArray) (sink : Sink) (ledger : Ledger) :
    ∃ ledger', pour (d.recorded ledger) chunk sink =
      ((pour d chunk sink).1, (pour d chunk sink).2.1.recorded ledger', (pour d chunk sink).2.2) := by
  have kept (p : Pouring ω σ) (p' : Pouring (ω × Ledger) σ) (h : ∃ ledger, p' = p.recorded ledger) :
      Sum.LiftRel (fun p p' => ∃ ledger, p' = p.recorded ledger)
        (fun y y' => ∃ ledger, y' = (y.1, y.2.1.recorded ledger, y.2.2)) p.round p'.round := by
    obtain ⟨ledger, rfl⟩ := h
    obtain ⟨ledger', hround⟩ := recorded_round p ledger
    rw [hround]
    cases p.round with
    | inl p => exact .inl ⟨ledger', rfl⟩
    | inr y => exact .inr ⟨ledger', rfl⟩
  have start : ∃ ledger', (⟨d.recorded ledger, chunk, sink, 0⟩ : Pouring (ω × Ledger) σ) =
      Pouring.recorded ⟨d, chunk, sink, 0⟩ ledger' := ⟨ledger, rfl⟩
  have htogether := loop_together kept start
  unfold pour
  generalize loop Pouring.round ⟨d, chunk, sink, 0⟩ = plain at htogether ⊢
  generalize loop Pouring.round ⟨d.recorded ledger, chunk, sink, 0⟩ = recording at htogether ⊢
  cases htogether with
  | none => exact ⟨ledger, rfl⟩
  | some hsame =>
    obtain ⟨ledger', rfl⟩ := hsame
    exact ⟨ledger', rfl⟩

end Transfer

end StreamCodec
