import StreamCodec.Proofs.AsyncReadRecording
import StreamCodec.Proofs.FailedReads
import StreamCodec.Proofs.ReadConservation
import StreamCodec.Proofs.SourceYields

/-!
# Both kinds of decompressor in step

Reads that no one cancels, behind a fair source that at most yields, are those
of a blocking decompressor behind the same source without its pauses: the
engine is called with the same windows, the source is asked with the same room,
and every read answers the same, byte for byte and error for error.

Both kinds decode with the same rounds, so all that is to be compared are the
pulls and the reads without room.
-/
namespace StreamCodec

variable {ω ε σ : Type}

namespace Decompressor

/-- The decompressor behind its source without the pauses. -/
def unpaused (d : Decompressor ω σ) : Decompressor ω σ := { d with source := d.source.unpaused }

theorem round_unpaused (d : Decompressor ω σ) (dst : ByteArray) :
    d.unpaused.round dst =
      (d.round dst).map (fun x => (x.1, x.2.unpaused)) fun y => (y.1, y.2.1, y.2.2.unpaused) := by
  have hrun : d.unpaused.session.decompress ⟨d.unpaused.input, .empty dst⟩ =
    d.session.decompress ⟨d.input, .empty dst⟩ := rfl
  have hended : d.unpaused.sourceEnded = d.sourceEnded := rfl
  unfold round
  rw [hrun]
  rcases d.session.decompress ⟨d.input, .empty dst⟩ with ⟨_ | status, session, w⟩
  · rfl
  · cases status with
    | done | destinationTooSmall | invalidData => rfl
    | needMoreData =>
      dsimp only
      rw [hended]
      split
      · rfl
      · split <;> rfl

theorem source_round {d d' : Decompressor ω σ} {dst dst' : ByteArray} {result : Except CodecError Nat}
    (h : d.round dst = .inr (result, dst', d')) : d'.source = d.source := by
  obtain ⟨_, _, _, -, -, rfl, -⟩ := round_answers h
  rfl

end Decompressor

namespace AsyncDecompressor

variable {token : Token} {d decoded : Decompressor ω σ} {dst : ByteArray} {cancelled : Cancelled}

/-- What an uncancelled operation of a suspending decompressor comes to, and what the blocking
decompressor does meanwhile. -/
structure Level {α : Type} (cancelled : Cancelled)
    (suspending : Outcome α × Decompressor ω σ × Cancelled)
    (blocking : Except CodecError α × Decompressor ω σ) : Prop where
  answer : suspending.1 = .returned blocking.1
  same : blocking.2 = suspending.2.1.unpaused
  fair : suspending.2.1.source.Fair
  spares : ∀ token, cancelled.Spares token → suspending.2.2.Spares token

theorem fill_level (hf : d.source.Fair) (hs : cancelled.Spares token) :
    Level cancelled (fill token d cancelled) d.unpaused.fill := by
  have hpull := (Source.readOr_together hf d.input.compact.availableWrite hs).patiently
  unfold fill Decompressor.fill
  have hinput : d.unpaused.input = d.input := rfl
  have hsource : d.unpaused.source = d.source.unpaused := rfl
  dsimp only
  rw [hinput, hsource]
  split
  · exact ⟨rfl, rfl, hf, fun _ h => h⟩
  · obtain ⟨answer, s, cancelled', hread, hblocking, fair, spares, within⟩ := hpull.alike
    rw [hread, hblocking]
    rcases answer with e | delivery
    · exact ⟨rfl, rfl, fair, spares⟩
    · dsimp only
      rw [if_neg (Nat.not_lt.mpr (within delivery rfl))]
      refine ⟨rfl, ?_, ?_, spares⟩
      · unfold Decompressor.accept
        split <;> rfl
      · rw [Decompressor.source_accept]
        exact fair

theorem readNothing_level (hf : d.source.Fair) (hs : cancelled.Spares token) :
    Level cancelled (readNothing token d cancelled) d.unpaused.readNothing := by
  have hpull := Source.readOr_together hf 0 hs
  unfold readNothing Decompressor.readNothing
  have hbuffered : d.unpaused.hasBufferedInput = d.hasBufferedInput := rfl
  have hsource : d.unpaused.source = d.source.unpaused := rfl
  rw [hbuffered, hsource]
  split
  · exact ⟨rfl, rfl, hf, fun _ h => h⟩
  · obtain ⟨answer, s, cancelled', hread, hblocking, fair, spares, within⟩ := hpull.alike
    rw [hread, hblocking]
    rcases answer with e | delivery
    · exact ⟨rfl, rfl, fair, spares⟩
    · dsimp only
      rw [if_neg (Nat.not_lt.mpr (within delivery rfl))]
      exact ⟨rfl, rfl, fair, spares⟩

structure LevelRead (suspending : Outcome Nat × ByteArray × Decompressor ω σ × Cancelled)
    (blocking : Except CodecError Nat × ByteArray × Decompressor ω σ) : Prop where
  answer : suspending.1 = .returned blocking.1
  dst : suspending.2.1 = blocking.2.1
  same : blocking.2.2 = suspending.2.2.1.unpaused
  fair : suspending.2.2.1.source.Fair

/-- A round that asks does so for either kind, and the pulls that follow are level. -/
theorem ask_level {dst' : ByteArray} (hf : d.source.Fair) (hs : cancelled.Spares token)
    (h : d.round dst = .inl (dst', decoded)) :
    d.unpaused.round dst = .inl (dst', decoded.unpaused) ∧
      Level cancelled (fill token decoded cancelled) decoded.unpaused.fill := by
  have hplain := d.round_unpaused dst
  rw [h] at hplain
  obtain ⟨session, w, -, -, -, -, rfl⟩ := Decompressor.round_asks h
  exact ⟨hplain, fill_level hf hs⟩

/-- A read into some room, round by round. -/
theorem readSome_level (hf : d.source.Fair) (hs : cancelled.Spares token) (dst : ByteArray) :
    LevelRead (readSome token d dst cancelled) (d.unpaused.readSome dst) := by
  induction d, dst, cancelled using readSome_rounds with
  | answers d dst cancelled result dst' d' hround =>
    have hplain := d.round_unpaused dst
    rw [hround] at hplain
    rw [Decompressor.readSome_of_answer hplain]
    exact ⟨rfl, rfl, rfl, by rw [Decompressor.source_round hround]; exact hf⟩
  | fails d dst cancelled dst' decoded e filled cancelled' hround hfill =>
    obtain ⟨hplain, hlevel⟩ := ask_level hf hs hround
    rw [hfill] at hlevel
    have hblocking : decoded.unpaused.fill = (.error e, filled.unpaused) :=
      Prod.ext (Outcome.returned.inj hlevel.answer).symm hlevel.same
    rw [Decompressor.readSome_of_failure hplain hblocking]
    exact ⟨rfl, rfl, rfl, hlevel.fair⟩
  | abandons d dst cancelled dst' decoded filled cancelled' hround hfill =>
    have hlevel := (ask_level hf hs hround).2
    rw [hfill] at hlevel
    cases hlevel.answer
  | pulls d dst cancelled dst' decoded filled cancelled' hround hfill ih =>
    obtain ⟨hplain, hlevel⟩ := ask_level hf hs hround
    rw [hfill] at hlevel
    have hblocking : decoded.unpaused.fill = (.ok (), filled.unpaused) :=
      Prod.ext (Outcome.returned.inj hlevel.answer).symm hlevel.same
    rw [Decompressor.readSome_of_pull hplain hblocking]
    exact ih hlevel.fair (hlevel.spares token hs)

/-- A suspending decompressor between reads, and the blocking one that did the same. -/
structure InStep (a : AsyncDecompressor ω σ) (d : Decompressor ω σ) : Prop where
  idle : a.inFlight = false
  same : d = a.base.unpaused
  fair : a.base.source.Fair

/-- The same read of both. -/
structure Answers (suspending : Outcome Nat × ByteArray × AsyncDecompressor ω σ)
    (blocking : Except CodecError Nat × ByteArray × Decompressor ω σ) : Prop where
  answer : suspending.1 = .returned blocking.1
  dst : suspending.2.1 = blocking.2.1
  inStep : InStep suspending.2.2 blocking.2.2

namespace InStep

variable {a : AsyncDecompressor ω σ} {reading : Reading}

/-- Any read: both refuse it, answer it without room, or read. -/
theorem take (h : InStep a d) (hs : reading.cancelled.Spares reading.token) :
    Answers (a.take reading) (d.read reading.dst) := by
  obtain ⟨token, dst, cancelled⟩ := reading
  obtain ⟨hidle, rfl, hfair⟩ := h
  have hdisposed : a.base.unpaused.session.isDisposed = a.base.session.isDisposed := rfl
  unfold AsyncDecompressor.take AsyncDecompressor.read AsyncDecompressor.refusal Decompressor.read
  dsimp only
  rw [hidle, if_neg Bool.false_ne_true, if_neg hs.look.1, hdisposed]
  by_cases hgone : a.base.session.isDisposed = true
  · rw [if_pos hgone, if_pos hgone]
    exact ⟨rfl, rfl, hidle, rfl, hfair⟩
  · rw [if_neg hgone, if_neg hgone]
    dsimp only
    split
    · have hlevel := readNothing_level hfair hs.look
      rcases hread : readNothing token a.base cancelled.look with ⟨_ | _, base, cancelled'⟩
      all_goals
        rw [hread] at hlevel
        obtain ⟨answer, same, fair, -⟩ := hlevel
      · exact ⟨answer, rfl, rfl, same, fair⟩
      · cases answer
    · have hlevel := readSome_level hfair hs.look dst
      rcases hread : readSome token a.base dst cancelled.look with ⟨_ | _, dst', base, cancelled'⟩
      all_goals
        rw [hread] at hlevel
        obtain ⟨answer, bytes, same, fair⟩ := hlevel
      · exact ⟨answer, bytes, rfl, same, fair⟩
      · cases answer

theorem takeAll (h : InStep a d) (readings : List Reading)
    (hs : ∀ reading ∈ readings, reading.cancelled.Spares reading.token) :
    InStep (a.takeAll readings) (d.afterReads (readings.map (·.dst))) := by
  induction readings generalizing a d with
  | nil => exact h
  | cons reading readings ih =>
    exact ih (h.take (hs reading List.mem_cons_self)).inStep
      fun r hr => hs r (List.mem_cons_of_mem _ hr)

end InStep

/-- Where the two decompressors stand once they made the same read. -/
structure Agrees (suspending : Outcome Nat × ByteArray × AsyncDecompressor ω σ)
    (blocking : Except CodecError Nat × ByteArray × Decompressor ω σ) : Prop where
  answer : suspending.1 = .returned blocking.1
  dst : suspending.2.1 = blocking.2.1
  requests : suspending.2.2.base.source.journal.filter (!·.isPause) = blocking.2.2.source.journal
  totalIn : suspending.2.2.base.totalIn = blocking.2.2.totalIn
  totalOut : suspending.2.2.base.totalOut = blocking.2.2.totalOut
  hasBufferedInput : suspending.2.2.base.hasBufferedInput = blocking.2.2.hasBufferedInput
  isFinished : suspending.2.2.base.isFinished = blocking.2.2.isFinished

theorem Answers.agrees {suspending : Outcome Nat × ByteArray × AsyncDecompressor ω σ}
    {blocking : Except CodecError Nat × ByteArray × Decompressor ω σ}
    (h : Answers suspending blocking) : Agrees suspending blocking := by
  have hsame := h.inStep.same
  exact ⟨h.answer, h.dst, by rw [hsame]; rfl, by rw [hsame]; rfl, by rw [hsame]; rfl,
    by rw [hsame]; rfl, by rw [hsame]; rfl⟩

theorem new_unpaused (registry : Registry ω ε σ) (world : ω) (source : Source) (o : CodecOptions)
    (options : StreamOptions) :
    Decompressor.new registry world source.unpaused o options =
      ((Decompressor.new registry world source o options).1.map Decompressor.unpaused,
        (Decompressor.new registry world source o options).2) := by
  unfold Decompressor.new
  rcases DecoderSession.new registry world o with e | session
  · rfl
  · dsimp only
    rcases session.openNow with ⟨_ | _, session⟩ <;> rfl

/-- Reads of any length that no one cancels, behind a fair source that at most yields, over any
engine, against the same reads of a blocking decompressor behind the source without its pauses.
Either neither can be made, for the same reason, or after any row of reads, failed ones included, the
next one agrees, and so do all engine calls up to its end. -/
theorem reads_refine_blocking (registry : Registry ω ε σ) (world : ω) (source : Source)
    (o : CodecOptions) (options : StreamOptions) (hfair : source.Fair) :
    (∃ e world', AsyncDecompressor.new registry world source o options = (.error e, world') ∧
      Decompressor.new registry world source.unpaused o options = (.error e, world')) ∨
    ∃ a d world', AsyncDecompressor.new registry world source o options = (.ok a, world') ∧
      Decompressor.new registry world source.unpaused o options = (.ok d, world') ∧
      ∀ before reading, (∀ r ∈ before ++ [reading], r.cancelled.Spares r.token) →
        Agrees ((a.takeAll before).take reading)
          ((d.afterReads (before.map (·.dst))).read reading.dst) ∧
        (((a.recorded []).takeAll before).take reading).2.2.base.ledger =
          (((d.recorded []).afterReads (before.map (·.dst))).read reading.dst).2.2.ledger := by
  rw [new_unpaused]
  unfold AsyncDecompressor.new
  rcases hnew : Decompressor.new registry world source o options with ⟨e | base, world'⟩
  · exact .inl ⟨e, world', rfl, rfl⟩
  refine .inr ⟨{ base }, base.unpaused, world', rfl, rfl, fun before reading hspares => ?_⟩
  obtain ⟨_, _, _, _, -, -, -, hbase⟩ := Decompressor.created hnew
  have hsource : base.source.Fair := by
    rw [hbase]
    exact hfair
  have hread : reading.cancelled.Spares reading.token := hspares reading (by simp)
  have hbefore : ∀ r ∈ before, r.cancelled.Spares r.token :=
    fun r hr => hspares r (List.mem_append_left _ hr)
  have plain : InStep { base } base.unpaused := ⟨rfl, rfl, hsource⟩
  have recording : InStep (recorded { base } []) (base.unpaused.recorded []) := ⟨rfl, rfl, hsource⟩
  refine ⟨((plain.takeAll before hbefore).take hread).agrees, ?_⟩
  have hsame := ((recording.takeAll before hbefore).take hread).inStep.same
  rw [hsame]
  rfl

theorem reads_refine_blocking_marked :
    ∃ a d, AsyncDecompressor.new Marked.registry () Marked.yieldingSource Marked.options
        Marked.stream₃ = (.ok a, ()) ∧
      Decompressor.new Marked.registry () Marked.yieldingSource.unpaused Marked.options
        Marked.stream₃ = (.ok d, ()) ∧
      Agrees ((a.takeAll [⟨"go", ⟨#[0]⟩, {}⟩, ⟨"go", ⟨#[]⟩, {}⟩]).take ⟨"go", ⟨#[0, 0]⟩, {}⟩)
        ((d.afterReads [⟨#[0]⟩, ⟨#[]⟩]).read ⟨#[0, 0]⟩) := by
  have hfair : Marked.yieldingSource.Fair := by
    simp [Source.Fair, Marked.yieldingSource, SourceAnswer.Fair]
  have hspares : Cancelled.Spares {} "go" := ⟨List.not_mem_nil, nofun⟩
  rcases reads_refine_blocking Marked.registry () Marked.yieldingSource Marked.options Marked.stream₃
      hfair with ⟨e, _, hnew, -⟩ | ⟨a, d, _, ha, hd, hrun⟩
  · cases hnew
  · exact ⟨a, d, ha, hd, (hrun [_, _] _ (by simp [hspares])).1⟩

end AsyncDecompressor

end StreamCodec
