import StreamCodec.Proofs.Completion

/-!
# Completions that race a token

A suspending compressor completes its stream as a blocking one does, and keeps
the same invariant between two calls until one of them is interrupted: a flush
that was cancelled or dropped is none, but then the guard is set and every later
completion is refused. So the two kinds of completion vouch for the same.
-/
namespace StreamCodec

variable {ω σ δ : Type}

namespace AsyncCompressor

open Compressor (Carries Standing Succeeds Concluded)

/-- The invariant between two calls. -/
def Stands (sink : Sink) (c : AsyncCompressor (ω × Ledger) σ) : Prop :=
  c.inFlight = false → Standing sink c.base

section Inner

variable {sink : Sink} {c : Compressor (ω × Ledger) σ} {token : Token}

theorem standing_drive (token : Token) (h : Standing sink c) (incomplete : c.isCompleted = false)
    (op : FlushOp) (src : CursorBuffer) (cancelled : Cancelled) :
    Standing sink (drive token op c src cancelled).2.1 :=
  h.driven incomplete (drive_frame token op c src cancelled)
    (h.carries.racingDrive token op src cancelled)

theorem flushSink_of_holds (holds : c.holdsSink = true) (cancelled : Cancelled) :
    flushSink token c cancelled =
      (.ofWait (c.sink.signalOr .flush (some token) cancelled).1,
        { c with sink := (c.sink.signalOr .flush (some token) cancelled).2.1 },
        (c.sink.signalOr .flush (some token) cancelled).2.2) := by
  rw [flushSink, if_neg (by simp [holds])]

theorem standing_flushSink (h : Standing sink c) (cancelled : Cancelled) :
    Standing sink (flushSink token c cancelled).2.1 := by
  cases hholds : c.holdsSink with
  | true =>
    obtain ⟨events, hsignals, -⟩ := c.sink.signalOr_signals .flush (some token) cancelled
    rw [flushSink_of_holds hholds]
    exact h.signalled hsignals
  | false =>
    have hsame : (flushSink token c cancelled).2.1 = c := by simp [flushSink, hholds]
    rw [hsame]
    exact h

theorem standing_flushInner (h : Standing sink c) (cancelled : Cancelled) :
    Standing sink (flushInner token c cancelled).2.1 := by
  unfold flushInner
  split
  · exact standing_flushSink h cancelled
  · next hincomplete =>
    have hdrive := standing_drive token h (eq_false_of_ne_true hincomplete) .flush
      (.filled ByteArray.empty) cancelled
    split
    · next hdriven =>
      rw [hdriven] at hdrive
      exact standing_flushSink hdrive _
    · next hdriven =>
      rw [hdriven] at hdrive
      exact hdrive

theorem standing_completeInner (token : Token) (h : Standing sink c) (live : c.session.isDisposed = false)
    (incomplete : c.isCompleted = false) (cancelled : Cancelled)
    (answered : ¬(completeInner token c cancelled).1.Interrupted) :
    Standing sink (completeInner token c cancelled).2.1 ∧
      ((completeInner token c cancelled).1 = .returned (.ok ()) →
        (sink.Unfailing → octets (completeInner token c cancelled).2.1.sink.data =
          octets sink.data ++ (completeInner token c cancelled).2.1.ledger.produced) →
        Succeeds sink sink.Unfailing c (completeInner token c cancelled).2.1) := by
  have hdrive := standing_drive token h incomplete .finish (.filled ByteArray.empty)
    cancelled
  have hfinished := finished_of_drive token c (.filled ByteArray.empty) cancelled
  have hframe := drive_frame token .finish c (.filled ByteArray.empty) cancelled
  unfold completeInner at answered ⊢
  rcases hdriven : drive token .finish c (.filled ByteArray.empty) cancelled with
    ⟨(e | _) | _, d, src, looked⟩
  all_goals
    rw [hdriven] at hdrive hfinished hframe answered
    dsimp only at answered ⊢
  · exact ⟨hdrive, nofun⟩
  · obtain ⟨hended, hempty⟩ := hfinished rfl
    have hholds : d.holdsSink = true := hframe.holdsSink.trans (h.holds live)
    obtain ⟨events, hsignals, hnoted⟩ := d.sink.signalOr_signals .flush (some token) looked
    rw [flushSink_of_holds (c := { d with isCompleted := true }) hholds] at answered ⊢
    dsimp only at answered ⊢
    cases hwait : (d.sink.signalOr .flush (some token) looked).1 with
    | ready answer =>
      obtain ⟨hstanding, run, hjournal, hok⟩ :=
        Standing.flushed hdrive.carries hholds hended hempty hsignals (hnoted answer hwait)
      refine ⟨hstanding, fun hanswer level => hstanding.carries.succeeds hended hempty level
        ⟨run, hjournal, .inl (hok ?_)⟩⟩
      rcases answer with e | _
      · cases hanswer
      · rfl
    | cancelled =>
      rw [hwait] at answered
      exact absurd (.inl rfl) answered
    | abandoned =>
      rw [hwait] at answered
      exact absurd (.inr rfl) answered
  · exact ⟨hdrive, nofun⟩

end Inner

namespace Stands

variable {sink : Sink} {c : AsyncCompressor (ω × Ledger) σ}

theorem write (h : Stands sink c) (token : Token) (data : ByteArray) (cancelled : Cancelled) :
    Stands sink (c.write token data cancelled).2.1 := by
  unfold AsyncCompressor.write
  dsimp only
  split
  · exact h
  · next hbegun =>
    split
    · exact h
    · next hincomplete =>
      intro _
      exact standing_drive token (h (of_refusal_none hbegun).1) (eq_false_of_ne_true hincomplete) _ _ _

theorem flush (h : Stands sink c) (token : Token) (cancelled : Cancelled) :
    Stands sink (c.flush token cancelled).2.1 := by
  unfold AsyncCompressor.flush
  dsimp only
  split
  · exact h
  · next hbegun =>
    intro _
    exact standing_flushInner (h (of_refusal_none hbegun).1) _

/-- Where a completion succeeds the guard is down, and the compressor vouches for its stream. -/
theorem complete (h : Stands sink c) (token : Token) (cancelled : Cancelled) :
    Stands sink (c.complete token cancelled).2.1 ∧
      ((c.complete token cancelled).1 = .returned (.ok ()) →
        (c.complete token cancelled).2.1.inFlight = false ∧
        ((sink.Unfailing → octets (c.complete token cancelled).2.1.base.sink.data =
          octets sink.data ++ (c.complete token cancelled).2.1.base.ledger.produced) →
        Succeeds sink sink.Unfailing c.base (c.complete token cancelled).2.1.base)) := by
  unfold AsyncCompressor.complete
  split
  · next hdone =>
    simp only [Bool.and_eq_true, Bool.not_eq_true'] at hdone
    obtain ⟨⟨hcomplete, hidle⟩, hlive⟩ := hdone
    exact ⟨h, fun _ => ⟨hidle, fun level => (h hidle).already hlive hcomplete level⟩⟩
  · next hundone =>
    dsimp only
    split
    · exact ⟨h, nofun⟩
    · next hbegun =>
      obtain ⟨hidle, hlive⟩ := of_refusal_none hbegun
      have hincomplete : c.base.isCompleted = false := by
        simpa [hidle, hlive] using hundone
      have hinner := standing_completeInner token (h hidle) hlive hincomplete
        cancelled.look
      refine ⟨fun hclear => (hinner fun hinterrupted => ?_).1, fun hok => ⟨?_, fun level => ?_⟩⟩
      · rw [(Outcome.poisons_iff _).mpr hinterrupted] at hclear
        cases hclear
      · dsimp only at hok ⊢
        rw [hok]
        rfl
      · dsimp only at hok level ⊢
        exact (hinner (by rw [hok]; simp [Outcome.Interrupted])).2 hok level

theorem dispose (h : Stands sink c) : Stands sink c.dispose := by
  intro hidle
  have hcarries : Carries sink { c.base with session := c.base.session.dispose } :=
    (h hidle).carries.quiet rfl nofun rfl rfl rfl (.refl _)
  have hgone : c.dispose.base.session.isDisposed = true := by
    unfold AsyncCompressor.dispose
    dsimp only
    split
    · rfl
    · unfold Compressor.releaseSink
      split <;> rfl
  refine ⟨?_, fun hlive => ?_, fun hlive => ?_⟩
  · unfold AsyncCompressor.dispose
    dsimp only
    split
    · exact hcarries
    · exact hcarries.releaseSink
  all_goals
    rw [hgone] at hlive
    cases hlive

theorem serve (h : Stands sink c) (call : Call) (cancelled : Cancelled) :
    Stands sink (c.serve call cancelled).2.1 := by
  unfold AsyncCompressor.serve
  cases call.request with
  | write data => exact h.write call.token data cancelled
  | flush => exact h.flush call.token cancelled
  | complete => exact (h.complete call.token cancelled).1
  | dispose => exact h.dispose

theorem serveAll (calls : List Call) {x : AsyncCompressor (ω × Ledger) σ × Cancelled}
    (h : Stands sink x.1) : Stands sink (serveAll x calls).1 := by
  induction calls generalizing x with
  | nil => exact h
  | cons call rest ih => exact ih (h.serve call x.2)

end Stands

/-- What each way to complete a stream vouches for where it succeeds, with this token. What becomes of
an interrupted write is up to the runtime, so a sink that holds no byte twice is one that never
fails. -/
structure Vouches (sink : Sink) (c : AsyncCompressor (ω × Ledger) σ) (token : Token)
    (cancelled : Cancelled) : Prop where
  complete : (c.complete token cancelled).1 = .returned (.ok ()) →
    Succeeds sink sink.Unfailing c.base (c.complete token cancelled).2.1.base
  finish : ∀ back, (c.finish token cancelled).1 = .returned (.ok back) →
    back = (c.finish token cancelled).2.1.base.sink ∧
      Succeeds sink sink.Unfailing c.base (c.finish token cancelled).2.1.base
  close : ∀ back, (c.close token cancelled).1 = .returned (.ok back) →
    (∀ kept ∈ back, kept = (c.close token cancelled).2.1.base.sink) ∧
      Succeeds sink sink.Unfailing c.base (c.close token cancelled).2.1.base

theorem vouches_of_complete {sink : Sink} {c : AsyncCompressor (ω × Ledger) σ} {token : Token}
    {cancelled : Cancelled} (hcomplete : (c.complete token cancelled).1 = .returned (.ok ()) →
      Succeeds sink sink.Unfailing c.base (c.complete token cancelled).2.1.base) :
    Vouches sink c token cancelled := by
  refine ⟨hcomplete, fun back hback => ?_, fun back hback => ?_⟩
  · unfold AsyncCompressor.finish at hback ⊢
    rcases hanswer : c.complete token cancelled with ⟨(_ | _) | _, d, looked⟩
    all_goals
      rw [hanswer] at hcomplete hback
      dsimp only at hback ⊢
    · cases hback
    · split at hback
      · next hholds =>
        cases hback
        rw [if_pos hholds]
        exact ⟨rfl, (hcomplete rfl).signals rfl rfl (.refl _)⟩
      · cases hback
    · cases hback
  · unfold AsyncCompressor.close at hback ⊢
    rcases hanswer : c.complete token cancelled with ⟨(_ | _) | _, d, looked⟩
    all_goals
      rw [hanswer] at hcomplete hback
      dsimp only at hback ⊢
    · cases hback
    · split at hback
      · cases hback
      · next hholds =>
        rw [if_neg hholds]
        split at hback
        · next hkept =>
          cases hback
          rw [if_pos hkept]
          refine ⟨?_, (hcomplete rfl).signals rfl rfl (.refl _)⟩
          rintro kept ⟨⟩
          rfl
        · next hgone =>
          obtain ⟨events, hsignals, -⟩ := d.base.sink.signalOr_signals .shutdown none looked
          rw [if_neg hgone]
          have hnone : back = none := by
            rcases hwait : (d.base.sink.signalOr .shutdown none looked).1 with (_ | _) | _ | _
            all_goals
              rw [hwait] at hback
              cases hback
            rfl
          have hshut : Succeeds sink sink.Unfailing c.base { d.base with
              sink := (d.base.sink.signalOr .shutdown none looked).2.1 } :=
            (hcomplete rfl).signals rfl rfl hsignals
          exact ⟨by rw [hnone]; exact nofun, hshut.releaseSink⟩
    · cases hback

end AsyncCompressor

/-- Runs of compressors of both kinds, over any engine and in front of any sink. Whichever call is
told that the stream is completed, the engine is at its end, the sink has the whole stream, and the
sink was flushed since its last write; that flush succeeded, unless the stream was completed by an
earlier call. -/
theorem completions_vouch (registry : Registry ω σ δ) (world : ω) (sink : Sink) (o : CodecOptions)
    (options : StreamOptions) {c : Compressor ω σ} {a : AsyncCompressor ω σ} {world₁ world₂ : ω}
    (hblocking : Compressor.new registry world sink o options = (.ok c, world₁))
    (hsuspending : AsyncCompressor.new registry world sink o options = (.ok a, world₂)) :
    (∀ requests, Compressor.Vouches sink ((c.recorded []).serveAll requests)) ∧
      ∀ cancelled calls token, AsyncCompressor.Vouches sink
        (AsyncCompressor.serveAll (a.recorded [], cancelled) calls).1 token
        (AsyncCompressor.serveAll (a.recorded [], cancelled) calls).2 := by
  refine ⟨fun requests => ?_, fun cancelled calls token => ?_⟩
  · refine ((Compressor.standing_new hblocking).serveAll requests).vouches fun hsteady => ?_
    have hfresh := Compressor.fresh_new registry world sink o options hblocking
    have hpos : 0 < (c.recorded []).output.capacity := by
      rw [hfresh.output, CursorBuffer.capacity_withCapacity]
      exact options.capacity_pos
    obtain ⟨hbalanced, hcapacity⟩ := (hfresh.balanced hsteady).serveAll requests hpos
    obtain ⟨_, _, hkeeps, -⟩ := hbalanced.complete (hcapacity ▸ hpos)
    exact hkeeps.balanced.sink
  · obtain ⟨hbase, -⟩ := AsyncCompressor.new_base hsuspending
    have hstands : AsyncCompressor.Stands sink
        (AsyncCompressor.serveAll (a.recorded [], cancelled) calls).1 :=
      AsyncCompressor.Stands.serveAll calls fun _ => (Compressor.standing_new hbase).of_under
    refine AsyncCompressor.vouches_of_complete fun hok => ?_
    obtain ⟨hidle, hsucceeds⟩ := (hstands.complete token _).2 hok
    refine hsucceeds fun hunfailing => ?_
    have hsettled : AsyncCompressor.Settled (octets sink.data)
        (AsyncCompressor.serveAll (a.recorded [], cancelled) calls).1 :=
      AsyncCompressor.Settled.serveAll (AsyncCompressor.settled_new hbase hunfailing) calls
    exact ((hsettled.complete token _).poised hidle).sink

theorem completions_vouch_marked :
    ∃ c a, Compressor.new Marked.registry () Marked.slowSink Marked.options Marked.stream₃ =
        (.ok c, ()) ∧
      AsyncCompressor.new Marked.registry () Marked.slowSink Marked.options Marked.stream₃ =
        (.ok a, ()) ∧
      Marked.slowSink.Steady ∧ Marked.slowSink.Unfailing ∧
      Compressor.Vouches Marked.slowSink ((c.recorded []).serveAll [.write ⟨#[97]⟩, .complete]) ∧
      AsyncCompressor.Vouches Marked.slowSink
        (AsyncCompressor.serveAll (a.recorded [], {}) [⟨"go", .write ⟨#[97]⟩⟩]).1 "go"
        (AsyncCompressor.serveAll (a.recorded [], {}) [⟨"go", .write ⟨#[97]⟩⟩]).2 := by
  obtain ⟨hblocking, hsuspending⟩ := completions_vouch Marked.registry () Marked.slowSink
    Marked.options Marked.stream₃ (Marked.new_compressor ..) rfl
  have hsteady : Marked.slowSink.Steady := by unfold Sink.Steady; decide
  have hunfailing : Marked.slowSink.Unfailing := by unfold Sink.Unfailing; decide
  exact ⟨_, _, Marked.new_compressor .., rfl, hsteady, hunfailing, hblocking _,
    hsuspending {} _ "go"⟩

/-- In front of a sink whose first flush fails a completion fails, and `finish` then succeeds: the
sink is handed back without a flush that succeeded. -/
theorem completed_unflushed :
    ∃ c, Compressor.new Marked.registry () Marked.unflushedSink Marked.options Marked.stream₃ =
        (.ok c, ()) ∧
      (c.recorded []).complete.1 = .error (.io ⟨.brokenPipe, "gone"⟩) ∧
      ∃ back, (c.recorded []).complete.2.finish.1 = .ok back ∧
        .signalled .flush ∉ back.journal := by
  refine ⟨_, Marked.new_compressor .., ?_⟩
  generalize hc : (Marked.compressor Marked.unflushedSink Marked.stream₃).recorded [] = c
  -- The completion is a single pass.
  have hfinish := Compressor.drive_of_last .finish c (.filled ByteArray.empty) (by subst hc; cbv)
  generalize hcomplete : c.complete = answer
  simp only [Compressor.complete, Compressor.driveIdle, hfinish] at hcomplete
  have hfailed : answer.1 = .error (.io ⟨.brokenPipe, "gone"⟩) := by
    subst hc hcomplete
    cbv
  have hback : answer.2.finish.1 = .ok answer.2.sink := by
    subst hc hcomplete
    cbv
  have hjournal : answer.2.sink.journal = [.signalFailed .flush, .wrote 1 1] := by
    subst hc hcomplete
    cbv
  exact ⟨hfailed, answer.2.sink, hback, by rw [hjournal]; decide⟩

end StreamCodec
