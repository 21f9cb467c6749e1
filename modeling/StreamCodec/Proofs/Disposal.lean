import StreamCodec.Proofs.Poisoning

/-!
# Disposal of a suspending compressor

Once disposed of, a compressor does nothing any more: whatever it is asked, and
with whichever token, it answers an error and stays as it is. Which error that
is was settled before. The guard is looked at first, so a compressor that an
interruption has poisoned goes on answering that an operation is in progress,
and only one that was never interrupted answers that it was disposed of.
-/
namespace StreamCodec

variable {ω σ δ : Type}

namespace AsyncCompressor

theorem dispose_inFlight (c : AsyncCompressor ω σ) : c.dispose.inFlight = c.inFlight := rfl

theorem dispose_session (c : AsyncCompressor ω σ) :
    c.dispose.base.session = c.base.session.dispose := by
  unfold dispose
  dsimp only
  split
  · rfl
  · exact Compressor.releaseSink_session _

theorem dispose_isDisposed (c : AsyncCompressor ω σ) : c.dispose.base.session.isDisposed = true := by
  rw [dispose_session]
  rfl

theorem dispose_options (c : AsyncCompressor ω σ) : c.dispose.base.options = c.base.options := by
  unfold dispose
  dsimp only
  split
  · rfl
  · exact Compressor.releaseSink_options _

theorem dispose_holdsSink (c : AsyncCompressor ω σ) (h : c.base.options.leaveOpen = false) :
    c.dispose.base.holdsSink = false := by
  simp only [dispose, h, Bool.false_eq_true, if_false]
  exact Compressor.releaseSink_holdsSink _

theorem dispose_of_gone {c : AsyncCompressor ω σ} (hsession : c.base.session.dispose = c.base.session)
    (hsink : c.base.options.leaveOpen = false → c.base.holdsSink = false) : c.dispose = c := by
  obtain ⟨⟨session, output, sink, holdsSink, options, isCompleted⟩, inFlight⟩ := c
  simp only at hsession hsink
  simp only [dispose, Compressor.releaseSink, hsession]
  cases hopen : options.leaveOpen with
  | true => rfl
  | false => simp [hsink hopen]

theorem dispose_idem (c : AsyncCompressor ω σ) : c.dispose.dispose = c.dispose := by
  refine dispose_of_gone ?_ fun hopen => dispose_holdsSink c ?_
  · rw [dispose_session]
    rfl
  · rw [← hopen, dispose_options]

/-- Whether some call began and was then cancelled or dropped. -/
def Interrupted (x : AsyncCompressor ω σ × Cancelled) (calls : List Call) : Prop :=
  ∃ before call after, calls = before ++ call :: after ∧ Interrupts (serveAll x before) call

/-- A compressor for which all is over: it answers one error and no call moves it. Its end makes
no call of the engine and no call of the sink. -/
structure Final (e : CodecError) (c : AsyncCompressor ω σ) : Prop where
  rejects : Rejects e c
  stays : ∀ cancelled later, (serveAll (c, cancelled) later).1 = c
  session : c.drop.base.session = c.base.session
  sink : c.drop.base.sink = if c.base.holdsSink then c.base.sink.drop else c.base.sink

theorem Final.of_rejects {e : CodecError} {c : AsyncCompressor ω σ} (h : Rejects e c)
    (hidem : c.dispose = c) : Final e c where
  rejects := h
  stays cancelled later := by
    have hserve (call : Call) (looked : Cancelled) : (c.serve call looked).2.1 = c := by
      by_cases hdispose : call.request = .dispose
      · simp only [serve, hdispose, hidem]
      · rw [h.serve call looked hdispose]
    induction later generalizing cancelled with
    | nil => rfl
    | cons call later ih =>
      have hstep : (serveAll (c, cancelled) (call :: later)).1 =
          (serveAll ((c.serve call cancelled).2.1, (c.serve call cancelled).2.2) later).1 := rfl
      rw [hstep, hserve]
      exact ih _
  session := c.base.releaseSink_session
  sink := c.base.releaseSink_sink

/-- What disposing of a compressor comes to. -/
structure Disposal (c : AsyncCompressor ω σ) (cancelled : Cancelled) (calls : List Call) : Prop where
  /-- The disposal itself lets the engine go and calls neither it nor the sink. -/
  session : (serveAll (c, cancelled) calls).1.dispose.base.session =
    (serveAll (c, cancelled) calls).1.base.session.dispose
  undisturbed : ¬Interrupted (c, cancelled) calls →
    Final .disposed (serveAll (c, cancelled) calls).1.dispose
  poisoned : Interrupted (c, cancelled) calls →
    Final .operationInProgress (serveAll (c, cancelled) calls).1.dispose

/-- Calls on a compressor over any engine and in front of any sink, which is then disposed of. -/
theorem disposal_settles (registry : Registry ω σ δ) (world : ω) (sink : Sink) (o : CodecOptions)
    (options : StreamOptions) {c : AsyncCompressor ω σ} {world' : ω}
    (hnew : AsyncCompressor.new registry world sink o options = (.ok c, world'))
    (cancelled : Cancelled) (calls : List Call) : Disposal c cancelled calls := by
  have hguard : (serveAll (c, cancelled) calls).1.dispose.inFlight = true ↔
      Interrupted (c, cancelled) calls := by
    simp [dispose_inFlight, serveAll_inFlight, (new_base hnew).2, Interrupted]
  refine ⟨dispose_session _, fun hclear => ?_, fun hset => ?_⟩
  · have hidle : (serveAll (c, cancelled) calls).1.dispose.inFlight = false :=
      eq_false_of_ne_true (mt hguard.mp hclear)
    exact .of_rejects (rejects_of_isDisposed hidle (dispose_isDisposed _)) (dispose_idem _)
  · exact .of_rejects (rejects_of_inFlight (hguard.mpr hset)) (dispose_idem _)

theorem disposal_settles_marked :
    ∃ c, AsyncCompressor.new Marked.registry () Marked.parkingSink Marked.options Marked.stream₃ =
        (.ok c, ()) ∧ Disposal c {} [⟨"stop", .write ⟨#[97]⟩⟩, ⟨"go", .dispose⟩] :=
  ⟨_, rfl, disposal_settles Marked.registry () Marked.parkingSink Marked.options Marked.stream₃ rfl
    _ _⟩

/-- The sink parks while it has half of the chunk of a write, and the write is cancelled. -/
theorem inFlight_parked :
    (serveAll ({ base := Marked.compressor Marked.parkingSink Marked.stream₃ }, {})
      [⟨"stop", .write ⟨#[97]⟩⟩]).1.inFlight = true := by
  generalize hc : Marked.compressor Marked.parkingSink Marked.stream₃ = c
  have hwrite := drive_of_last "stop" .process c (.filled ⟨#[97]⟩) (Cancelled.look {})
    (by subst hc; cbv)
  simp only [serveAll, List.foldl_cons, List.foldl_nil, serve, write, hwrite]
  subst hc
  cbv

/-- After that write a compressor which is disposed of never says so. -/
theorem disposal_unanswered :
    ∃ c, AsyncCompressor.new Marked.registry () Marked.parkingSink Marked.options Marked.stream₃ =
        (.ok c, ()) ∧
      ∀ call cancelled, call.request ≠ .dispose →
        ((serveAll (c, {}) [⟨"stop", .write ⟨#[97]⟩⟩]).1.dispose.serve call cancelled).1 ≠
          .returned (.error .disposed) := by
  refine ⟨{ base := Marked.compressor Marked.parkingSink Marked.stream₃ }, rfl,
    fun call cancelled hrequest => ?_⟩
  have hdisposed := (dispose_inFlight _).trans inFlight_parked
  rw [(rejects_of_inFlight hdisposed).serve call cancelled hrequest]
  simp

end AsyncCompressor

end StreamCodec
