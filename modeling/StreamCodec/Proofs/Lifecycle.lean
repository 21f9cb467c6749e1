import StreamCodec.Proofs.Conservation
import StreamCodec.Proofs.DriveFrame

/-!
# The life of a compressor

There are five ways to end a stream, and they enter each other: `finish` and
`close` complete it, dropping disposes of it, disposing completes it too. Three
flags decide what any of them still does. Whatever the order of the calls, and
whatever failed on the way, the flags rise once: the stream is completed by a
drive that finishes it and by nothing else, from then on neither the engine nor
the sink's bytes are touched, and once the engine is let go every call is
refused.
-/
namespace StreamCodec

/-- What a sink was asked for, last first: all that happened to it but its end. -/
def Sink.asked (s : Sink) : List SinkEvent := s.journal.filter (· ≠ .dropped)

namespace Compressor

variable {ω σ δ : Type}

/-- From one state to the other no engine was called, nothing was written to the sink, and the
totals stayed. -/
structure Rests (c c' : Compressor ω σ) : Prop where
  world : c'.session.world = c.session.world
  totalIn : c'.totalIn = c.totalIn
  totalOut : c'.totalOut = c.totalOut
  offers : c'.sink.offers = c.sink.offers
  data : c'.sink.data = c.sink.data

/-- Nor was the sink flushed. -/
structure Still (c c' : Compressor ω σ) : Prop extends Rests c c' where
  asked : c'.sink.asked = c.sink.asked

theorem Rests.refl (c : Compressor ω σ) : Rests c c := ⟨rfl, rfl, rfl, rfl, rfl⟩

theorem Rests.trans {c c' c'' : Compressor ω σ} (first : Rests c c') (second : Rests c' c'') :
    Rests c c'' where
  world := second.world.trans first.world
  totalIn := second.totalIn.trans first.totalIn
  totalOut := second.totalOut.trans first.totalOut
  offers := second.offers.trans first.offers
  data := second.data.trans first.data

theorem Still.refl (c : Compressor ω σ) : Still c c := ⟨.refl c, rfl⟩

theorem Still.trans {c c' c'' : Compressor ω σ} (first : Still c c') (second : Still c' c'') :
    Still c c'' :=
  ⟨first.toRests.trans second.toRests, second.asked.trans first.asked⟩

theorem still_disposed (c : Compressor ω σ) : Still c { c with session := c.session.dispose } :=
  ⟨⟨rfl, rfl, rfl, rfl, rfl⟩, rfl⟩

theorem still_handedBack (c : Compressor ω σ) : Still c { c with holdsSink := false } :=
  ⟨⟨rfl, rfl, rfl, rfl, rfl⟩, rfl⟩

theorem still_releaseSink (c : Compressor ω σ) : Still c c.releaseSink := by
  unfold releaseSink
  split
  · exact ⟨⟨rfl, rfl, rfl, rfl, rfl⟩, by simp [Sink.asked, Sink.drop, Sink.note]⟩
  · exact .refl c

theorem flushSink_only (c : Compressor ω σ) :
    Rests c c.flushSink.2 ∧ c.flushSink.2 = { c with sink := c.flushSink.2.sink } := by
  have hflush : c.sink.flush.2.offers = c.sink.offers ∧ c.sink.flush.2.data = c.sink.data := by
    unfold Sink.flush
    split <;> exact ⟨rfl, rfl⟩
  unfold flushSink
  split
  · exact ⟨.refl c, rfl⟩
  · split
    all_goals
      next h =>
      rw [h] at hflush
      exact ⟨⟨rfl, rfl, rfl, hflush.1, hflush.2⟩, rfl⟩

theorem flushSink_of_holds {c : Compressor ω σ} (hholds : c.holdsSink = true) :
    c.flushSink = (c.sink.flush.1.mapError .io, { c with sink := c.sink.flush.2 }) := by
  simp only [flushSink, hholds]
  rcases c.sink.flush with ⟨_ | _, sink⟩ <;> rfl

theorem flushSink_ok {c c' : Compressor ω σ} (hholds : c.holdsSink = true)
    (h : c.flushSink = (.ok (), c')) :
    c.sink.flush.1 = .ok () ∧ c' = { c with sink := c.sink.flush.2 } := by
  rw [flushSink_of_holds hholds] at h
  obtain ⟨hok, rfl⟩ := Prod.mk.inj h
  cases hflush : c.sink.flush.1 with
  | error e =>
    rw [hflush] at hok
    cases hok
  | ok => exact ⟨rfl, rfl⟩

theorem flushSink_frame (c : Compressor ω σ) : Frame c c.flushSink.2 := by
  rw [(flushSink_only c).2]
  exact ⟨.refl _, rfl, rfl, rfl⟩

/-! ## Completing -/

/-- How a completion may go. -/
inductive Completion (c : Compressor ω σ) : Except CodecError Unit × Compressor ω σ → Prop
  | disposed (gone : c.session.isDisposed = true) : Completion c (.error .disposed, c)
  | already (live : c.session.isDisposed = false) (complete : c.isCompleted = true) :
      Completion c (.ok (), c)
  | fails {e : CodecError} {d : Compressor ω σ} (live : c.session.isDisposed = false)
      (incomplete : c.isCompleted = false) (h : c.driveIdle .finish = (.error e, d)) :
      Completion c (.error e, d)
  | finishes {d : Compressor ω σ} (live : c.session.isDisposed = false)
      (incomplete : c.isCompleted = false) (h : c.driveIdle .finish = (.ok (), d)) :
      Completion c { d with isCompleted := true }.flushSink

theorem completion (c : Compressor ω σ) : Completion c c.complete := by
  unfold complete
  split
  · next hgone => exact .disposed hgone
  · next hlive =>
    split
    · next hcomplete => exact .already (eq_false_of_ne_true hlive) hcomplete
    · next hincomplete =>
      split
      · next h => exact .fails (eq_false_of_ne_true hlive) (eq_false_of_ne_true hincomplete) h
      · next h => exact .finishes (eq_false_of_ne_true hlive) (eq_false_of_ne_true hincomplete) h

/-- A finish began here, succeeded, and brought the engine to its end and all output to the sink;
after it came no more than a flush of the sink. -/
def FinishedBy (c c' : Compressor ω σ) : Prop :=
  ∃ d, c.driveIdle .finish = (.ok (), d) ∧ Finished d ∧ Rests d c'

theorem FinishedBy.trans {c c' c'' : Compressor ω σ} (h : FinishedBy c c') (later : Rests c' c'') :
    FinishedBy c c'' := by
  obtain ⟨d, hdrive, hfinished, hrests⟩ := h
  exact ⟨d, hdrive, hfinished, hrests.trans later⟩

theorem finishedBy_complete {c : Compressor ω σ} (hbefore : c.isCompleted = false)
    (hafter : c.complete.2.isCompleted = true) : FinishedBy c c.complete.2 := by
  have hcompletion := c.completion
  generalize c.complete = answer at hcompletion hafter ⊢
  cases hcompletion with
  | disposed => rw [hbefore] at hafter; cases hafter
  | already _ hcomplete => rw [hbefore] at hcomplete; cases hcomplete
  | fails _ _ h =>
    have hsame := (c.driveIdle_frame .finish).isCompleted
    rw [h] at hsame
    rw [hsame, hbefore] at hafter
    cases hafter
  | @finishes d _ _ h =>
    have hfinished : Finished (c.driveIdle .finish).2 := finished_of_drive (congrArg Prod.fst h)
    rw [h] at hfinished
    have hmarked : Rests d { d with isCompleted := true } := ⟨rfl, rfl, rfl, rfl, rfl⟩
    exact ⟨d, h, hfinished, hmarked.trans (flushSink_only _).1⟩

/-- A completion leaves everything but the flag `isCompleted` as a drive does. -/
theorem complete_frame (c : Compressor ω σ) :
    c.session.Frame c.complete.2.session ∧ c.complete.2.holdsSink = c.holdsSink ∧
      (c.isCompleted = true → c.complete.2 = c) := by
  have hcompletion := c.completion
  generalize c.complete = answer at hcompletion ⊢
  cases hcompletion with
  | disposed => exact ⟨.refl _, rfl, fun _ => rfl⟩
  | already => exact ⟨.refl _, rfl, fun _ => rfl⟩
  | fails _ hincomplete h =>
    have hframe := c.driveIdle_frame .finish
    rw [h] at hframe
    exact ⟨hframe.session, hframe.holdsSink, fun hc => by rw [hincomplete] at hc; cases hc⟩
  | @finishes d _ hincomplete h =>
    have hframe := c.driveIdle_frame .finish
    rw [h] at hframe
    have hflush := flushSink_frame { d with isCompleted := true }
    exact ⟨hframe.session.trans hflush.session, hflush.holdsSink.trans hframe.holdsSink,
      fun hc => by rw [hincomplete] at hc; cases hc⟩

/-! ## Disposing and dropping -/

/-- To dispose of a live compressor is to complete it and to let the engine and, at most, the sink
go. -/
theorem dispose_of_live {c : Compressor ω σ} (hlive : c.session.isDisposed = false) :
    c.dispose =
      let gone := { c.complete.2 with session := c.complete.2.session.dispose }
      if gone.options.leaveOpen then gone else gone.releaseSink := by
  have hcompleted : (if c.isCompleted then c else c.complete.2) = c.complete.2 := by
    split
    · next h => exact (c.complete_frame.2.2 h).symm
    · rfl
  unfold dispose
  rw [if_neg (by simp [hlive]), hcompleted]

theorem still_dispose {c : Compressor ω σ} (hlive : c.session.isDisposed = false) :
    Still c.complete.2 c.dispose ∧ c.dispose.isCompleted = c.complete.2.isCompleted ∧
      c.dispose.session.isDisposed = true := by
  rw [dispose_of_live hlive]
  have hgone := still_disposed c.complete.2
  dsimp only
  split
  · exact ⟨hgone, rfl, rfl⟩
  · refine ⟨hgone.trans (still_releaseSink _), ?_, ?_⟩
    all_goals
      unfold releaseSink
      split <;> rfl

theorem dispose_of_disposed {c : Compressor ω σ} (hgone : c.session.isDisposed = true) :
    c.dispose = c := if_pos hgone

theorem drop_of_completed {c : Compressor ω σ} (hcomplete : c.isCompleted = true) :
    c.drop = c.releaseSink := by
  unfold drop
  rw [if_neg (by simp [hcomplete])]

theorem drop_of_disposed {c : Compressor ω σ} (hgone : c.session.isDisposed = true) :
    c.drop = c.releaseSink := by
  unfold drop
  rw [dispose_of_disposed hgone, ite_self]

theorem drop_of_incomplete {c : Compressor ω σ} (hincomplete : c.isCompleted = false)
    (hholds : c.holdsSink = true) : c.drop = c.dispose.releaseSink := by
  unfold drop
  rw [if_pos (by simp [hincomplete, hholds])]

theorem finishedBy_dispose {c : Compressor ω σ} (hbefore : c.isCompleted = false)
    (hafter : c.dispose.isCompleted = true) : FinishedBy c c.dispose := by
  cases hlive : c.session.isDisposed with
  | true =>
    rw [dispose_of_disposed hlive, hbefore] at hafter
    cases hafter
  | false =>
    obtain ⟨hstill, hsame, -⟩ := still_dispose hlive
    rw [hsame] at hafter
    exact (finishedBy_complete hbefore hafter).trans hstill.toRests

theorem finishedBy_drop {c : Compressor ω σ} (hbefore : c.isCompleted = false)
    (hafter : c.drop.isCompleted = true) : FinishedBy c c.drop := by
  cases hholds : c.holdsSink with
  | true =>
    rw [drop_of_incomplete hbefore hholds, releaseSink_isCompleted] at hafter
    rw [drop_of_incomplete hbefore hholds]
    exact (finishedBy_dispose hbefore hafter).trans (still_releaseSink _).toRests
  | false =>
    have hdrop : c.drop = c.releaseSink := by simp [drop, hholds]
    rw [hdrop, releaseSink_isCompleted, hbefore] at hafter
    cases hafter

/-! ## Requests and endings -/

theorem write_frame (c : Compressor ω σ) (data : ByteArray) : Frame c (c.write data).2 := by
  have hdrive := drive_frame .process c (.filled data)
  unfold write
  split
  · exact .refl c
  · split
    · exact .refl c
    · split
      all_goals
        next h =>
        rw [h] at hdrive
        exact hdrive

theorem flush_frame (c : Compressor ω σ) : Frame c c.flush.2 := by
  have hdrive := c.driveIdle_frame .flush
  unfold flush
  split
  · exact .refl c
  · split
    · exact c.flushSink_frame
    · split
      · next h =>
        rw [h] at hdrive
        exact hdrive
      · next h =>
        rw [h] at hdrive
        exact hdrive.trans (flushSink_frame _)

theorem finishedBy_serve {c : Compressor ω σ} (request : Request) (hbefore : c.isCompleted = false)
    (hafter : (c.serve request).2.isCompleted = true) : FinishedBy c (c.serve request).2 := by
  cases request with
  | write data =>
    have hsame : (c.serve (.write data)).2.isCompleted = c.isCompleted :=
      (c.write_frame data).isCompleted
    rw [hsame, hbefore] at hafter
    cases hafter
  | flush =>
    have hsame : (c.serve .flush).2.isCompleted = c.isCompleted := c.flush_frame.isCompleted
    rw [hsame, hbefore] at hafter
    cases hafter
  | complete => exact finishedBy_complete hbefore hafter
  | dispose => exact finishedBy_dispose hbefore hafter

/-- How `finish` and `close` go on from a completion: they hand the sink back or let it go, or,
where the completion failed, drop the compressor. -/
theorem endWith_cases (c : Compressor ω σ) (ending : Ending) :
    c.endWith ending = c.drop ∨ c.endWith ending = c.complete.2.drop ∨
      (c.complete.1 = .ok () ∧ Still c.complete.2 (c.endWith ending) ∧
        (c.endWith ending).isCompleted = c.complete.2.isCompleted) := by
  rcases hcomplete : c.complete with ⟨e | _, d⟩
  · cases ending with
    | finish => exact .inr (.inl (by simp only [endWith, finish, hcomplete]))
    | close => exact .inr (.inl (by simp only [endWith, close, hcomplete]))
    | drop => exact .inl rfl
  · cases ending with
    | finish =>
      simp only [endWith, finish, hcomplete]
      split
      · exact .inr (.inr ⟨trivial, still_handedBack d, rfl⟩)
      · exact .inr (.inl rfl)
    | close =>
      simp only [endWith, close, hcomplete]
      split
      · exact .inr (.inl rfl)
      · split
        · exact .inr (.inr ⟨trivial, still_handedBack d, rfl⟩)
        · exact .inr (.inr ⟨trivial, still_releaseSink d, releaseSink_isCompleted d⟩)
    | drop => exact .inl rfl

theorem finishedBy_endWith {c : Compressor ω σ} (ending : Ending) (hbefore : c.isCompleted = false)
    (hafter : (c.endWith ending).isCompleted = true) :
    FinishedBy c (c.endWith ending) ∨ FinishedBy c.complete.2 (c.endWith ending) := by
  rcases c.endWith_cases ending with hdrop | hdrop | ⟨-, hstill, hsame⟩
  · rw [hdrop] at hafter ⊢
    exact .inl (finishedBy_drop hbefore hafter)
  · rw [hdrop] at hafter ⊢
    cases hfailed : c.complete.2.isCompleted with
    | true =>
      rw [drop_of_completed hfailed]
      exact .inl ((finishedBy_complete hbefore hfailed).trans (still_releaseSink _).toRests)
    | false => exact .inr (finishedBy_drop hfailed hafter)
  · rw [hsame] at hafter
    exact .inl ((finishedBy_complete hbefore hafter).trans hstill.toRests)

theorem rests_serve {c : Compressor ω σ} (hcomplete : c.isCompleted = true) (request : Request) :
    Rests c (c.serve request).2 ∧ (c.serve request).2.isCompleted = true := by
  cases request with
  | write data =>
    have hsame : (c.serve (.write data)).2 = c := by
      simp only [serve, write, hcomplete, ↓reduceIte]
      split <;> rfl
    rw [hsame]
    exact ⟨.refl c, hcomplete⟩
  | flush =>
    have hafter : (c.serve .flush).2.isCompleted = c.isCompleted := c.flush_frame.isCompleted
    refine ⟨?_, hafter.trans hcomplete⟩
    simp only [serve, flush, hcomplete, ↓reduceIte]
    split
    · exact .refl c
    · exact c.flushSink_only.1
  | complete =>
    have hsame : (c.serve .complete).2 = c := c.complete_frame.2.2 hcomplete
    rw [hsame]
    exact ⟨.refl c, hcomplete⟩
  | dispose =>
    cases hlive : c.session.isDisposed with
    | true =>
      have hsame : (c.serve .dispose).2 = c := dispose_of_disposed hlive
      rw [hsame]
      exact ⟨.refl c, hcomplete⟩
    | false =>
      obtain ⟨hstill, hsame, -⟩ := still_dispose hlive
      rw [c.complete_frame.2.2 hcomplete] at hstill hsame
      exact ⟨hstill.toRests, hsame.trans hcomplete⟩

theorem rests_serveAll (later : List Request) {c : Compressor ω σ} (hcomplete : c.isCompleted = true) :
    Rests c (c.serveAll later) ∧ (c.serveAll later).isCompleted = true := by
  induction later generalizing c with
  | nil => exact ⟨.refl c, hcomplete⟩
  | cons request rest ih =>
    obtain ⟨hrests, hstays⟩ := rests_serve hcomplete request
    obtain ⟨hrest, hlast⟩ := ih hstays
    exact ⟨hrests.trans hrest, hlast⟩

theorem still_endWith {c : Compressor ω σ} (hcomplete : c.isCompleted = true) (ending : Ending) :
    Still c (c.endWith ending) := by
  have hsame := c.complete_frame.2.2 hcomplete
  rcases c.endWith_cases ending with hdrop | hdrop | ⟨-, hstill, -⟩
  · rw [hdrop, drop_of_completed hcomplete]
    exact still_releaseSink c
  · rw [hdrop, hsame, drop_of_completed hcomplete]
    exact still_releaseSink c
  · rwa [hsame] at hstill

/-- What a completed stream answers until it is disposed of. -/
structure AnswersCompleted (c : Compressor ω σ) : Prop where
  write : ∀ data, c.write data = (.error .completed, c)
  complete : c.complete = (.ok (), c)
  flush : c.flush = (c.sink.flush.1.mapError .io, { c with sink := c.sink.flush.2 })

theorem answersCompleted {c : Compressor ω σ} (hcomplete : c.isCompleted = true)
    (hlive : c.session.isDisposed = false) (hholds : c.holdsSink = true) : AnswersCompleted c where
  write data := by simp [Compressor.write, hlive, hcomplete]
  complete := by simp [Compressor.complete, hlive, hcomplete]
  flush := by
    rw [← flushSink_of_holds hholds]
    simp [Compressor.flush, hlive, hcomplete]

/-- Whatever it is asked, a compressor that was disposed of refuses and stays as it is, but that
its end lets the sink go. -/
structure Refuses (c : Compressor ω σ) : Prop where
  serve : ∀ request, request ≠ .dispose → c.serve request = (.error .disposed, c)
  finish : c.finish = (.error .disposed, c.releaseSink)
  close : c.close = (.error .disposed, c.releaseSink)
  later : ∀ requests, c.serveAll requests = c
  ends : ∀ ending, Still c (c.endWith ending)

theorem refuses_of_disposed {c : Compressor ω σ} (hgone : c.session.isDisposed = true) :
    Refuses c := by
  have hdrop := drop_of_disposed hgone
  have hcomplete : c.complete = (.error .disposed, c) := by simp [complete, hgone]
  have hfinish : c.finish = (.error .disposed, c.releaseSink) := by
    simp only [finish, hcomplete, hdrop]
  have hclose : c.close = (.error .disposed, c.releaseSink) := by
    simp only [close, hcomplete, hdrop]
  have hserve (request : Request) (h : request ≠ .dispose) :
      c.serve request = (.error .disposed, c) := by
    cases request with
    | write data => simp [Compressor.serve, write, hgone, Except.map]
    | flush => simp [Compressor.serve, flush, hgone, Except.map]
    | complete => simp [Compressor.serve, hcomplete, Except.map]
    | dispose => exact absurd rfl h
  refine ⟨hserve, hfinish, hclose, fun requests => ?_, fun ending => ?_⟩
  · induction requests with
    | nil => rfl
    | cons request rest ih =>
      have hsame : (c.serve request).2 = c := by
        by_cases h : request = .dispose
        · rw [h]
          exact dispose_of_disposed hgone
        · rw [hserve request h]
      rw [serveAll, List.foldl_cons, hsame]
      exact ih
  · have hends : c.endWith ending = c.releaseSink := by
      cases ending with
      | finish => exact congrArg Prod.snd hfinish
      | close => exact congrArg Prod.snd hclose
      | drop => exact hdrop
    rw [hends]
    exact still_releaseSink c

/-! ## Along runs -/

/-- Between two requests a live compressor has its engine open and its sink at hand. -/
structure Sound (c : Compressor ω σ) : Prop where
  ready : c.session.IsReady
  holds : c.session.isDisposed = false → c.holdsSink = true

theorem Frame.sound {c c' : Compressor ω σ} (h : Frame c c') (hc : Sound c) : Sound c' where
  ready := h.session.ready hc.ready
  holds hlive := by
    rw [h.session.isDisposed] at hlive
    exact h.holdsSink.trans (hc.holds hlive)

theorem sound_serve {c : Compressor ω σ} (hc : Sound c) (request : Request) :
    Sound (c.serve request).2 ∧ ((c.serve request).2.session.isDisposed = true ↔
      c.session.isDisposed = true ∨ request = .dispose) := by
  cases request with
  | write data =>
    have hframe : Frame c (c.serve (.write data)).2 := c.write_frame data
    refine ⟨hframe.sound hc, ?_⟩
    rw [hframe.session.isDisposed]
    simp
  | flush =>
    have hframe : Frame c (c.serve .flush).2 := c.flush_frame
    refine ⟨hframe.sound hc, ?_⟩
    rw [hframe.session.isDisposed]
    simp
  | complete =>
    obtain ⟨hsession, hholds, -⟩ := c.complete_frame
    have hframe : c.session.Frame (c.serve .complete).2.session := hsession
    have hsame : (c.serve .complete).2.holdsSink = c.holdsSink := hholds
    refine ⟨⟨hframe.ready hc.ready, fun hlive => ?_⟩, ?_⟩
    · rw [hframe.isDisposed] at hlive
      exact hsame.trans (hc.holds hlive)
    · rw [hframe.isDisposed]
      simp
  | dispose =>
    have hgone : (c.serve .dispose).2.session.isDisposed = true := by
      cases hlive : c.session.isDisposed with
      | true =>
        have hsame : (c.serve .dispose).2 = c := dispose_of_disposed hlive
        rw [hsame, hlive]
      | false => exact (still_dispose hlive).2.2
    refine ⟨⟨fun hlive => ?_, fun hlive => ?_⟩, by simp [hgone]⟩
    all_goals
      rw [hgone] at hlive
      cases hlive

theorem sound_serveAll (requests : List Request) {c : Compressor ω σ} (hc : Sound c) :
    Sound (c.serveAll requests) ∧ ((c.serveAll requests).session.isDisposed = true ↔
      c.session.isDisposed = true ∨ .dispose ∈ requests) := by
  induction requests generalizing c with
  | nil => exact ⟨hc, by simp [serveAll]⟩
  | cons request rest ih =>
    obtain ⟨hserved, hgone⟩ := sound_serve hc request
    obtain ⟨hrest, hlast⟩ := ih hserved
    refine ⟨hrest, ?_⟩
    have hsame : c.serveAll (request :: rest) = (c.serve request).2.serveAll rest := rfl
    rw [hsame, hlast, hgone, List.mem_cons, or_assoc, eq_comm (a := request)]

/-- A live session is not refused a finish without input. -/
theorem finish_runs {s : EncoderSession ω σ} (hready : s.IsReady) (hlive : s.isDisposed = false)
    {w : Windows} (hempty : w.src.isEmpty = true) (e : CodecError) :
    (s.compress .finish w).1 ≠ .error e := by
  obtain ⟨handle, hhandle⟩ := Option.isSome_iff_exists.mp (hready hlive)
  simp only [EncoderSession.compress, EncoderSession.opened_of_handle hlive hhandle]
  split
  · rw [if_pos (by simp [hempty])]
    rintro ⟨⟩
  · split <;> rintro ⟨⟩

/-- Between two passes of a finish in front of a steady sink: the session is live, and there is no
input. -/
structure Winding (base : List UInt8) (x : Compressor (ω × Ledger) σ × CursorBuffer) : Prop where
  balanced : Balanced base x.1
  live : x.1.session.isDisposed = false
  idle : x.2.isEmpty = true

/-- A pass of such a finish drains all that the session emitted, whatever its status. -/
theorem Winding.pass {base : List UInt8} {x : Compressor (ω × Ledger) σ × CursorBuffer}
    (h : Winding base x) :
    ∃ status y, Compressor.pass .finish x.1 x.2 = y.1.conclude status y.2 ∧ Winding base y := by
  obtain ⟨c, src⟩ := x
  obtain ⟨hb, hlive, hidle⟩ := h
  obtain ⟨engine, he⟩ := hb.engine
  rcases EncoderSession.compress_ends .finish c.session he hb.ready ⟨src, c.output⟩ with
    ⟨e, hrefused⟩ | ⟨-, status, session, w, calls, hran, hends⟩
  · exact absurd (congrArg Prod.fst hrefused) (finish_runs hb.ready hlive hidle e)
  · obtain ⟨d, hok, hd⟩ := drain_steady (c := { c with session, output := w.dst }) hb.steady
      (hb.holds hlive) (hends.moved.pos.trans hb.pos)
    have hsrc := hends.moved.src
    rw [CursorBuffer.octets_unread_eq_nil_iff _ |>.mpr hidle] at hsrc
    refine ⟨status, (d, w.src), ?_, (hb.drained rfl hends hd).1, ?_, ?_⟩
    · simp only [Compressor.pass, hran, hok]
    · rw [hd.session]
      exact hends.charged.isDisposed.trans hlive
    · exact CursorBuffer.octets_unread_eq_nil_iff _ |>.mp (List.append_eq_nil_iff.mp hsrc.symm).2

theorem finish_fails_steady {base : List UInt8} {c d : Compressor (ω × Ledger) σ} {e : CodecError}
    (hb : Balanced base c) (hlive : c.session.isDisposed = false)
    (h : c.driveIdle .finish = (.error e, d)) : ∃ codec detail, e = .invalidData codec detail := by
  have hdrive : (drive .finish c (.filled ByteArray.empty)).1 = .error e := congrArg Prod.fst h
  have start : Winding base (c, .filled ByteArray.empty) := ⟨hb, hlive, rfl⟩
  have kept (x x' : Compressor (ω × Ledger) σ × CursorBuffer) (hx : Winding base x)
      (hnext : Compressor.pass .finish x.1 x.2 = .inl x') : Winding base x' := by
    obtain ⟨status, y, hy, hwinding⟩ := hx.pass
    rw [hy] at hnext
    cases status with
    | destinationTooSmall =>
      obtain rfl := Sum.inl.inj hnext
      exact hwinding
    | done | needMoreData | invalidData => cases hnext
  rcases drive_cases .finish c (.filled ByteArray.empty) with hloop | hrefused
  · obtain ⟨last, hlast, hend⟩ := loop_invariant (Winding base) kept start hloop
    obtain ⟨status, y, hy, -⟩ := hlast.pass
    rw [hy] at hend
    have hanswer := congrArg (Sum.elim (fun _ => .ok ()) Prod.fst) hend
    rw [Sum.elim_inr, hdrive] at hanswer
    cases status with
    | done | needMoreData | destinationTooSmall => cases hanswer
    | invalidData => exact ⟨_, _, (Except.error.inj hanswer).symm⟩
  · rw [hrefused] at hdrive
    exact ⟨_, _, (Except.error.inj hdrive).symm⟩

/-- In front of a steady sink a completion that the engine goes along with completes the stream,
also where the sink's flush fails. -/
theorem completes_steady {base : List UInt8} {c : Compressor (ω × Ledger) σ} (hb : Balanced base c)
    (hlive : c.session.isDisposed = false)
    (hengine : ∀ codec detail, c.complete.1 ≠ .error (.invalidData codec detail)) :
    c.complete.2.isCompleted = true := by
  have hcompletion := c.completion
  generalize c.complete = answer at hcompletion hengine ⊢
  cases hcompletion with
  | disposed hgone => rw [hlive] at hgone; cases hgone
  | already _ hcomplete => exact hcomplete
  | fails _ _ h =>
    obtain ⟨codec, detail, rfl⟩ := finish_fails_steady hb hlive h
    exact absurd rfl (hengine codec detail)
  | finishes => exact (flushSink_frame _).isCompleted

/-- Once a completion came through, every other way to end the stream comes to the same. -/
theorem endings_alike {c : Compressor ω σ} (hlive : c.session.isDisposed = false)
    (hholds : c.holdsSink = true) (hcomplete : c.complete.2.isCompleted = true) :
    Still c.complete.2 c.dispose ∧ ∀ ending, Still c.complete.2 (c.endWith ending) := by
  have hdispose := (still_dispose hlive).1
  have hdrop : Still c.complete.2 c.drop := by
    cases hbefore : c.isCompleted with
    | true =>
      rw [drop_of_completed hbefore, c.complete_frame.2.2 hbefore]
      exact still_releaseSink c
    | false =>
      rw [drop_of_incomplete hbefore hholds]
      exact hdispose.trans (still_releaseSink _)
  refine ⟨hdispose, fun ending => ?_⟩
  rcases c.endWith_cases ending with h | h | ⟨-, hstill, -⟩
  · rw [h]
    exact hdrop
  · rw [h, drop_of_completed hcomplete]
    exact still_releaseSink _
  · exact hstill

/-- What holds of a compressor that has served these requests in front of this sink. -/
structure Lifecycle (sink : Sink) (requests : List Request) (c : Compressor (ω × Ledger) σ) :
    Prop where
  /-- Requests complete the stream only by a drive that finishes it, and so do endings. -/
  completes : ∀ request, c.isCompleted = false → (c.serve request).2.isCompleted = true →
    FinishedBy c (c.serve request).2
  ends : ∀ ending, c.isCompleted = false → (c.endWith ending).isCompleted = true →
    FinishedBy c (c.endWith ending) ∨ FinishedBy c.complete.2 (c.endWith ending)
  /-- From then on no call, disposing and dropping included, reaches the engine or writes to the
  sink. -/
  rests : c.isCompleted = true → ∀ later, Rests c (c.serveAll later) ∧
    ∀ ending, Rests c ((c.serveAll later).endWith ending)
  /-- Until the compressor is disposed of it is answered that the stream is completed. -/
  answers : c.isCompleted = true → .dispose ∉ requests → AnswersCompleted c
  /-- Then everything is refused. -/
  refuses : .dispose ∈ requests → Refuses c
  /-- Where the sink does not fail, nor the engine at the end, the stream ends in the same way
  whoever ends it. -/
  alike : sink.Steady → .dispose ∉ requests →
    (∀ codec detail, c.complete.1 ≠ .error (.invalidData codec detail)) →
    c.complete.2.isCompleted = true ∧ Still c.complete.2 c.dispose ∧
      ∀ ending, Still c.complete.2 (c.endWith ending)

/-- At every point of every run, over any engine and in front of any sink. -/
theorem lifecycle_along_runs (registry : Registry ω σ δ) (world : ω) (sink : Sink) (o : CodecOptions)
    (options : StreamOptions) {c : Compressor ω σ} {world' : ω}
    (hnew : Compressor.new registry world sink o options = (.ok c, world'))
    (requests : List Request) : Lifecycle sink requests ((c.recorded []).serveAll requests) := by
  have hfresh := fresh_new registry world sink o options hnew
  have hopen : (c.recorded []).session.isDisposed = false := by
    obtain ⟨factory, handle₁, world₁, handle, -, -, -, rfl⟩ := created hnew
    rfl
  have hsound : Sound (c.recorded []) := ⟨fun _ => hfresh.handle, fun _ => hfresh.holdsSink⟩
  obtain ⟨hc, hgone⟩ := sound_serveAll requests hsound
  have hlive (h : .dispose ∉ requests) :
      ((c.recorded []).serveAll requests).session.isDisposed = false := by
    refine eq_false_of_ne_true fun hdisposed => ?_
    rcases hgone.mp hdisposed with hbefore | hmem
    · rw [hopen] at hbefore
      cases hbefore
    · exact h hmem
  refine ⟨fun request => finishedBy_serve request, fun ending => finishedBy_endWith ending,
    fun hcomplete later => ?_, fun hcomplete h => ?_, fun h => ?_, fun hsteady h hengine => ?_⟩
  · obtain ⟨hrests, hstays⟩ := rests_serveAll later hcomplete
    exact ⟨hrests, fun ending => hrests.trans (still_endWith hstays ending).toRests⟩
  · exact answersCompleted hcomplete (hlive h) (hc.holds (hlive h))
  · exact refuses_of_disposed (hgone.mpr (.inr h))
  · have hpos : 0 < (c.recorded []).output.capacity := by
      rw [hfresh.output, CursorBuffer.capacity_withCapacity]
      exact options.capacity_pos
    have hb := ((hfresh.balanced hsteady).serveAll requests hpos).1
    have hcomplete := completes_steady hb (hlive h) hengine
    exact ⟨hcomplete, endings_alike (hlive h) (hc.holds (hlive h)) hcomplete⟩

theorem lifecycle_along_runs_marked :
    ∃ c, Compressor.new Marked.registry () Marked.slowSink Marked.options Marked.stream₃ =
        (.ok c, ()) ∧
      Lifecycle Marked.slowSink [.write ⟨#[97]⟩] ((c.recorded []).serveAll [.write ⟨#[97]⟩]) ∧
      Marked.slowSink.Steady ∧ ((c.recorded []).serveAll [.write ⟨#[97]⟩]).complete.1 = .ok () := by
  have hsteady : Marked.slowSink.Steady := by unfold Sink.Steady; decide
  refine ⟨_, Marked.new_compressor .., lifecycle_along_runs Marked.registry () Marked.slowSink
    Marked.options Marked.stream₃ (Marked.new_compressor ..) _, hsteady, ?_⟩
  generalize hc : (Marked.compressor Marked.slowSink Marked.stream₃).recorded [] = c
  -- Both the write and the completion are a single pass.
  have hwrite := drive_of_last .process c (.filled ⟨#[97]⟩) (by subst hc; cbv)
  generalize hpassed : (outcome .process c (.filled ⟨#[97]⟩)).2.1 = passed
  have hwritten : c.serveAll [.write ⟨#[97]⟩] = passed := by
    simp only [serveAll, List.foldl_cons, List.foldl_nil, serve, write, hwrite]
    subst hc hpassed
    cbv
  have hfinish := drive_of_last .finish passed (.filled ByteArray.empty) (by subst hc hpassed; cbv)
  rw [hwritten]
  simp only [complete, driveIdle, hfinish]
  subst hc hpassed
  cbv

end Compressor

end StreamCodec
