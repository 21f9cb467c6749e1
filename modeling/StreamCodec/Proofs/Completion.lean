import StreamCodec.Proofs.Lifecycle
import StreamCodec.Proofs.Poisoning
import StreamCodec.Proofs.SinkSignals

/-!
# What a completed stream left in the sink

A compressor counts as completed once the trailer is out, before the sink is
flushed. Where that flush fails the completion fails, but whoever asks again is
told that all is well: no further flush is tried. So a completion that succeeds
promises the whole stream in the sink and a flush of it since the last write,
but a flush that may have failed, if it was an earlier call that completed the
stream.

`Standing` is the invariant between two calls. It says the same of both kinds
of compressor, of the suspending ones as long as no operation was interrupted.
-/
namespace StreamCodec

variable {ω σ δ : Type}

namespace Compressor

/-- The bytes of a compressor on the way: what left the output buffer is in the sink, behind the
bytes that were there before, in order and perhaps with some taken twice. -/
structure Carries (sink : Sink) (c : Compressor (ω × Ledger) σ) : Prop where
  engine : ∃ engine : EncoderEngine ω σ, c.session.engine = engine.recording
  ready : c.session.IsReady
  totalOut : c.totalOut = c.ledger.produced.length
  bytes : ∃ gone taken, c.ledger.produced = gone ++ octets c.output.unread ∧
    octets c.sink.data = octets sink.data ++ taken ∧ gone.Sublist taken
  journal : sink.journal <:+ c.sink.journal

namespace Carries

variable {sink : Sink} {c c' : Compressor (ω × Ledger) σ}

theorem run (h : Carries sink c) (op : FlushOp) (src : CursorBuffer) : Carries sink { c with
    session := (c.session.compress op ⟨src, c.output⟩).2.1
    output := (c.session.compress op ⟨src, c.output⟩).2.2.dst } := by
  obtain ⟨engine, he⟩ := h.engine
  rcases EncoderSession.compress_ends op c.session he h.ready ⟨src, c.output⟩ with
    ⟨e, hrefused⟩ | ⟨-, status, session, w, calls, hran, hends⟩
  · rw [hrefused]
    exact h
  rw [hran]
  have hcharged := hends.charged
  have hproduced : (ledger { c with session, output := w.dst }).produced =
      c.ledger.produced ++ calls.produced := by
    rw [← Ledger.produced_append]
    exact congrArg Ledger.produced hcharged.ledger
  obtain ⟨gone, taken, hgone, htaken, hsublist⟩ := h.bytes
  refine ⟨⟨engine, hcharged.engine.trans he⟩, fun hlive => ?_, ?_, ⟨gone, taken, ?_, htaken,
    hsublist⟩, h.journal⟩
  · exact hcharged.handle (h.ready (hcharged.isDisposed ▸ hlive))
  · rw [hproduced, List.length_append, ← h.totalOut]
    exact hcharged.totalOut
  · rw [hproduced, hgone, List.append_assoc]
    exact congrArg _ hends.moved.dst.symm

/-- What is handed over moves to the sink, and stays in the buffer unless all of it was taken. -/
theorem hands (h : Carries sink c) {count : Nat} (hands : Hands c c' count)
    (journal : c.sink.journal <:+ c'.sink.journal) : Carries sink c' := by
  have hledger : c'.ledger = c.ledger := congrArg (·.world.2) hands.session
  obtain ⟨gone, taken, hgone, htaken, hsublist⟩ := h.bytes
  refine ⟨?_, ?_, ?_, ?_, h.journal.trans journal⟩
  · rw [hands.session]
    exact h.engine
  · rw [hands.session]
    exact h.ready
  · rw [hledger, ← h.totalOut]
    exact congrArg (·.totalOut) hands.session
  · have hdata : octets c'.sink.data =
        octets sink.data ++ (taken ++ (octets c.output.unread).take count) := by
      rw [hands.data, htaken, List.append_assoc]
    rw [hledger, hgone]
    rcases hands.rest with ⟨hwhole, hempty⟩ | ⟨-, hsame⟩
    · refine ⟨gone ++ octets c.output.unread, _, by rw [hempty, List.append_nil], hdata, ?_⟩
      rw [hwhole, ← CursorBuffer.length_octets_unread, List.take_length]
      exact hsublist.append_right _
    · rw [hsame]
      exact ⟨gone, _, rfl, hdata, hsublist.trans (List.sublist_append_left ..)⟩

theorem quiet (h : Carries sink c) {events : List SinkEvent}
    (engine : c'.session.engine = c.session.engine) (ready : c'.session.IsReady)
    (world : c'.session.world = c.session.world) (totalOut : c'.totalOut = c.totalOut)
    (output : c'.output = c.output) (signals : Sink.Signals c.sink c'.sink events) :
    Carries sink c' := by
  have hledger : c'.ledger = c.ledger := congrArg Prod.snd world
  refine ⟨engine ▸ h.engine, ready, ?_, ?_, ?_⟩
  · rw [hledger, totalOut, h.totalOut]
  · rw [hledger, output, signals.data]
    exact h.bytes
  · rw [signals.journal]
    exact h.journal.trans (List.suffix_append ..)

theorem releaseSink (h : Carries sink c) : Carries sink c.releaseSink := by
  unfold Compressor.releaseSink
  split
  · exact h.quiet rfl h.ready rfl rfl rfl c.sink.signals_drop
  · exact h

theorem drained (h : Carries sink c) : Carries sink c.drain.2 := by
  have hdrain : c.drain = (c.drain.1, c.drain.2) := rfl
  by_cases hidle : c.output.isEmpty = true ∨ c.holdsSink = false
  · rw [drain_idle hidle hdrain]
    exact h
  · rw [not_or, Bool.not_eq_true, Bool.not_eq_false] at hidle
    obtain ⟨taken, hhands⟩ := drain_hands hidle.1 hidle.2 hdrain
    refine h.hands hhands ?_
    have hjournal := Sink.writeAllFrom_journal c.sink.writes c.sink c.output.unread
    unfold drain
    rw [if_neg (by simp [hidle.1]), if_neg (by simp [hidle.2])]
    have hwrites : Sink.writeAllFrom c.sink.writes c.sink c.output.unread =
      c.sink.writeAll c.output.unread := rfl
    rw [hwrites] at hjournal
    split
    all_goals
      next hwrite =>
      rw [hwrite] at hjournal
      exact hjournal

theorem drive (h : Carries sink c) (op : FlushOp) (src : CursorBuffer) :
    Carries sink (drive op c src).2.1 :=
  drive_keeps op (fun _ src h => h.run op src) (fun _ h => h.drained) h src

theorem racingDrain (h : Carries sink c) (token : Token) (cancelled : Cancelled) :
    Carries sink (AsyncCompressor.drain token c cancelled).2.1 := by
  unfold AsyncCompressor.drain
  split
  · exact h
  · next hfull =>
    split
    · exact h
    · have hsize : c.output.unread.size ≠ 0 := fun hz =>
        hfull (c.output.isEmpty_iff.mpr (c.output.size_unread ▸ hz))
      obtain ⟨taken, htakes⟩ := c.sink.writeAllOr_takes token hsize cancelled
      have hjournal := c.sink.writeAllOr_journal token c.output.unread cancelled
      have hpart := htakes.part
      have hwhole := htakes.whole
      rw [CursorBuffer.size_unread] at hpart hwhole
      split
      · next hwrite =>
        rw [hwrite] at htakes hjournal hwhole
        have hall := hwhole rfl
        exact h.hands ⟨rfl, Nat.le_of_eq hall, htakes.data,
          .inl ⟨hall, CursorBuffer.octets_unread_clear _⟩⟩ hjournal
      · next wait sink' looked hwait hwrite =>
        rw [hwrite] at htakes hjournal hpart
        have hlt := hpart fun hok => by subst hok; exact hwait rfl
        exact h.hands ⟨rfl, Nat.le_of_lt hlt, htakes.data, .inr ⟨hlt, rfl⟩⟩ hjournal

theorem racingDrive (h : Carries sink c) (token : Token) (op : FlushOp) (src : CursorBuffer)
    (cancelled : Cancelled) : Carries sink (AsyncCompressor.drive token op c src cancelled).2.1 :=
  AsyncCompressor.drive_keeps token op (fun _ src h => h.run op src)
    (fun _ looked h => h.racingDrain token looked) h src cancelled

end Carries

/-- A compressor whose stream is at its end and whose sink was flushed since the last write of the
run, for better or worse. -/
structure Concluded (sink : Sink) (c : Compressor (ω × Ledger) σ) : Prop where
  isFinished : c.session.isFinished = true
  isEmpty : c.output.isEmpty = true
  flushed : ∃ events, c.sink.journal = events ++ sink.journal ∧
    (.signalled .flush ∈ sinceWrite events ∨ .signalFailed .flush ∈ sinceWrite events)

theorem Concluded.signals {sink : Sink} {c c' : Compressor (ω × Ledger) σ} {events : List SinkEvent}
    (h : Concluded sink c) (session : c'.session = c.session) (output : c'.output = c.output)
    (signals : Sink.Signals c.sink c'.sink events) : Concluded sink c' := by
  obtain ⟨before, hjournal, hflushed⟩ := h.flushed
  refine ⟨session ▸ h.isFinished, output ▸ h.isEmpty, events ++ before, ?_, ?_⟩
  · rw [signals.journal, hjournal, List.append_assoc]
  · rw [sinceWrite_append signals.noWrite]
    exact hflushed.imp (List.mem_append_right _) (List.mem_append_right _)

/-- The invariant between two calls. -/
structure Standing (sink : Sink) (c : Compressor (ω × Ledger) σ) : Prop where
  carries : Carries sink c
  holds : c.session.isDisposed = false → c.holdsSink = true
  concluded : c.session.isDisposed = false → c.isCompleted = true → Concluded sink c

/-- It says nothing of the runtime that the sink is under. -/
theorem Standing.of_under {sink : Sink} {retries : Bool} {c : Compressor (ω × Ledger) σ}
    (h : Standing (sink.under retries) c) : Standing sink c where
  carries := ⟨h.carries.engine, h.carries.ready, h.carries.totalOut, h.carries.bytes, h.carries.journal⟩
  holds := h.holds
  concluded hlive hcomplete :=
    have hconcluded := h.concluded hlive hcomplete
    ⟨hconcluded.isFinished, hconcluded.isEmpty, hconcluded.flushed⟩

/-- What a completion vouches for that succeeds, from `before` to `after`. `Untorn` says of the sink
that no write of a chunk may fail halfway. -/
structure Succeeds (sink : Sink) (Untorn : Prop) (before after : Compressor (ω × Ledger) σ) :
    Prop where
  isFinished : after.session.isFinished = true
  isEmpty : after.output.isEmpty = true
  /-- The sink has the whole stream, every byte of it in its place among the bytes that it took. -/
  whole : ∃ taken, octets after.sink.data = octets sink.data ++ taken ∧
    after.ledger.produced.Sublist taken
  /-- It has nothing else, unless it took a byte twice. -/
  exact : octets after.sink.data = octets sink.data ++ after.ledger.produced ↔
    after.sink.data.size = sink.data.size + after.totalOut
  level : Untorn → octets after.sink.data = octets sink.data ++ after.ledger.produced
  /-- Since its last write the sink was flushed. That flush may have failed only where the stream
  was completed by an earlier call. -/
  flushed : ∃ events, after.sink.journal = events ++ sink.journal ∧
    (.signalled .flush ∈ sinceWrite events ∨
      before.isCompleted = true ∧ .signalFailed .flush ∈ sinceWrite events)

theorem Carries.succeeds {sink : Sink} {Untorn : Prop} {before after : Compressor (ω × Ledger) σ}
    (h : Carries sink after) (isFinished : after.session.isFinished = true)
    (isEmpty : after.output.isEmpty = true)
    (level : Untorn → octets after.sink.data = octets sink.data ++ after.ledger.produced)
    (flushed : ∃ events, after.sink.journal = events ++ sink.journal ∧
      (.signalled .flush ∈ sinceWrite events ∨
        before.isCompleted = true ∧ .signalFailed .flush ∈ sinceWrite events)) :
    Succeeds sink Untorn before after := by
  obtain ⟨gone, taken, hgone, htaken, hsublist⟩ := h.bytes
  rw [after.output.octets_unread_eq_nil_iff.mpr isEmpty, List.append_nil] at hgone
  refine ⟨isFinished, isEmpty, ⟨taken, htaken, hgone ▸ hsublist⟩, ⟨fun hexact => ?_, fun hsize => ?_⟩,
    level, flushed⟩
  · have hlength := congrArg List.length hexact
    rwa [List.length_append, length_octets, length_octets, ← h.totalOut] at hlength
  · have hlength := congrArg List.length htaken
    rw [List.length_append, length_octets, length_octets, hsize, h.totalOut, hgone] at hlength
    rw [htaken, hgone, hsublist.eq_of_length (by omega)]

theorem Succeeds.signals {sink : Sink} {Untorn : Prop}
    {before after last : Compressor (ω × Ledger) σ} {events : List SinkEvent}
    (h : Succeeds sink Untorn before after) (session : last.session = after.session)
    (output : last.output = after.output) (signals : Sink.Signals after.sink last.sink events) :
    Succeeds sink Untorn before last := by
  have hledger : last.ledger = after.ledger := congrArg (·.world.2) session
  have htotal : last.totalOut = after.totalOut := congrArg (·.totalOut) session
  refine ⟨session ▸ h.isFinished, output ▸ h.isEmpty, ?_, ?_, ?_, ?_⟩
  · rw [signals.data, hledger]
    exact h.whole
  · rw [signals.data, hledger, htotal]
    exact h.exact
  · rw [signals.data, hledger]
    exact h.level
  · obtain ⟨earlier, hjournal, hflushed⟩ := h.flushed
    refine ⟨events ++ earlier, by rw [signals.journal, hjournal, List.append_assoc], ?_⟩
    rw [sinceWrite_append signals.noWrite]
    exact hflushed.imp (List.mem_append_right _) (.imp_right (List.mem_append_right _))

theorem Succeeds.releaseSink {sink : Sink} {Untorn : Prop} {before after : Compressor (ω × Ledger) σ}
    (h : Succeeds sink Untorn before after) : Succeeds sink Untorn before after.releaseSink := by
  unfold Compressor.releaseSink
  split
  · exact h.signals rfl rfl after.sink.signals_drop
  · exact h

namespace Standing

variable {sink : Sink} {c c' : Compressor (ω × Ledger) σ}

/-- As long as the stream is not completed, a drive is free to do what it does. -/
theorem driven (h : Standing sink c) (incomplete : c.isCompleted = false) (frame : Frame c c')
    (carries : Carries sink c') : Standing sink c' where
  carries := carries
  holds hlive := by
    rw [frame.session.isDisposed] at hlive
    exact frame.holdsSink.trans (h.holds hlive)
  concluded _ hcomplete := by
    rw [frame.isCompleted, incomplete] at hcomplete
    cases hcomplete

theorem signalled (h : Standing sink c) {sink' : Sink} {events : List SinkEvent}
    (signals : Sink.Signals c.sink sink' events) : Standing sink { c with sink := sink' } where
  carries := h.carries.quiet rfl h.carries.ready rfl rfl rfl signals
  holds := h.holds
  concluded hlive hcomplete := (h.concluded hlive hcomplete).signals rfl rfl signals

/-- Once the trailer is out, the sink's answer to the flush concludes the stream. -/
theorem flushed (h : Carries sink c) (holds : c.holdsSink = true)
    (isFinished : c.session.isFinished = true) (isEmpty : c.output.isEmpty = true) {sink' : Sink}
    {events : List SinkEvent} (signals : Sink.Signals c.sink sink' events)
    {answer : Except IoError Unit} (noted : Sink.Noted .flush events answer) :
    Standing sink { c with isCompleted := true, sink := sink' } ∧
      ∃ run, sink'.journal = run ++ sink.journal ∧
        (answer = .ok () → .signalled .flush ∈ sinceWrite run) := by
  obtain ⟨before, hbefore⟩ := h.journal
  have hjournal : sink'.journal = (events ++ before) ++ sink.journal := by
    rw [signals.journal, ← hbefore, List.append_assoc]
  have hsince := sinceWrite_append signals.noWrite before
  refine ⟨⟨h.quiet rfl h.ready rfl rfl rfl signals, fun _ => holds, fun _ _ => ⟨isFinished, isEmpty,
    events ++ before, hjournal, ?_⟩⟩, events ++ before, hjournal, fun hok => ?_⟩
  · rw [hsince]
    rcases answer with e | _
    · exact .inr (List.mem_append_left _ (noted.error e rfl))
    · exact .inl (List.mem_append_left _ (noted.ok rfl))
  · rw [hsince]
    exact List.mem_append_left _ (noted.ok hok)

theorem flushSink (h : Standing sink c) : Standing sink c.flushSink.2 := by
  cases hholds : c.holdsSink with
  | true =>
    obtain ⟨events, hsignals, -⟩ := c.sink.flush_signals
    rw [flushSink_of_holds hholds]
    exact h.signalled hsignals
  | false =>
    have hsame : c.flushSink.2 = c := by simp [Compressor.flushSink, hholds]
    rw [hsame]
    exact h

theorem write (h : Standing sink c) (data : ByteArray) : Standing sink (c.write data).2 := by
  have hdrive (hincomplete : c.isCompleted = false) :=
    h.driven hincomplete (drive_frame .process c (.filled data)) (h.carries.drive .process _)
  unfold Compressor.write
  split
  · exact h
  · split
    · exact h
    · next hincomplete =>
      replace hdrive := hdrive (eq_false_of_ne_true hincomplete)
      split
      all_goals
        next hdriven =>
        rw [hdriven] at hdrive
        exact hdrive

theorem flush (h : Standing sink c) : Standing sink c.flush.2 := by
  have hdrive (hincomplete : c.isCompleted = false) : Standing sink (c.driveIdle .flush).2 :=
    h.driven hincomplete (driveIdle_frame .flush c) (h.carries.drive .flush _)
  unfold Compressor.flush
  split
  · exact h
  · split
    · exact h.flushSink
    · next hincomplete =>
      replace hdrive := hdrive (eq_false_of_ne_true hincomplete)
      split
      · next hdriven =>
        rw [hdriven] at hdrive
        exact hdrive
      · next hdriven =>
        rw [hdriven] at hdrive
        exact hdrive.flushSink

/-- A stream that was completed earlier has long been concluded. -/
theorem already (h : Standing sink c) (live : c.session.isDisposed = false)
    (complete : c.isCompleted = true) {Untorn : Prop}
    (level : Untorn → octets c.sink.data = octets sink.data ++ c.ledger.produced) :
    Succeeds sink Untorn c c := by
  obtain ⟨hfinished, hempty, events, hjournal, hflushed⟩ := h.concluded live complete
  exact h.carries.succeeds hfinished hempty level
    ⟨events, hjournal, hflushed.imp_right fun hfailed => ⟨complete, hfailed⟩⟩

/-- A completion keeps the invariant, and what it vouches for where it succeeds. -/
theorem complete (h : Standing sink c) : Standing sink c.complete.2 ∧
    (c.complete.1 = .ok () → (sink.Steady → octets c.complete.2.sink.data =
      octets sink.data ++ c.complete.2.ledger.produced) →
      Succeeds sink sink.Steady c c.complete.2) := by
  have hcompletion := c.completion
  generalize c.complete = answer at hcompletion ⊢
  cases hcompletion with
  | disposed => exact ⟨h, nofun⟩
  | already hlive hcomplete => exact ⟨h, fun _ level => h.already hlive hcomplete level⟩
  | @fails e d hlive hincomplete hdrive =>
    have hdriven : Standing sink (c.driveIdle .finish).2 :=
      h.driven hincomplete (driveIdle_frame .finish c) (h.carries.drive .finish _)
    rw [hdrive] at hdriven
    exact ⟨hdriven, nofun⟩
  | @finishes d hlive hincomplete hdrive =>
    have hcarries : Carries sink (c.driveIdle .finish).2 := h.carries.drive .finish _
    have hframe := driveIdle_frame .finish c
    have hfinished : Finished (c.driveIdle .finish).2 := finished_of_drive (congrArg Prod.fst hdrive)
    rw [hdrive] at hcarries hframe hfinished
    have hholds : d.holdsSink = true := hframe.holdsSink.trans (h.holds hlive)
    obtain ⟨events, hsignals, hnoted⟩ := d.sink.flush_signals
    obtain ⟨hstanding, run, hjournal, hok⟩ :=
      flushed hcarries hholds hfinished.isFinished hfinished.isEmpty hsignals hnoted
    rw [flushSink_of_holds (c := { d with isCompleted := true }) hholds]
    refine ⟨hstanding, fun hanswer level => hstanding.carries.succeeds hfinished.isFinished
      hfinished.isEmpty level ⟨run, hjournal, .inl (hok ?_)⟩⟩
    dsimp only at hanswer
    cases hflush : d.sink.flush.1 with
    | error e =>
      rw [hflush] at hanswer
      cases hanswer
    | ok => rfl

theorem dispose (h : Standing sink c) : Standing sink c.dispose := by
  cases hlive : c.session.isDisposed with
  | true =>
    rw [dispose_of_disposed hlive]
    exact h
  | false =>
    have hgone := (still_dispose hlive).2.2
    have hcarries : Carries sink { c.complete.2 with session := c.complete.2.session.dispose } :=
      h.complete.1.carries.quiet rfl nofun rfl rfl rfl (.refl _)
    refine ⟨?_, fun hlive' => ?_, fun hlive' => ?_⟩
    · rw [dispose_of_live hlive]
      dsimp only
      split
      · exact hcarries
      · exact hcarries.releaseSink
    all_goals
      rw [hgone] at hlive'
      cases hlive'

theorem serve (h : Standing sink c) (request : Request) : Standing sink (c.serve request).2 := by
  cases request with
  | write data => exact h.write data
  | flush => exact h.flush
  | complete => exact h.complete.1
  | dispose => exact h.dispose

theorem serveAll (requests : List Request) {c : Compressor (ω × Ledger) σ} (h : Standing sink c) :
    Standing sink (c.serveAll requests) := by
  induction requests generalizing c with
  | nil => exact h
  | cons request rest ih => exact ih (h.serve request)

end Standing

theorem standing_new {registry : Registry ω σ δ} {world world' : ω} {sink : Sink} {o : CodecOptions}
    {options : StreamOptions} {c : Compressor ω σ}
    (hnew : Compressor.new registry world sink o options = (.ok c, world')) :
    Standing sink (c.recorded []) := by
  have hfresh := fresh_new registry world sink o options hnew
  obtain ⟨factory, handle₁, world₁, handle, -, -, -, rfl⟩ := created hnew
  refine ⟨⟨hfresh.engine, fun _ => rfl, rfl, ⟨[], [], ?_, ?_, .slnil⟩, List.suffix_rfl⟩, fun _ => rfl,
    nofun⟩
  · rw [hfresh.output, CursorBuffer.withCapacity, CursorBuffer.octets_unread_empty]
    rfl
  · exact (List.append_nil _).symm

/-- What each way to complete a stream vouches for where it succeeds. A blocking write is tried again
where it is interrupted, so no more is asked of the sink than that it is steady. -/
structure Vouches (sink : Sink) (c : Compressor (ω × Ledger) σ) : Prop where
  complete : c.complete.1 = .ok () → Succeeds sink sink.Steady c c.complete.2
  finish : ∀ back, c.finish.1 = .ok back →
    back = c.finish.2.sink ∧ Succeeds sink sink.Steady c c.finish.2
  close : ∀ back, c.close.1 = .ok back → (∀ kept ∈ back, kept = c.close.2.sink) ∧
    Succeeds sink sink.Steady c c.close.2

theorem Standing.vouches {sink : Sink} {c : Compressor (ω × Ledger) σ} (h : Standing sink c)
    (level : sink.Steady → octets c.complete.2.sink.data =
      octets sink.data ++ c.complete.2.ledger.produced) : Vouches sink c := by
  have hcomplete (hok : c.complete.1 = .ok ()) : Succeeds sink sink.Steady c c.complete.2 :=
    h.complete.2 hok level
  refine ⟨hcomplete, fun back hback => ?_, fun back hback => ?_⟩
  · unfold Compressor.finish at hback ⊢
    rcases hanswer : c.complete with ⟨_ | _, d⟩
    all_goals rw [hanswer] at hcomplete hback
    · cases hback
    · dsimp only at hback ⊢
      split at hback
      · next hholds =>
        obtain rfl := Except.ok.inj hback
        rw [if_pos hholds]
        exact ⟨rfl, (hcomplete rfl).signals rfl rfl (.refl _)⟩
      · cases hback
  · unfold Compressor.close at hback ⊢
    rcases hanswer : c.complete with ⟨_ | _, d⟩
    all_goals rw [hanswer] at hcomplete hback
    · cases hback
    · dsimp only at hback ⊢
      split at hback
      · cases hback
      · next hholds =>
        rw [if_neg hholds]
        split at hback
        · next hkept =>
          obtain rfl := Except.ok.inj hback
          rw [if_pos hkept]
          refine ⟨?_, (hcomplete rfl).signals rfl rfl (.refl _)⟩
          rintro kept ⟨⟩
          rfl
        · next hgone =>
          obtain rfl := Except.ok.inj hback
          rw [if_neg hgone]
          exact ⟨nofun, (hcomplete rfl).releaseSink⟩

end Compressor

end StreamCodec
