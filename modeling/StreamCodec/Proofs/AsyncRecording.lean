import StreamCodec.Proofs.AsyncRun

/-!
# Recording changes nothing about a suspending compressor

The recording engine gives a suspending compressor the same answers too: every
call ends as it does over the engine itself, is cancelled or dropped at the same
place, and leaves the same compressor but for the ledger.
-/
namespace StreamCodec.AsyncCompressor

variable {ω σ : Type}

def recorded (c : AsyncCompressor ω σ) (ledger : Ledger) : AsyncCompressor (ω × Ledger) σ where
  base := c.base.recorded ledger
  inFlight := c.inFlight

theorem recorded_drain (token : Token) (c : Compressor ω σ) (cancelled : Cancelled)
    (ledger : Ledger) :
    drain token (c.recorded ledger) cancelled =
      ((drain token c cancelled).1, (drain token c cancelled).2.1.recorded ledger,
        (drain token c cancelled).2.2) := by
  rcases c with ⟨session, output, sink, holdsSink, options, isCompleted⟩
  unfold drain Compressor.recorded
  dsimp only
  cases output.isEmpty with
  | true => rfl
  | false =>
    cases holdsSink with
    | false => rfl
    | true =>
      rcases sink.writeAllOr token output.unread cancelled with ⟨(_ | _) | _ | _, _, _⟩ <;> rfl

theorem recorded_flushSink (token : Token) (c : Compressor ω σ) (cancelled : Cancelled)
    (ledger : Ledger) :
    flushSink token (c.recorded ledger) cancelled =
      ((flushSink token c cancelled).1, (flushSink token c cancelled).2.1.recorded ledger,
        (flushSink token c cancelled).2.2) := by
  rcases c with ⟨session, output, sink, holdsSink, options, isCompleted⟩
  cases holdsSink <;> rfl

/-- The same state of a drive, but for the ledger. -/
def SameState (x : Compressor ω σ × CursorBuffer × Cancelled)
    (x' : Compressor (ω × Ledger) σ × CursorBuffer × Cancelled) : Prop :=
  ∃ ledger, x' = (x.1.recorded ledger, x.2)

theorem recorded_pass (token : Token) (op : FlushOp) (c : Compressor ω σ) (src : CursorBuffer)
    (cancelled : Cancelled) (ledger : Ledger) :
    ∃ ledger', pass token op (c.recorded ledger) src cancelled =
      (pass token op c src cancelled).map (fun x => (x.1.recorded ledger', x.2))
        fun y => (y.1, y.2.1.recorded ledger', y.2.2) := by
  obtain ⟨ledger', hrun⟩ := c.session.recorded_compress op ⟨src, c.output⟩ ledger
  have hrun' : (c.recorded ledger).session.compress op ⟨src, (c.recorded ledger).output⟩ = _ := hrun
  refine ⟨ledger', ?_⟩
  unfold pass
  rw [hrun']
  rcases c.session.compress op ⟨src, c.output⟩ with ⟨_ | status, session, w⟩
  · rfl
  · have hdrain : drain token
        { c.recorded ledger with session := session.recorded ledger', output := w.dst } cancelled =
        _ := recorded_drain token { c with session, output := w.dst } cancelled ledger'
    dsimp only at hdrain ⊢
    rw [hdrain]
    rcases drain token _ cancelled with ⟨(_ | _) | _, d, _⟩
    · rfl
    · cases status <;> rfl
    · rfl

theorem recorded_drive (token : Token) (op : FlushOp) (c : Compressor ω σ) (src : CursorBuffer)
    (cancelled : Cancelled) (ledger : Ledger) :
    ∃ ledger', drive token op (c.recorded ledger) src cancelled =
      ((drive token op c src cancelled).1, (drive token op c src cancelled).2.1.recorded ledger',
        (drive token op c src cancelled).2.2) := by
  have kept (x : Compressor ω σ × CursorBuffer × Cancelled)
      (x' : Compressor (ω × Ledger) σ × CursorBuffer × Cancelled) (h : SameState x x') :
      Sum.LiftRel SameState (fun y y' => y'.1 = y.1 ∧ SameState y.2 y'.2)
        (pass token op x.1 x.2.1 x.2.2) (pass token op x'.1 x'.2.1 x'.2.2) := by
    obtain ⟨ledger, rfl⟩ := h
    obtain ⟨ledger', hpass⟩ := recorded_pass token op x.1 x.2.1 x.2.2 ledger
    rw [hpass]
    cases pass token op x.1 x.2.1 x.2.2 with
    | inl y => exact .inl ⟨ledger', rfl⟩
    | inr y => exact .inr ⟨rfl, ledger', rfl⟩
  have start : SameState (c, src, cancelled) (c.recorded ledger, src, cancelled) := ⟨ledger, rfl⟩
  have htogether := loop_together kept start
  unfold drive
  generalize loop (fun x => pass token op x.1 x.2.1 x.2.2) (c, src, cancelled) = plain
    at htogether ⊢
  generalize loop (fun x => pass token op x.1 x.2.1 x.2.2) (c.recorded ledger, src, cancelled) =
    recording at htogether ⊢
  cases htogether with
  | none => exact ⟨ledger, rfl⟩
  | some hsame =>
    obtain ⟨hresult, ledger', hstate⟩ := hsame
    exact ⟨ledger', Prod.ext hresult hstate⟩

theorem recorded_flushInner (token : Token) (c : Compressor ω σ) (cancelled : Cancelled)
    (ledger : Ledger) :
    ∃ ledger', flushInner token (c.recorded ledger) cancelled =
      ((flushInner token c cancelled).1, (flushInner token c cancelled).2.1.recorded ledger',
        (flushInner token c cancelled).2.2) := by
  unfold flushInner
  by_cases hcompleted : c.isCompleted = true
  · have hcompleted' : (c.recorded ledger).isCompleted = true := hcompleted
    rw [if_pos hcompleted, if_pos hcompleted']
    exact ⟨ledger, recorded_flushSink token c cancelled ledger⟩
  · have hcompleted' : ¬(c.recorded ledger).isCompleted = true := hcompleted
    obtain ⟨ledger', hdrive⟩ :=
      recorded_drive token .flush c (.filled ByteArray.empty) cancelled ledger
    refine ⟨ledger', ?_⟩
    rw [if_neg hcompleted, if_neg hcompleted', hdrive]
    rcases drive token .flush c (.filled ByteArray.empty) cancelled with
      ⟨(_ | _) | _, c', _, cancelled'⟩
    · rfl
    · exact recorded_flushSink token c' cancelled' ledger'
    · rfl

theorem recorded_completeInner (token : Token) (c : Compressor ω σ) (cancelled : Cancelled)
    (ledger : Ledger) :
    ∃ ledger', completeInner token (c.recorded ledger) cancelled =
      ((completeInner token c cancelled).1, (completeInner token c cancelled).2.1.recorded ledger',
        (completeInner token c cancelled).2.2) := by
  obtain ⟨ledger', hdrive⟩ :=
    recorded_drive token .finish c (.filled ByteArray.empty) cancelled ledger
  refine ⟨ledger', ?_⟩
  unfold completeInner
  rw [hdrive]
  rcases drive token .finish c (.filled ByteArray.empty) cancelled with
    ⟨(_ | _) | _, c', _, cancelled'⟩
  · rfl
  · exact recorded_flushSink token { c' with isCompleted := true } cancelled' ledger'
  · rfl

/-- The same outcome, the same tokens, and the same compressor but for what its ledger says. -/
def Same {α : Type} (plain : Outcome α × AsyncCompressor ω σ × Cancelled)
    (recording : Outcome α × AsyncCompressor (ω × Ledger) σ × Cancelled) : Prop :=
  ∃ ledger, recording = (plain.1, plain.2.1.recorded ledger, plain.2.2)

theorem Same.map {α β : Type} {plain : Outcome α × AsyncCompressor ω σ × Cancelled}
    {recording : Outcome α × AsyncCompressor (ω × Ledger) σ × Cancelled} (f : α → β)
    (h : Same plain recording) : Same (plain.map (·.map f) id) (recording.map (·.map f) id) := by
  obtain ⟨ledger, rfl⟩ := h
  exact ⟨ledger, rfl⟩

variable (c : AsyncCompressor ω σ) (token : Token) (cancelled : Cancelled) (ledger : Ledger)

theorem recorded_refusal : (c.recorded ledger).refusal token cancelled = c.refusal token cancelled :=
  rfl

theorem recorded_write (data : ByteArray) :
    Same (c.write token data cancelled) ((c.recorded ledger).write token data cancelled) := by
  dsimp only [write]
  rw [recorded_refusal]
  cases c.refusal token cancelled.look with
  | some e => exact ⟨ledger, rfl⟩
  | none =>
    dsimp only
    by_cases hcompleted : c.base.isCompleted = true
    · have hcompleted' : (c.recorded ledger).base.isCompleted = true := hcompleted
      rw [if_pos hcompleted, if_pos hcompleted']
      exact ⟨ledger, rfl⟩
    · have hcompleted' : ¬(c.recorded ledger).base.isCompleted = true := hcompleted
      obtain ⟨ledger', hdrive⟩ :=
        recorded_drive token .process c.base (.filled data) cancelled.look ledger
      have hdrive' : drive token .process (c.recorded ledger).base (.filled data)
        cancelled.look = _ := hdrive
      rw [if_neg hcompleted, if_neg hcompleted', hdrive']
      exact ⟨ledger', rfl⟩

theorem recorded_flush : Same (c.flush token cancelled) ((c.recorded ledger).flush token cancelled) := by
  dsimp only [flush]
  rw [recorded_refusal]
  cases c.refusal token cancelled.look with
  | some e => exact ⟨ledger, rfl⟩
  | none =>
    obtain ⟨ledger', hflush⟩ := recorded_flushInner token c.base cancelled.look ledger
    have hflush' : flushInner token (c.recorded ledger).base cancelled.look = _ := hflush
    dsimp only
    rw [hflush']
    exact ⟨ledger', rfl⟩

theorem recorded_complete :
    Same (c.complete token cancelled) ((c.recorded ledger).complete token cancelled) := by
  dsimp only [complete]
  rw [recorded_refusal]
  by_cases hdone : (c.base.isCompleted && !c.inFlight && !c.base.session.isDisposed) = true
  · have hdone' : ((c.recorded ledger).base.isCompleted && !(c.recorded ledger).inFlight &&
      !(c.recorded ledger).base.session.isDisposed) = true := hdone
    rw [if_pos hdone, if_pos hdone']
    exact ⟨ledger, rfl⟩
  · have hdone' : ¬((c.recorded ledger).base.isCompleted && !(c.recorded ledger).inFlight &&
      !(c.recorded ledger).base.session.isDisposed) = true := hdone
    rw [if_neg hdone, if_neg hdone']
    cases c.refusal token cancelled.look with
    | some e => exact ⟨ledger, rfl⟩
    | none =>
      obtain ⟨ledger', hcomplete⟩ := recorded_completeInner token c.base cancelled.look ledger
      have hcomplete' : completeInner token (c.recorded ledger).base cancelled.look = _ := hcomplete
      dsimp only
      rw [hcomplete']
      exact ⟨ledger', rfl⟩

theorem recorded_dispose : (c.recorded ledger).dispose = c.dispose.recorded ledger := by
  rcases c with ⟨⟨session, output, sink, holdsSink, ⟨bufferSize, leaveOpen⟩, isCompleted⟩, inFlight⟩
  cases leaveOpen <;> cases holdsSink <;> rfl

theorem recorded_serve (call : Call) :
    Same (c.serve call cancelled) ((c.recorded ledger).serve call cancelled) := by
  unfold serve
  cases call.request with
  | write data => exact (recorded_write c call.token cancelled ledger data).map some
  | flush => exact (recorded_flush c call.token cancelled ledger).map _
  | complete => exact (recorded_complete c call.token cancelled ledger).map _
  | dispose => exact ⟨ledger, congrArg (fun d => (_, d, _)) (recorded_dispose c ledger)⟩

theorem recorded_serveAll (calls : List Call) :
    ∃ ledger', serveAll (c.recorded ledger, cancelled) calls =
      ((serveAll (c, cancelled) calls).1.recorded ledger', (serveAll (c, cancelled) calls).2) := by
  induction calls generalizing c cancelled ledger with
  | nil => exact ⟨ledger, rfl⟩
  | cons call rest ih =>
    obtain ⟨ledger', hserve⟩ := recorded_serve c cancelled ledger call
    obtain ⟨ledger'', hrest⟩ := ih (c.serve call cancelled).2.1 (c.serve call cancelled).2.2 ledger'
    refine ⟨ledger'', ?_⟩
    rw [serveAll, List.foldl_cons, hserve]
    exact hrest

end StreamCodec.AsyncCompressor
