import StreamCodec.Proofs.AsyncRecording
import StreamCodec.Proofs.Marked
import StreamCodec.Proofs.SinkRaces
import StreamCodec.Proofs.Unpaused

/-!
# Suspending and blocking compressors in lockstep

A suspending compressor that no one cancels, in front of a sink that at most
yields and interrupts no write, does what a blocking compressor does in front of
the same sink without its pauses. The two are `Abreast` when one is the other but for these pauses;
every drain, pass, drive and flush keeps them so and answers alike, errors and
what they leave behind included.
-/
namespace StreamCodec

variable {ω σ δ : Type}

/-- How the two kinds of compressor report the same failure. Only the refusal of a sink that takes
nothing is worded differently. -/
inductive SameFailure : CodecError → CodecError → Prop
  | same {e : CodecError} (h : e ≠ .cancelled) : SameFailure e e
  | nothingTaken : SameFailure (.io .zeroWrite) (.io .wholeBuffer)

/-- How they answer the same call. -/
inductive Alike {α : Type} : Outcome α → Except CodecError α → Prop
  | ok (a : α) : Alike (.returned (.ok a)) (.ok a)
  | error {e e' : CodecError} (h : SameFailure e e') : Alike (.returned (.error e)) (.error e')

namespace Alike

variable {α β : Type} {outcome : Outcome α} {result : Except CodecError α}

theorem not_interrupted (h : Alike outcome result) : ¬outcome.Interrupted := by
  cases h with
  | ok => simp [Outcome.Interrupted]
  | error h => cases h <;> simp [Outcome.Interrupted, *]

theorem map (f : α → β) (h : Alike outcome result) : Alike (outcome.map f) (result.map f) := by
  cases h with
  | ok a => exact .ok (f a)
  | error h => exact .error h

end Alike

namespace EncoderSession

theorem drive_ready (op : FlushOp) (s : EncoderSession ω σ) (handle : σ) (w : Windows)
    (stalled : Nat) (h : s.handle.isSome) : (drive op s handle w stalled).2.1.handle.isSome := by
  have hsettled (s : EncoderSession ω σ) : (s.settled op).handle = s.handle := by
    unfold settled
    split <;> rfl
  fun_induction drive op s handle w stalled with
  | case1 => exact h
  | case2 | case4 | case5 | case6 => rfl
  | case3 s handle w stalled _ reply handle' world _ s' w' =>
    rw [hsettled]
    rfl
  | case7 s handle w stalled _ reply handle' world _ s' w' _ _ _ _ _ _ _ ih => exact ih rfl
  | case8 s handle w stalled _ reply handle' world _ s' w' _ _ _ _ ih => exact ih rfl

/-- A ready session stays ready, and is never cancelled. -/
theorem compress_ready (op : FlushOp) {s : EncoderSession ω σ} (hr : s.IsReady) (w : Windows) :
    (s.compress op w).2.1.IsReady ∧ (s.compress op w).1 ≠ .error .cancelled := by
  cases hd : s.isDisposed with
  | true =>
    simp only [compress, opened_of_isDisposed hd]
    exact ⟨hr, by rintro ⟨⟩⟩
  | false =>
    obtain ⟨handle, hh⟩ := Option.isSome_iff_exists.mp (hr hd)
    simp only [compress, opened_of_handle hd hh]
    split
    · split <;> exact ⟨hr, by rintro ⟨⟩⟩
    · split
      · exact ⟨hr, by rintro ⟨⟩⟩
      · exact ⟨fun _ => drive_ready op s handle w 0 (hr hd), by rintro ⟨⟩⟩

end EncoderSession

namespace Compressor

/-- The compressor in front of its sink without the pauses. -/
def unpaused (c : Compressor ω σ) : Compressor ω σ := { c with sink := c.sink.unpaused }

end Compressor

namespace AsyncCompressor

open Compressor (Request)

/-- A suspending compressor and a blocking one in the same state. `start` are the tokens that the
run began with, `looked` those that are left: whatever was spared then is spared now. -/
structure Abreast (start : Cancelled) (c : Compressor ω σ) (looked : Cancelled)
    (d : Compressor ω σ) : Prop where
  same : d = c.unpaused
  wakeful : c.sink.Wakeful
  uninterrupted : c.sink.Uninterrupted
  ready : c.session.IsReady
  spares : ∀ token, start.Spares token → looked.Spares token

namespace Abreast

variable {start looked : Cancelled} {c d : Compressor ω σ} {token : Token}

theorem look (h : Abreast start c looked d) : Abreast start c looked.look d :=
  ⟨h.same, h.wakeful, h.uninterrupted, h.ready, fun t ht => (h.spares t ht).look⟩

theorem completed (h : Abreast start c looked d) :
    Abreast start { c with isCompleted := true } looked { d with isCompleted := true } where
  same := congrArg (fun c : Compressor ω σ => { c with isCompleted := true }) h.same
  wakeful := h.wakeful
  uninterrupted := h.uninterrupted
  ready := h.ready
  spares := h.spares

theorem drain (h : Abreast start c looked d) (hs : start.Spares token) :
    Alike (AsyncCompressor.drain token c looked).1 d.drain.1 ∧
      Abreast start (AsyncCompressor.drain token c looked).2.1
        (AsyncCompressor.drain token c looked).2.2 d.drain.2 := by
  obtain ⟨rfl, wakeful, uninterrupted, ready, spares⟩ := h
  unfold AsyncCompressor.drain Compressor.drain Compressor.unpaused
  dsimp only
  split
  · exact ⟨.ok (), rfl, wakeful, uninterrupted, ready, spares⟩
  split
  · exact ⟨.error (.same nofun), rfl, wakeful, uninterrupted, ready, spares⟩
  have htogether :=
    Sink.writeAllOr_together wakeful uninterrupted (spares token hs) c.output.unread
  have hleft := uninterrupted.of_suffix
    (c.sink.writeAllOr_writes token c.output.unread looked)
  generalize c.sink.writeAllOr token c.output.unread looked = suspending
    at htogether hleft ⊢
  generalize c.sink.unpaused.writeAll c.output.unread = blocking at htogether ⊢
  obtain ⟨wait, sink, looked'⟩ := suspending
  obtain ⟨answer, sink'⟩ := blocking
  obtain ⟨heard, same, wakeful', spares'⟩ := htogether
  obtain rfl : sink' = sink.unpaused := same
  replace heard : Sink.Heard wait answer := heard
  have hspares (t : Token) (ht : start.Spares t) : looked'.Spares t := spares' t (spares t ht)
  cases heard with
  | nothingTaken => exact ⟨.error .nothingTaken, rfl, wakeful', hleft, ready, hspares⟩
  | same answer =>
    rcases answer with e | _
    · exact ⟨.error (.same nofun), rfl, wakeful', hleft, ready, hspares⟩
    · exact ⟨.ok (), rfl, wakeful', hleft, ready, hspares⟩

theorem flushSink (h : Abreast start c looked d) (hs : start.Spares token) :
    Alike (AsyncCompressor.flushSink token c looked).1 d.flushSink.1 ∧
      Abreast start (AsyncCompressor.flushSink token c looked).2.1
        (AsyncCompressor.flushSink token c looked).2.2 d.flushSink.2 := by
  obtain ⟨rfl, wakeful, uninterrupted, ready, spares⟩ := h
  unfold AsyncCompressor.flushSink Compressor.flushSink Compressor.unpaused
  dsimp only
  split
  · exact ⟨.error (.same nofun), rfl, wakeful, uninterrupted, ready, spares⟩
  have htogether := Sink.flush_together wakeful (spares token hs)
  have hleft : (c.sink.signalOr .flush (some token) looked).2.1.Uninterrupted := by
    rw [Sink.Uninterrupted, (c.sink.signalOr_keeps .flush (some token) looked).2]
    exact uninterrupted
  generalize c.sink.signalOr .flush (some token) looked = suspending at htogether hleft ⊢
  generalize c.sink.unpaused.flush = blocking at htogether ⊢
  obtain ⟨wait, sink, looked'⟩ := suspending
  obtain ⟨answer, sink'⟩ := blocking
  obtain ⟨heard, same, wakeful', spares'⟩ := htogether
  obtain rfl : sink' = sink.unpaused := same
  replace heard : Sink.Heard wait answer := heard
  have hspares (t : Token) (ht : start.Spares t) : looked'.Spares t := spares' t (spares t ht)
  cases heard with
  | nothingTaken => exact ⟨.error .nothingTaken, rfl, wakeful', hleft, ready, hspares⟩
  | same answer =>
    rcases answer with e | _
    · exact ⟨.error (.same nofun), rfl, wakeful', hleft, ready, hspares⟩
    · exact ⟨.ok (), rfl, wakeful', hleft, ready, hspares⟩

abbrev States (start : Cancelled) (x : Compressor ω σ × CursorBuffer × Cancelled)
    (y : Compressor ω σ × CursorBuffer) : Prop :=
  Abreast start x.1 x.2.2 y.1 ∧ y.2 = x.2.1

theorem pass (h : Abreast start c looked d) (hs : start.Spares token) (op : FlushOp)
    (src : CursorBuffer) :
    Sum.LiftRel (States start) (fun x y => Alike x.1 y.1 ∧ States start x.2 y.2)
      (AsyncCompressor.pass token op c src looked) (Compressor.pass op d src) := by
  obtain ⟨rfl, wakeful, uninterrupted, ready, spares⟩ := h
  obtain ⟨hready, hnever⟩ := EncoderSession.compress_ready op ready ⟨src, c.output⟩
  have hrun : c.unpaused.session.compress op ⟨src, c.unpaused.output⟩ =
    c.session.compress op ⟨src, c.output⟩ := rfl
  unfold AsyncCompressor.pass Compressor.pass
  rw [hrun]
  generalize c.session.compress op ⟨src, c.output⟩ = ran at hready hnever ⊢
  obtain ⟨e | status, session, w⟩ := ran
  · exact .inr ⟨.error (.same fun he => hnever (congrArg _ he)), ⟨rfl, wakeful, uninterrupted, hready, spares⟩, rfl⟩
  have hran : Abreast start { c with session, output := w.dst } looked
      { c.unpaused with session, output := w.dst } := ⟨rfl, wakeful, uninterrupted, hready, spares⟩
  obtain ⟨halike, hdrained⟩ := hran.drain hs
  dsimp only
  generalize AsyncCompressor.drain token { c with session, output := w.dst } looked = suspending
    at halike hdrained ⊢
  generalize Compressor.drain { c.unpaused with session, output := w.dst } = blocking
    at halike hdrained ⊢
  obtain ⟨outcome, c', looked'⟩ := suspending
  obtain ⟨result, d'⟩ := blocking
  replace halike : Alike outcome result := halike
  have hstates : States start (c', w.src, looked') (d', w.src) := ⟨hdrained, rfl⟩
  cases halike with
  | error hfailure => exact .inr ⟨.error hfailure, hstates⟩
  | ok =>
    have hsame : d' = c'.unpaused := hdrained.same
    have hfailure : d'.failure = c'.failure := by rw [hsame]; rfl
    cases status with
    | done | needMoreData => exact .inr ⟨.ok (), hstates⟩
    | destinationTooSmall => exact .inl hstates
    | invalidData =>
      refine .inr ⟨?_, hstates⟩
      dsimp only
      rw [hfailure]
      exact .error (.same nofun)

theorem drive (h : Abreast start c looked d) (hs : start.Spares token) (op : FlushOp)
    (src : CursorBuffer) :
    Alike (AsyncCompressor.drive token op c src looked).1 (Compressor.drive op d src).1 ∧
      States start (AsyncCompressor.drive token op c src looked).2 (Compressor.drive op d src).2 := by
  have kept (x : Compressor ω σ × CursorBuffer × Cancelled) (y : Compressor ω σ × CursorBuffer)
      (hxy : States start x y) :
      Sum.LiftRel (States start) (fun x y => Alike x.1 y.1 ∧ States start x.2 y.2)
        (AsyncCompressor.pass token op x.1 x.2.1 x.2.2) (Compressor.pass op y.1 y.2) := by
    obtain ⟨habreast, hsrc⟩ := hxy
    rw [hsrc]
    exact habreast.pass hs op x.2.1
  have hstates : States start (c, src, looked) (d, src) := ⟨h, rfl⟩
  have htogether := loop_together kept hstates
  have hrestless : c.restless = d.restless := by rw [h.same]; rfl
  unfold AsyncCompressor.drive Compressor.drive
  generalize loop (fun x => AsyncCompressor.pass token op x.1 x.2.1 x.2.2) (c, src, looked) = suspending
    at htogether ⊢
  generalize loop (fun x => Compressor.pass op x.1 x.2) (d, src) = blocking at htogether ⊢
  cases htogether with
  | none =>
    rw [Option.getD_none, Option.getD_none, hrestless]
    exact ⟨.error (.same nofun), hstates⟩
  | some hsame => exact hsame

/-- Two drives fail in the same way or both succeed. -/
theorem drive_ends (h : Abreast start c looked d) (hs : start.Spares token) (op : FlushOp)
    (src : CursorBuffer) :
    ∃ c' src' looked' d', Abreast start c' looked' d' ∧
      ((∃ e e', SameFailure e e' ∧
          AsyncCompressor.drive token op c src looked =
            (.returned (.error e), c', src', looked') ∧
          Compressor.drive op d src = (.error e', d', src')) ∨
        AsyncCompressor.drive token op c src looked = (.returned (.ok ()), c', src', looked') ∧
          Compressor.drive op d src = (.ok (), d', src')) := by
  obtain ⟨halike, habreast, hsrc⟩ := h.drive hs op src
  generalize AsyncCompressor.drive token op c src looked = suspending at halike habreast hsrc ⊢
  generalize Compressor.drive op d src = blocking at halike habreast hsrc ⊢
  obtain ⟨outcome, c', src', looked'⟩ := suspending
  obtain ⟨result, d', rest⟩ := blocking
  obtain rfl : rest = src' := hsrc
  replace halike : Alike outcome result := halike
  refine ⟨c', rest, looked', d', habreast, ?_⟩
  cases halike with
  | ok => exact .inr ⟨rfl, rfl⟩
  | error hfailure => exact .inl ⟨_, _, hfailure, rfl, rfl⟩

end Abreast

/-- A suspending compressor between two calls, and a blocking one in the same state. -/
structure InStep (start : Cancelled) (x : AsyncCompressor ω σ × Cancelled) (d : Compressor ω σ) :
    Prop where
  idle : x.1.inFlight = false
  abreast : Abreast start x.1.base x.2 d

namespace InStep

variable {start : Cancelled} {x : AsyncCompressor ω σ × Cancelled} {d : Compressor ω σ}
  {token : Token}

/-- A call that is not cancelled is refused only by a disposed compressor. -/
theorem refusal (h : InStep start x d) (hs : start.Spares token) :
    x.1.refusal token x.2.look = if d.session.isDisposed then some .disposed else none := by
  have hnot : token ∉ x.2.look := (h.abreast.spares token hs).look.1
  have hsession : d.session = x.1.base.session := by rw [h.abreast.same]; rfl
  rw [AsyncCompressor.refusal, h.idle, hsession, if_neg hnot, if_neg Bool.false_ne_true]

theorem look (h : InStep start x d) : InStep start (x.1, x.2.look) d := ⟨h.idle, h.abreast.look⟩

theorem of_abreast {α : Type} {outcome : Outcome α} {result : Except CodecError α}
    {c : Compressor ω σ} {looked : Cancelled} (ha : Alike outcome result)
    (h : Abreast start c looked d) :
    InStep start ({ base := c, inFlight := outcome.poisons }, looked) d :=
  ⟨eq_false_of_ne_true fun hp => ha.not_interrupted ((Outcome.poisons_iff outcome).mp hp), h⟩

/-- What two calls that go together answer and leave. -/
abbrev Answers {α : Type} (start : Cancelled) (suspending : Outcome α × AsyncCompressor ω σ × Cancelled)
    (blocking : Except CodecError α × Compressor ω σ) : Prop :=
  Alike suspending.1 blocking.1 ∧ InStep start suspending.2 blocking.2

theorem write (h : InStep start x d) (hs : start.Spares token) (data : ByteArray) :
    Answers start (x.1.write token data x.2) (d.write data) := by
  have hcompleted : x.1.base.isCompleted = d.isCompleted := by rw [h.abreast.same]; rfl
  unfold AsyncCompressor.write Compressor.write
  dsimp only
  rw [h.refusal hs, hcompleted]
  by_cases hdisposed : d.session.isDisposed = true
  · rw [if_pos hdisposed, if_pos hdisposed]
    exact ⟨.error (.same nofun), h.look⟩
  rw [if_neg hdisposed, if_neg hdisposed]
  dsimp only
  by_cases hdone : d.isCompleted = true
  · rw [if_pos hdone, if_pos hdone]
    exact ⟨.error (.same nofun), h.look⟩
  obtain ⟨c', src', looked', d', habreast, ⟨e, e', hfailure, ha, hd⟩ | ⟨ha, hd⟩⟩ :=
    h.abreast.look.drive_ends hs .process (.filled data)
  · rw [if_neg hdone, if_neg hdone, ha, hd]
    exact ⟨.error hfailure, of_abreast (.error hfailure) habreast⟩
  · rw [if_neg hdone, if_neg hdone, ha, hd]
    exact ⟨.ok _, of_abreast (.ok ()) habreast⟩

theorem flush (h : InStep start x d) (hs : start.Spares token) :
    Answers start (x.1.flush token x.2) d.flush := by
  have hcompleted : x.1.base.isCompleted = d.isCompleted := by rw [h.abreast.same]; rfl
  unfold AsyncCompressor.flush Compressor.flush
  dsimp only
  rw [h.refusal hs]
  by_cases hdisposed : d.session.isDisposed = true
  · rw [if_pos hdisposed, if_pos hdisposed]
    exact ⟨.error (.same nofun), h.look⟩
  rw [if_neg hdisposed, if_neg hdisposed]
  dsimp only [flushInner, Compressor.driveIdle]
  rw [hcompleted]
  by_cases hdone : d.isCompleted = true
  · obtain ⟨halike, habreast⟩ := h.abreast.look.flushSink hs
    rw [if_pos hdone, if_pos hdone]
    exact ⟨halike, of_abreast halike habreast⟩
  obtain ⟨c', src', looked', d', habreast, ⟨e, e', hfailure, ha, hd⟩ | ⟨ha, hd⟩⟩ :=
    h.abreast.look.drive_ends hs .flush (.filled ByteArray.empty)
  · rw [if_neg hdone, if_neg hdone, ha, hd]
    exact ⟨.error hfailure, of_abreast (.error hfailure) habreast⟩
  · obtain ⟨halike, hflushed⟩ := habreast.flushSink hs
    rw [if_neg hdone, if_neg hdone, ha, hd]
    exact ⟨halike, of_abreast halike hflushed⟩

theorem complete (h : InStep start x d) (hs : start.Spares token) :
    Answers start (x.1.complete token x.2) d.complete := by
  have hcompleted : x.1.base.isCompleted = d.isCompleted := by rw [h.abreast.same]; rfl
  have hsession : x.1.base.session.isDisposed = d.session.isDisposed := by rw [h.abreast.same]; rfl
  unfold AsyncCompressor.complete Compressor.complete
  dsimp only
  rw [h.refusal hs]
  by_cases hdisposed : d.session.isDisposed = true
  · rw [if_neg (by simp [hsession, hdisposed]), if_pos hdisposed, if_pos hdisposed]
    exact ⟨.error (.same nofun), h.look⟩
  by_cases hdone : d.isCompleted = true
  · rw [if_pos (by simp [hsession, hdisposed, hcompleted, hdone, h.idle]), if_neg hdisposed,
      if_pos hdone]
    exact ⟨.ok (), h⟩
  rw [if_neg (by simp [hcompleted, hdone]), if_neg hdisposed, if_neg hdisposed, if_neg hdone]
  dsimp only [completeInner, Compressor.driveIdle]
  obtain ⟨c', src', looked', d', habreast, ⟨e, e', hfailure, ha, hd⟩ | ⟨ha, hd⟩⟩ :=
    h.abreast.look.drive_ends hs .finish (.filled ByteArray.empty)
  · rw [ha, hd]
    exact ⟨.error hfailure, of_abreast (.error hfailure) habreast⟩
  · obtain ⟨halike, hflushed⟩ := habreast.completed.flushSink hs
    rw [ha, hd]
    exact ⟨halike, of_abreast halike hflushed⟩

theorem serve (h : InStep start x d) {call : Call} (hs : start.Spares call.token)
    (hlive : call.request ≠ .dispose) :
    Answers start (x.1.serve call x.2) (d.serve call.request) := by
  obtain ⟨token, request⟩ := call
  cases request with
  | write data =>
    obtain ⟨halike, hstep⟩ := h.write hs data
    exact ⟨halike.map some, hstep⟩
  | flush =>
    obtain ⟨halike, hstep⟩ := h.flush hs
    exact ⟨halike.map _, hstep⟩
  | complete =>
    obtain ⟨halike, hstep⟩ := h.complete hs
    exact ⟨halike.map _, hstep⟩
  | dispose => exact absurd rfl hlive

theorem serveAll (h : InStep start x d) (calls : List Call)
    (hcalls : ∀ call ∈ calls, start.Spares call.token ∧ call.request ≠ .dispose) :
    InStep start (serveAll x calls) (d.serveAll (calls.map (·.request))) := by
  induction calls generalizing x d with
  | nil => exact h
  | cons call rest ih =>
    obtain ⟨hs, hlive⟩ := hcalls call (List.mem_cons_self ..)
    exact ih (h.serve hs hlive).2 fun c hc => hcalls c (List.mem_cons_of_mem _ hc)

end InStep

/-- Where the two compressors stand once they served the same call. -/
structure Agrees {α : Type} (suspending : Outcome α × AsyncCompressor (ω × Ledger) σ × Cancelled)
    (blocking : Except CodecError α × Compressor (ω × Ledger) σ) : Prop where
  answer : Alike suspending.1 blocking.1
  /-- The engine calls with their windows. -/
  ledger : suspending.2.1.base.ledger = blocking.2.ledger
  /-- The bytes that the sink was offered, write by write. -/
  offers : suspending.2.1.base.sink.offers = blocking.2.sink.offers
  data : suspending.2.1.base.sink.data = blocking.2.sink.data
  totalIn : suspending.2.1.base.totalIn = blocking.2.totalIn
  totalOut : suspending.2.1.base.totalOut = blocking.2.totalOut
  isCompleted : suspending.2.1.base.isCompleted = blocking.2.isCompleted

theorem InStep.agrees {α : Type} {start : Cancelled}
    {suspending : Outcome α × AsyncCompressor (ω × Ledger) σ × Cancelled}
    {blocking : Except CodecError α × Compressor (ω × Ledger) σ}
    (h : InStep.Answers start suspending blocking) : Agrees suspending blocking := by
  obtain ⟨halike, hstep⟩ := h
  have hsame := hstep.abreast.same
  exact ⟨halike, by rw [hsame]; rfl, by rw [hsame]; rfl, by rw [hsame]; rfl, by rw [hsame]; rfl,
    by rw [hsame]; rfl, by rw [hsame]; rfl⟩

theorem new_unpaused (registry : Registry ω σ δ) (world : ω) (sink : Sink) (o : CodecOptions)
    (options : StreamOptions) :
    Compressor.new registry world sink.unpaused o options =
      ((Compressor.new registry world sink o options).1.map Compressor.unpaused,
        (Compressor.new registry world sink o options).2) := by
  unfold Compressor.new
  rcases EncoderSession.new registry world o with e | session
  · rfl
  · dsimp only
    rcases session.openNow with ⟨_ | _, session⟩ <;> rfl

/-- A compressor of either kind over the same engine: none can be made, for the same reason, or the
run goes on from new ones. -/
def Begins (suspending : Except CodecError (AsyncCompressor ω σ) × ω)
    (blocking : Except CodecError (Compressor ω σ) × ω)
    (run : AsyncCompressor ω σ → Compressor ω σ → Prop) : Prop :=
  (∃ e world, suspending = (.error e, world) ∧ blocking = (.error e, world)) ∨
    ∃ c d world, suspending = (.ok c, world) ∧ blocking = (.ok d, world) ∧ run c d

/-- Calls that no one cancels, in front of a sink that at most yields and interrupts no write, on a
compressor over any engine and under any runtime, against the same requests to a blocking compressor
in front of the sink without its pauses. -/
theorem refines_blocking (registry : Registry ω σ δ) (world : ω) (sink : Sink) (o : CodecOptions)
    (options : StreamOptions) (hwakeful : sink.Wakeful) (huninterrupted : sink.Uninterrupted)
    (cancelled : Cancelled) (calls : List Call)
    (hcalls : ∀ call ∈ calls, cancelled.Spares call.token ∧ call.request ≠ .dispose) :
    Begins (AsyncCompressor.new registry world sink o options)
      (Compressor.new registry world sink.unpaused o options) fun c d =>
        ∀ before call after, calls = before ++ call :: after →
          Agrees ((serveAll (c.recorded [], cancelled) before).1.serve call
              (serveAll (c.recorded [], cancelled) before).2)
            (((d.recorded []).serveAll (before.map (·.request))).serve call.request) := by
  -- Without its pauses the sink is the same under every runtime.
  have hsame : sink.unpaused = (sink.under registry.retriesWrites).unpaused := rfl
  rw [hsame, new_unpaused]
  unfold AsyncCompressor.new
  rcases hnew : Compressor.new registry world (sink.under registry.retriesWrites) o options with
    ⟨e | base, world'⟩
  · exact .inl ⟨e, world', rfl, rfl⟩
  refine .inr ⟨{ base }, base.unpaused, world', rfl, rfl, ?_⟩
  have hfresh := Compressor.fresh_new registry world _ o options hnew
  have start : InStep cancelled (recorded { base } [], cancelled) (base.unpaused.recorded []) :=
    ⟨rfl, rfl, hfresh.sink ▸ ⟨hwakeful.writes, hwakeful.flushes⟩, hfresh.sink ▸ huninterrupted,
      fun _ => hfresh.handle, fun _ h => h⟩
  rintro before call after rfl
  obtain ⟨hs, hlive⟩ := hcalls call (by simp)
  have hbefore := start.serveAll before fun c hc => hcalls c (List.mem_append_left _ hc)
  exact InStep.agrees (hbefore.serve hs hlive)

theorem refines_blocking_marked :
    ∃ c d, AsyncCompressor.new Marked.registry () Marked.yieldingSink Marked.options
        Marked.stream₃ = (.ok c, ()) ∧
      Compressor.new Marked.registry () Marked.yieldingSink.unpaused Marked.options
        Marked.stream₃ = (.ok d, ()) ∧
      Agrees ((serveAll (c.recorded [], {}) [⟨"go", .write ⟨#[97]⟩⟩]).1.serve ⟨"go", .complete⟩
          (serveAll (c.recorded [], {}) [⟨"go", .write ⟨#[97]⟩⟩]).2)
        (((d.recorded []).serveAll [.write ⟨#[97]⟩]).serve .complete) := by
  have hwakeful : Marked.yieldingSink.Wakeful := by
    constructor <;> simp [Marked.yieldingSink]
  have huninterrupted : Marked.yieldingSink.Uninterrupted := by
    simp [Sink.Uninterrupted, Marked.yieldingSink]
  have hspares : Cancelled.Spares {} "go" := ⟨by decide, nofun⟩
  rcases refines_blocking Marked.registry () Marked.yieldingSink Marked.options Marked.stream₃
      hwakeful huninterrupted {} [⟨"go", .write ⟨#[97]⟩⟩, ⟨"go", .complete⟩] (by simp [hspares]) with
    ⟨e, _, hnew, -⟩ | ⟨c, d, _, hc, hd, hrun⟩
  · cases hnew
  · exact ⟨c, d, hc, hd, hrun [_] _ [] rfl⟩

end AsyncCompressor

end StreamCodec
