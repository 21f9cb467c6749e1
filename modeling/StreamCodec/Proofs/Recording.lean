import StreamCodec.Proofs.EncoderDrive
import StreamCodec.Stream.Compressor

/-!
# Recording changes nothing

`recorded` puts the recording engine in the place of a compressor's engine, with
some ledger to begin with. Whatever request the compressor then serves, it gives
the same answer as before, hands the same bytes to its sink and ends in the same
state but for the ledger. What is proved about recorded compressors is so proved
about all.
-/
namespace StreamCodec

variable {ω σ : Type}

namespace EncoderEngine

variable {engine : EncoderEngine ω σ} {handle handle' : σ} {world world' : ω} (ledger : Ledger)

theorem recording_setParameter {p : Parameter} {accepted : Bool}
    (h : engine.setParameter p handle world = (accepted, handle', world')) :
    engine.recording.setParameter p handle (world, ledger) =
      (accepted, handle', world', ledger) := by
  simp only [recording, h]

theorem recording_compress {op : FlushOp} {input room : ByteArray} {reply : Reply}
    (h : engine.compress op input room handle world = (reply, handle', world')) :
    engine.recording.compress op input room handle (world, ledger) =
      (reply, handle', world', ledger ++ [⟨.encode op, input, room, reply⟩]) := by
  simp only [recording, h]

theorem recording_configure (engine : EncoderEngine ω σ) (parameters : List Parameter) (handle : σ)
    (world : ω) (ledger : Ledger) :
    engine.recording.configure parameters handle (world, ledger) =
      ((engine.configure parameters handle world).1,
        (engine.configure parameters handle world).2, ledger) := by
  fun_induction engine.configure parameters handle world with
  | case1 => rfl
  | case2 p rest handle world handle' world' hset ih =>
    rw [configure, recording_setParameter ledger hset]
    exact ih
  | case3 p rest handle world handle' world' hset =>
    rw [configure, recording_setParameter ledger hset]

end EncoderEngine

namespace EncoderSession

def recorded (s : EncoderSession ω σ) (ledger : Ledger) : EncoderSession (ω × Ledger) σ where
  options := s.options
  version := s.version
  engine := s.engine.recording
  world := (s.world, ledger)
  handle := s.handle
  isDisposed := s.isDisposed
  isDirty := s.isDirty
  lastError := s.lastError
  totalIn := s.totalIn
  totalOut := s.totalOut

theorem recorded_opened (s : EncoderSession ω σ) (ledger : Ledger) :
    (s.recorded ledger).opened = (s.opened.1, s.opened.2.recorded ledger) := by
  cases hd : s.isDisposed with
  | true => rw [opened_of_isDisposed hd, opened_of_isDisposed (s := s.recorded ledger) hd]
  | false =>
    cases hh : s.handle with
    | some handle => rw [opened_of_handle hd hh, opened_of_handle (s := s.recorded ledger) hd hh]
    | none =>
      have hd' : (s.recorded ledger).isDisposed = false := hd
      have hh' : (s.recorded ledger).handle = none := hh
      have hcreate : (s.recorded ledger).engine.create (s.recorded ledger).world =
        ((s.engine.create s.world).1, (s.engine.create s.world).2, ledger) := rfl
      simp only [opened, hd, hd', hh, hh', hcreate, Bool.false_eq_true, ↓reduceIte]
      rcases s.engine.create s.world with ⟨_ | handle, world⟩
      · simp only [recorded, hd, hh]
      · have hconf : (s.recorded ledger).engine.configure
            (s.recorded ledger).options.encoderParameters handle (world, ledger) =
            _ := EncoderEngine.recording_configure s.engine s.options.encoderParameters handle world ledger
        simp only [hconf]
        rcases s.engine.configure s.options.encoderParameters handle world with ⟨_ | handle', world'⟩
        · simp only [recorded, hd, hh]
          rfl
        · simp only [recorded, hd]

/-- The ledger after one more call. -/
def entered (ledger : Ledger) (op : FlushOp) (w : Windows) (reply : Reply) : Ledger :=
  ledger ++ [⟨.encode op, w.src.unread, w.dst.unwritten, reply⟩]

theorem recorded_call {op : FlushOp} {s : EncoderSession ω σ} {handle handle' : σ} {w : Windows}
    {reply : Reply} {world : ω}
    (hcall : s.engine.compress op w.src.unread w.dst.unwritten handle s.world =
      (reply, handle', world)) (ledger : Ledger) :
    (s.recorded ledger).engine.compress op w.src.unread w.dst.unwritten handle
        (s.recorded ledger).world = (reply, handle', world, entered ledger op w reply) ∧
      (s.recorded ledger).record w reply handle' (world, entered ledger op w reply) =
        (s.record w reply handle' world).recorded (entered ledger op w reply) :=
  ⟨EncoderEngine.recording_compress ledger hcall, rfl⟩

theorem recorded_settled (s : EncoderSession ω σ) (ledger : Ledger) (op : FlushOp) :
    (s.recorded ledger).settled op = (s.settled op).recorded ledger := by
  unfold settled
  split <;> rfl

/-- A round of a drive over the recording engine, unless the engine fails: what it does is decided
as over the engine itself. -/
theorem recorded_round {op : FlushOp} {s : EncoderSession ω σ} {handle handle' : σ} {w : Windows}
    {reply : Reply} {world : ω} (hroom : ¬w.dst.availableWrite = 0)
    (hcall : s.engine.compress op w.src.unread w.dst.unwritten handle s.world =
      (reply, handle', world)) (hcode : ∀ detail, reply.code = .error detail → False)
    (stalled : Nat) (ledger : Ledger) :
    drive op (s.recorded ledger) handle w stalled =
      let s' := s.record w reply handle' world
      let w' := w.settle reply
      let ledger' := entered ledger op w reply
      if s.isComplete op handle' w' then (.done, (s'.settled op).recorded ledger', w')
      else if w'.dst.availableWrite = 0 then (.destinationTooSmall, s'.recorded ledger', w')
      else if w.consumed reply = 0 ∧ w.produced reply = 0 then
        let pending := s.engine.hasMoreOutput handle'
        if !pending && op = .process then (.done, s'.recorded ledger', w')
        else if !pending || maxStalledCalls ≤ stalled + 1 then
          (.invalidData, (s'.fail s'.noProgress).recorded ledger', w')
        else drive op (s'.recorded ledger') handle' w' (stalled + 1)
      else drive op (s'.recorded ledger') handle' w' 0 := by
  obtain ⟨hrec, hafter⟩ := recorded_call hcall ledger
  rw [drive, if_neg hroom, hrec]
  dsimp only
  rw [hafter, recorded_settled]
  split
  · next h => exact absurd h (hcode _)
  · rfl

/-- A whole drive. The induction is on the drive of the session itself. -/
theorem recorded_drive (op : FlushOp) (s : EncoderSession ω σ) (handle : σ) (w : Windows)
    (stalled : Nat) (ledger : Ledger) :
    ∃ ledger', drive op (s.recorded ledger) handle w stalled =
      ((drive op s handle w stalled).1, (drive op s handle w stalled).2.1.recorded ledger',
        (drive op s handle w stalled).2.2) := by
  fun_induction drive op s handle w stalled generalizing ledger with
  | case1 s handle w stalled hfull =>
    exact ⟨ledger, by rw [drive, if_pos hfull]⟩
  | case2 s handle w stalled hroom reply handle' world hcall s' w' detail hcode =>
    obtain ⟨hrec, hafter⟩ := recorded_call hcall ledger
    refine ⟨entered ledger op w reply, ?_⟩
    rw [drive, if_neg hroom, hrec]
    dsimp only
    rw [hafter, hcode]
    rfl
  | case3 s handle w stalled hroom reply handle' world hcall s' w' hdone hcode =>
    refine ⟨entered ledger op w reply, ?_⟩
    rw [recorded_round hroom hcall hcode]
    exact if_pos hdone
  | case4 s handle w stalled hroom reply handle' world hcall s' w' hdone hfull hcode =>
    refine ⟨entered ledger op w reply, ?_⟩
    rw [recorded_round hroom hcall hcode]
    exact (if_neg hdone).trans (if_pos hfull)
  | case5 s handle w stalled hroom reply handle' world hcall s' w' hdone hfull hstall pending hp
      hcode =>
    refine ⟨entered ledger op w reply, ?_⟩
    rw [recorded_round hroom hcall hcode]
    dsimp only
    rw [if_neg hdone, if_neg hfull, if_pos hstall, if_pos hp]
  | case6 s handle w stalled hroom reply handle' world hcall s' w' hdone hfull hstall pending hp hs
      hcode =>
    refine ⟨entered ledger op w reply, ?_⟩
    rw [recorded_round hroom hcall hcode]
    dsimp only
    rw [if_neg hdone, if_neg hfull, if_pos hstall, if_neg hp, if_pos hs]
  | case7 s handle w stalled hroom reply handle' world hcall s' w' hdone hfull hstall pending hp hs
      hcode ih =>
    obtain ⟨ledger', hrest⟩ := ih (entered ledger op w reply)
    refine ⟨ledger', ?_⟩
    rw [recorded_round hroom hcall hcode]
    dsimp only
    rw [if_neg hdone, if_neg hfull, if_pos hstall, if_neg hp, if_neg hs]
    exact hrest
  | case8 s handle w stalled hroom reply handle' world hcall s' w' hdone hfull hmoved hcode ih =>
    obtain ⟨ledger', hrest⟩ := ih (entered ledger op w reply)
    refine ⟨ledger', ?_⟩
    rw [recorded_round hroom hcall hcode]
    dsimp only
    rw [if_neg hdone, if_neg hfull, if_neg hmoved]
    exact hrest

theorem recorded_compress (op : FlushOp) (s : EncoderSession ω σ) (w : Windows) (ledger : Ledger) :
    ∃ ledger', (s.recorded ledger).compress op w =
      ((s.compress op w).1, (s.compress op w).2.1.recorded ledger', (s.compress op w).2.2) := by
  unfold compress
  rw [recorded_opened]
  rcases s.opened with ⟨_ | handle, s⟩
  · exact ⟨ledger, rfl⟩
  · dsimp only
    by_cases hfinished : s.engine.isFinished handle = true
    · have hfinished' : (s.recorded ledger).engine.isFinished handle = true := hfinished
      rw [if_pos hfinished, if_pos hfinished']
      split
      · exact ⟨ledger, rfl⟩
      · exact ⟨ledger, rfl⟩
    · have hfinished' : ¬(s.recorded ledger).engine.isFinished handle = true := hfinished
      rw [if_neg hfinished, if_neg hfinished']
      by_cases hidle : s.isIdle op handle w.src = true
      · have hidle' : (s.recorded ledger).isIdle op handle w.src = true := hidle
        rw [if_pos hidle, if_pos hidle']
        exact ⟨ledger, rfl⟩
      · have hidle' : ¬(s.recorded ledger).isIdle op handle w.src = true := hidle
        obtain ⟨ledger', hdrive⟩ := recorded_drive op s handle w 0 ledger
        rw [if_neg hidle, if_neg hidle', hdrive]
        exact ⟨ledger', rfl⟩

end EncoderSession

namespace Compressor

def recorded (c : Compressor ω σ) (ledger : Ledger) : Compressor (ω × Ledger) σ where
  session := c.session.recorded ledger
  output := c.output
  sink := c.sink
  holdsSink := c.holdsSink
  options := c.options
  isCompleted := c.isCompleted

/-- The same answer, and the same compressor but for what its ledger says. -/
def Same {α : Type} (plain : α × Compressor ω σ) (recording : α × Compressor (ω × Ledger) σ) : Prop :=
  ∃ ledger, recording = (plain.1, plain.2.recorded ledger)

theorem recorded_drain (c : Compressor ω σ) (ledger : Ledger) :
    (c.recorded ledger).drain = (c.drain.1, c.drain.2.recorded ledger) := by
  rcases c with ⟨session, output, sink, holdsSink, options, isCompleted⟩
  unfold drain recorded
  dsimp only
  cases output.isEmpty with
  | true => rfl
  | false =>
    cases holdsSink with
    | false => rfl
    | true => rcases sink.writeAll output.unread with ⟨_ | _, _⟩ <;> rfl

theorem recorded_flushSink (c : Compressor ω σ) (ledger : Ledger) :
    (c.recorded ledger).flushSink = (c.flushSink.1, c.flushSink.2.recorded ledger) := by
  rcases c with ⟨session, output, sink, holdsSink, options, isCompleted⟩
  unfold flushSink recorded
  dsimp only
  cases holdsSink with
  | false => rfl
  | true => rcases sink.flush with ⟨_ | _, _⟩ <;> rfl

theorem recorded_pass (op : FlushOp) (c : Compressor ω σ) (src : CursorBuffer) (ledger : Ledger) :
    ∃ ledger', pass op (c.recorded ledger) src =
      (pass op c src).map (fun x => (x.1.recorded ledger', x.2))
        fun y => (y.1, y.2.1.recorded ledger', y.2.2) := by
  obtain ⟨ledger', hrun⟩ := c.session.recorded_compress op ⟨src, c.output⟩ ledger
  have hrun' : (c.recorded ledger).session.compress op ⟨src, (c.recorded ledger).output⟩ = _ := hrun
  refine ⟨ledger', ?_⟩
  unfold pass
  rw [hrun']
  rcases c.session.compress op ⟨src, c.output⟩ with ⟨_ | status, session, w⟩
  · rfl
  · have hdrain : Compressor.drain
        { c.recorded ledger with session := session.recorded ledger', output := w.dst } = _ :=
      recorded_drain { c with session, output := w.dst } ledger'
    dsimp only at hdrain ⊢
    rw [hdrain]
    rcases Compressor.drain _ with ⟨_ | _, d⟩
    · rfl
    · cases status <;> rfl

/-- The same state of a drive, but for the ledger. -/
def SameState (x : Compressor ω σ × CursorBuffer) (x' : Compressor (ω × Ledger) σ × CursorBuffer) :
    Prop :=
  ∃ ledger, x' = (x.1.recorded ledger, x.2)

theorem recorded_drive (op : FlushOp) (c : Compressor ω σ) (src : CursorBuffer) (ledger : Ledger) :
    ∃ ledger', drive op (c.recorded ledger) src =
      ((drive op c src).1, (drive op c src).2.1.recorded ledger', (drive op c src).2.2) := by
  have kept (x : Compressor ω σ × CursorBuffer) (x' : Compressor (ω × Ledger) σ × CursorBuffer)
      (h : SameState x x') :
      Sum.LiftRel SameState (fun y y' => y'.1 = y.1 ∧ SameState y.2 y'.2) (pass op x.1 x.2)
        (pass op x'.1 x'.2) := by
    obtain ⟨ledger, rfl⟩ := h
    obtain ⟨ledger', hpass⟩ := recorded_pass op x.1 x.2 ledger
    rw [hpass]
    cases pass op x.1 x.2 with
    | inl y => exact .inl ⟨ledger', rfl⟩
    | inr y => exact .inr ⟨rfl, ledger', rfl⟩
  have start : SameState (c, src) (c.recorded ledger, src) := ⟨ledger, rfl⟩
  have htogether := loop_together kept start
  unfold drive
  generalize loop (fun x => pass op x.1 x.2) (c, src) = plain at htogether ⊢
  generalize loop (fun x => pass op x.1 x.2) (c.recorded ledger, src) = recording at htogether ⊢
  cases htogether with
  | none => exact ⟨ledger, rfl⟩
  | some hsame =>
    obtain ⟨hresult, ledger', hstate⟩ := hsame
    exact ⟨ledger', Prod.ext hresult hstate⟩

namespace Same

variable {α : Type} {x y : α × Compressor ω σ} {x' y' : α × Compressor (ω × Ledger) σ}

theorem pair (answer : α) (c : Compressor ω σ) (ledger : Ledger) :
    Same (answer, c) (answer, c.recorded ledger) :=
  ⟨ledger, rfl⟩

theorem ite {p : Prop} [Decidable p] (pos : p → Same x x') (neg : ¬p → Same y y') :
    Same (if p then x else y) (if p then x' else y') := by
  split
  · next h => exact pos h
  · next h => exact neg h

end Same

theorem recorded_driveIdle (op : FlushOp) (c : Compressor ω σ) (ledger : Ledger) :
    Same (c.driveIdle op) ((c.recorded ledger).driveIdle op) := by
  obtain ⟨ledger', hdrive⟩ := recorded_drive op c (.filled ByteArray.empty) ledger
  exact ⟨ledger', by rw [driveIdle, hdrive]; rfl⟩

theorem recorded_write (c : Compressor ω σ) (data : ByteArray) (ledger : Ledger) :
    Same (c.write data) ((c.recorded ledger).write data) := by
  refine Same.ite (fun _ => .pair _ c ledger) fun _ => Same.ite (fun _ => .pair _ c ledger) fun _ => ?_
  obtain ⟨ledger', hdrive⟩ := recorded_drive .process c (.filled data) ledger
  rw [hdrive]
  rcases drive .process c (.filled data) with ⟨_ | _, c', src⟩
  · exact .pair _ c' ledger'
  · exact .pair _ c' ledger'

theorem recorded_flush (c : Compressor ω σ) (ledger : Ledger) :
    Same c.flush (c.recorded ledger).flush := by
  refine Same.ite (fun _ => .pair _ c ledger) fun _ =>
    Same.ite (fun _ => ⟨ledger, recorded_flushSink c ledger⟩) fun _ => ?_
  obtain ⟨ledger', hdrive⟩ := recorded_driveIdle .flush c ledger
  rw [hdrive]
  rcases c.driveIdle .flush with ⟨_ | _, c'⟩
  · exact .pair _ c' ledger'
  · exact ⟨ledger', recorded_flushSink c' ledger'⟩

theorem recorded_complete (c : Compressor ω σ) (ledger : Ledger) :
    Same c.complete (c.recorded ledger).complete := by
  refine Same.ite (fun _ => .pair _ c ledger) fun _ => Same.ite (fun _ => .pair _ c ledger) fun _ => ?_
  obtain ⟨ledger', hdrive⟩ := recorded_driveIdle .finish c ledger
  rw [hdrive]
  rcases c.driveIdle .finish with ⟨_ | _, c'⟩
  · exact .pair _ c' ledger'
  · exact ⟨ledger', recorded_flushSink { c' with isCompleted := true } ledger'⟩

theorem recorded_releaseSink (c : Compressor ω σ) (ledger : Ledger) :
    (c.recorded ledger).releaseSink = c.releaseSink.recorded ledger := by
  rcases c with ⟨session, output, sink, holdsSink, options, isCompleted⟩
  cases holdsSink <;> rfl

theorem recorded_dispose (c : Compressor ω σ) (ledger : Ledger) :
    ∃ ledger', (c.recorded ledger).dispose = c.dispose.recorded ledger' := by
  by_cases hdisposed : c.session.isDisposed = true
  · have hstays : c.dispose = c := if_pos hdisposed
    rw [hstays]
    exact ⟨ledger, if_pos hdisposed⟩
  have hcompleted : ∃ ledger',
      (if (c.recorded ledger).isCompleted then c.recorded ledger else (c.recorded ledger).complete.2) =
        (if c.isCompleted then c else c.complete.2).recorded ledger' := by
    by_cases hcompleted : c.isCompleted = true
    · exact ⟨ledger, by rw [if_pos hcompleted]; exact if_pos hcompleted⟩
    · obtain ⟨ledger', hcomplete⟩ := recorded_complete c ledger
      have hincomplete : ¬(c.recorded ledger).isCompleted = true := hcompleted
      exact ⟨ledger', by rw [if_neg hcompleted, if_neg hincomplete, hcomplete]⟩
  obtain ⟨ledger', hstate⟩ := hcompleted
  have hopen : ¬(c.recorded ledger).session.isDisposed = true := hdisposed
  refine ⟨ledger', ?_⟩
  rw [dispose, dispose, if_neg hdisposed, if_neg hopen]
  dsimp only
  rw [hstate]
  generalize (if c.isCompleted then c else c.complete.2) = d
  have hrelease := recorded_releaseSink { d with session := d.session.dispose } ledger'
  by_cases hkept : d.options.leaveOpen = true
  · rw [if_pos hkept]
    exact if_pos hkept
  · rw [if_neg hkept, ← hrelease]
    exact if_neg hkept

theorem recorded_drop (c : Compressor ω σ) (ledger : Ledger) :
    ∃ ledger', (c.recorded ledger).drop = c.drop.recorded ledger' := by
  unfold drop
  by_cases hunfinished : (c.holdsSink && !c.isCompleted) = true
  · obtain ⟨ledger', hdispose⟩ := recorded_dispose c ledger
    have hunfinished' : ((c.recorded ledger).holdsSink && !(c.recorded ledger).isCompleted) = true :=
      hunfinished
    exact ⟨ledger', by rw [if_pos hunfinished, if_pos hunfinished', hdispose, recorded_releaseSink]⟩
  · have hfinished : ¬((c.recorded ledger).holdsSink && !(c.recorded ledger).isCompleted) = true :=
      hunfinished
    exact ⟨ledger, by rw [if_neg hunfinished, if_neg hfinished, recorded_releaseSink]⟩

theorem recorded_finish (c : Compressor ω σ) (ledger : Ledger) :
    Same c.finish (c.recorded ledger).finish := by
  obtain ⟨ledger', hcomplete⟩ := recorded_complete c ledger
  unfold finish
  rw [hcomplete]
  rcases c.complete with ⟨e | _, c'⟩
  all_goals
    obtain ⟨ledger'', hdrop⟩ := recorded_drop c' ledger'
  · exact ⟨ledger'', congrArg (Prod.mk _) hdrop⟩
  · exact Same.ite (fun _ => .pair _ { c' with holdsSink := false } ledger') fun _ =>
      ⟨ledger'', congrArg (Prod.mk _) hdrop⟩

end Compressor

end StreamCodec
