import StreamCodec.Proofs.Recording

/-!
# What an encoder session answers

An operation of an encoder session over any engine, in any state and on any
buffers, is refused or performed. A refusal leaves both buffers alone, and all
that the session tells about itself. An operation that is performed is a row of
engine calls: what they consumed left the front of the source, what they
produced arrived at the back of the destination, and the status says what is true
of the engine and the buffers afterwards.
-/
namespace StreamCodec.EncoderSession

variable {ω σ : Type}

def calls (op : FlushOp) (s : EncoderSession ω σ) (w : Windows) : Ledger :=
  ((s.recorded []).compress op w).2.1.world.2

/-- The engine is open and holds no output. -/
def Drained (s : EncoderSession ω σ) : Prop :=
  ∃ handle, s.handle = some handle ∧ s.engine.hasMoreOutput handle = false

/-- What it says that an operation is done. -/
def Done (calls : Ledger) (s : EncoderSession ω σ) (w : Windows) : FlushOp → Prop
  | .process => s.Drained ∧ (w.src.isEmpty = true ∨ calls.Stalled)
  | .flush => w.src.isEmpty = true ∧ s.Drained ∧ s.isDirty = false
  | .finish => s.isFinished = true

/-- What a status says about the session and the buffers that it is answered with. -/
def Tells (op : FlushOp) (calls : Ledger) (s : EncoderSession ω σ) (w : Windows) : Status → Prop
  | .done => Done calls s w op
  | .destinationTooSmall => w.dst.availableWrite = 0
  | .needMoreData => False
  | .invalidData => calls.Explains s.noProgress s.lastError

theorem done_of_complete {op : FlushOp} {s : EncoderSession ω σ} {handle : σ} {w : Windows}
    {reply : Reply} {world : ω} (calls : Ledger)
    (h : s.isComplete op handle (w.settle reply) = true) :
    Done calls ((s.record w reply handle world).settled op) (w.settle reply) op := by
  cases op with
  | finish => exact h
  | process =>
    simp only [isComplete, Bool.and_eq_true, Bool.not_eq_true'] at h
    exact ⟨⟨handle, rfl, h.2⟩, .inl h.1⟩
  | flush =>
    simp only [isComplete, Bool.and_eq_true, Bool.not_eq_true'] at h
    exact ⟨h.1, ⟨handle, rfl, h.2⟩, rfl⟩

/-- What a drive answers is so. The induction is on the drive's own recursion: an answer is about
the last round alone, and about the last entry of the ledger. -/
theorem drive_tells {engine : EncoderEngine ω σ} (op : FlushOp) (s : EncoderSession (ω × Ledger) σ)
    (he : s.engine = engine.recording) (handle : σ) (w : Windows) (stalled : Nat) :
    Tells op (drive op s handle w stalled).2.1.world.2 (drive op s handle w stalled).2.1
      (drive op s handle w stalled).2.2 (drive op s handle w stalled).1 := by
  fun_induction drive op s handle w stalled with
  | case1 s handle w stalled hfull => exact hfull
  | case2 s handle w stalled hroom reply handle' world hcall s' w' detail hcode =>
    exact Ledger.explains_error (.encode op) hcode (charged_record he op handle w hcall).ledger _
  | case3 s handle w stalled hroom reply handle' world hcall s' w' hdone hcode =>
    exact done_of_complete _ hdone
  | case4 s handle w stalled hroom reply handle' world hcall s' w' hdone hfull hcode => exact hfull
  | case5 s handle w stalled hroom reply handle' world hcall s' w' hdone hfull hstall pending hp
      hcode =>
    simp only [Bool.and_eq_true, Bool.not_eq_true', decide_eq_true_eq] at hp
    obtain ⟨hnone, rfl⟩ := hp
    exact ⟨⟨handle', rfl, hnone⟩,
      .inr (Windows.stalled _ hstall (charged_record he .process handle w hcall).ledger)⟩
  | case6 s handle w stalled hroom reply handle' world hcall s' w' hdone hfull hstall pending hp hs
      hcode =>
    exact .inr ⟨Windows.stalled _ hstall (charged_record he op handle w hcall).ledger, rfl⟩
  | case7 s handle w stalled hroom reply handle' world hcall s' w' hdone hfull hstall pending hp hs
      hcode ih => exact ih he
  | case8 s handle w stalled hroom reply handle' world hcall s' w' hdone hfull hmoved hcode ih =>
    exact ih he

/-- What opening leaves of a session as it was. -/
structure Untouched (s s' : EncoderSession ω σ) : Prop where
  totalIn : s'.totalIn = s.totalIn
  totalOut : s'.totalOut = s.totalOut
  isDirty : s'.isDirty = s.isDirty
  lastError : s'.lastError = s.lastError

/-- Why an operation is refused. -/
inductive Cause (op : FlushOp) (s : EncoderSession ω σ) (w : Windows) (s' : EncoderSession ω σ) :
    CodecError → Prop
  | disposed (disposed : s.isDisposed = true) : Cause op s w s' .disposed
  | creation {e : CodecError} {world : ω} (fails : s.engine.create s.world = (.error e, world)) :
      Cause op s w s' e
  | parameter {handle : σ} {world world' : ω} {p : Parameter}
      (created : s.engine.create s.world = (.ok handle, world))
      (refused : s.engine.configure s.options.encoderParameters handle world = (.error p, world')) :
      Cause op s w s' (p.rejected s.codec)
  | completed (finished : s'.isFinished = true) (more : w.src.isEmpty = false ∨ op ≠ .finish) :
      Cause op s w s' .completed

/-- Opening tells nothing new, and fails for one of three causes. -/
theorem opened_untouched {s s' : EncoderSession ω σ} {result : Except CodecError σ}
    (h : s.opened = (result, s')) :
    Untouched s s' ∧ (∀ handle, result = .ok handle → s'.handle = some handle) ∧
      ∀ e, result = .error e → ∀ op w, Cause op s w s' e := by
  unfold opened at h
  split at h
  · next hdisposed =>
    cases h
    exact ⟨⟨rfl, rfl, rfl, rfl⟩, nofun, by rintro e ⟨⟩ op w; exact .disposed hdisposed⟩
  · split at h
    · next handle hhandle =>
      cases h
      exact ⟨⟨rfl, rfl, rfl, rfl⟩, by rintro _ ⟨⟩; exact hhandle, nofun⟩
    · split at h
      · next e world hcreate =>
        cases h
        exact ⟨⟨rfl, rfl, rfl, rfl⟩, nofun, by rintro _ ⟨⟩ op w; exact .creation hcreate⟩
      · next handle world hcreate =>
        split at h
        · next p world' hconfigure =>
          cases h
          exact ⟨⟨rfl, rfl, rfl, rfl⟩, nofun,
            by rintro _ ⟨⟩ op w; exact .parameter hcreate hconfigure⟩
        · cases h
          exact ⟨⟨rfl, rfl, rfl, rfl⟩, by rintro _ ⟨⟩; rfl, nofun⟩

structure Performed (op : FlushOp) (s : EncoderSession ω σ) (w : Windows) (status : Status)
    (s' : EncoderSession ω σ) (w' : Windows) (calls : Ledger) : Prop where
  moved : Moved calls w w'
  totalIn : s'.totalIn = s.totalIn + calls.consumed.length
  totalOut : s'.totalOut = s.totalOut + calls.produced.length
  tells : Tells op calls s' w' status

structure Refused (op : FlushOp) (s : EncoderSession ω σ) (w : Windows) (e : CodecError)
    (s' : EncoderSession ω σ) (w' : Windows) (calls : Ledger) : Prop where
  untouched : Untouched s s'
  windows : w' = w
  calls : calls = []
  cause : Cause op s w s' e

/-- What an operation comes to. -/
def Outcome (op : FlushOp) (s : EncoderSession ω σ) (w : Windows) (calls : Ledger) :
    Except CodecError Status × EncoderSession ω σ × Windows → Prop
  | (.ok status, s', w') => Performed op s w status s' w' calls
  | (.error e, s', w') => Refused op s w e s' w' calls

/-- An operation that is done without a call. -/
theorem performed_idle {op : FlushOp} {s s' : EncoderSession ω σ} {w : Windows}
    (huntouched : Untouched s s') (hdone : Done [] s' w op) : Performed op s w .done s' w [] :=
  ⟨.refl w, huntouched.totalIn, huntouched.totalOut, hdone⟩

/-- An operation that is left to a drive. -/
theorem performed_drive {op : FlushOp} {s s' : EncoderSession ω σ} (huntouched : Untouched s s')
    (handle : σ) (w : Windows) :
    Performed op s w (drive op s' handle w 0).1 (drive op s' handle w 0).2.1
      (drive op s' handle w 0).2.2 (drive op (s'.recorded []) handle w 0).2.1.world.2 := by
  have he : (s'.recorded []).engine = s'.engine.recording := rfl
  obtain ⟨calls, hends⟩ := drive_ends op (s'.recorded []) he handle w 0
  have htells := drive_tells op (s'.recorded []) he handle w 0
  have hledger : (drive op (s'.recorded []) handle w 0).2.1.world.2 = calls := hends.charged.ledger
  have hin := hends.charged.totalIn
  have hout := hends.charged.totalOut
  have hmoved := hends.moved
  rw [hledger] at htells ⊢
  obtain ⟨ledger, hsame⟩ := recorded_drive op s' handle w 0 []
  rw [hsame] at htells hin hout hmoved
  exact ⟨hmoved, hin.trans (congrArg (· + _) huntouched.totalIn),
    hout.trans (congrArg (· + _) huntouched.totalOut), htells⟩

theorem compress_opened (op : FlushOp) {s s' : EncoderSession ω σ} {handle : σ}
    (hopened : s.opened = (.ok handle, s')) (w : Windows) :
    (s.compress op w, s.calls op w) =
      if s'.engine.isFinished handle then
        (if w.src.isEmpty && op = .finish then (.ok .done, s', w) else (.error .completed, s', w), [])
      else if s'.isIdle op handle w.src then ((.ok .done, s', w), [])
      else
        ((.ok (drive op s' handle w 0).1, (drive op s' handle w 0).2),
          (drive op (s'.recorded []) handle w 0).2.1.world.2) := by
  have hengine : (s'.recorded []).engine.isFinished handle = s'.engine.isFinished handle := rfl
  have hidle : (s'.recorded []).isIdle op handle w.src = s'.isIdle op handle w.src := rfl
  simp only [calls, compress, recorded_opened, hopened, hengine, hidle]
  split
  · split <;> rfl
  · split <;> rfl

/-- An operation on a session that opens is refused only once the stream is complete. -/
theorem outcome_opened {op : FlushOp} {s s' : EncoderSession ω σ} {handle : σ}
    (hopened : s.opened = (.ok handle, s')) (w : Windows) :
    Outcome op s w (s.calls op w) (s.compress op w) := by
  obtain ⟨huntouched, hhandle, -⟩ := opened_untouched hopened
  have hh := hhandle handle rfl
  have hrun := compress_opened op hopened w
  split at hrun
  · next hfinished =>
    obtain ⟨hcompress, hcalls⟩ := Prod.mk.inj hrun
    have hend : s'.isFinished = true := by
      rw [isFinished, hh]
      exact hfinished
    rw [hcompress, hcalls]
    split
    · next hlast =>
      rw [Bool.and_eq_true, decide_eq_true_eq] at hlast
      obtain ⟨-, rfl⟩ := hlast
      exact performed_idle huntouched hend
    · next hmore =>
      rw [Bool.and_eq_true, decide_eq_true_eq, not_and_or, Bool.not_eq_true] at hmore
      exact ⟨huntouched, rfl, rfl, .completed hend hmore⟩
  · split at hrun
    · next hidle =>
      obtain ⟨hcompress, hcalls⟩ := Prod.mk.inj hrun
      simp only [isIdle, Bool.and_eq_true, decide_eq_true_eq, Bool.not_eq_true', Bool.or_eq_true]
        at hidle
      obtain ⟨⟨⟨hempty, hop⟩, hnone⟩, hclean⟩ := hidle
      have hdrained : s'.Drained := ⟨handle, hh, hnone⟩
      rw [hcompress, hcalls]
      refine performed_idle huntouched ?_
      cases op with
      | process => exact ⟨hdrained, .inl hempty⟩
      | flush => exact ⟨hempty, hdrained, hclean.resolve_left nofun⟩
      | finish => exact absurd rfl hop
    · obtain ⟨hcompress, hcalls⟩ := Prod.mk.inj hrun
      rw [hcompress, hcalls]
      exact performed_drive huntouched handle w

/-- Every operation comes to what its answer says, whatever the engine does. -/
theorem compress_outcome (op : FlushOp) (s : EncoderSession ω σ) (w : Windows) :
    Outcome op s w (s.calls op w) (s.compress op w) := by
  rcases hopened : s.opened with ⟨e | handle, s'⟩
  · obtain ⟨huntouched, -, hcause⟩ := opened_untouched hopened
    have hcalls : s.calls op w = [] := by
      simp only [calls, compress, recorded_opened, hopened]
      rfl
    rw [hcalls, compress, hopened]
    exact ⟨huntouched, rfl, rfl, hcause e rfl op w⟩
  · exact outcome_opened hopened w

end StreamCodec.EncoderSession
