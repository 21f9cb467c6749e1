import StreamCodec.Backend.Script
import StreamCodec.Proofs.EndOfStream

/-!
# What a decoder session answers

An operation of a decoder session that was used in any way is refused or
performed, whatever the libraries under the six decoders answer. A refusal leaves
both buffers alone, and all that the session tells about itself. An operation that
is performed is a row of engine calls, and it is done exactly if the engine has come
to the end of its stream. From then on there is nothing left to do: until the session
is disposed of, every operation is done without a call and moves nothing.
-/
namespace StreamCodec.DecoderSession

variable {ω σ : Type}

/-- What a caller asks of a session. -/
inductive Use where
  | openNow
  | decompress (w : Windows)
  | dispose

def serve (s : DecoderSession ω σ) : Use → DecoderSession ω σ
  | .openNow => s.openNow.2
  | .decompress w => (s.decompress w).2.1
  | .dispose => s.dispose

def serveAll (s : DecoderSession ω σ) (uses : List Use) : DecoderSession ω σ := uses.foldl serve s

def calls (s : DecoderSession ω σ) (w : Windows) : Ledger :=
  ((s.recorded []).decompress w).2.1.world.2

/-- The engine is open and holds no output. -/
def Drained (s : DecoderSession ω σ) : Prop :=
  ∃ handle, s.handle = some handle ∧ s.engine.hasMoreOutput handle = false

/-- What a status says about the session and the buffers that it is answered with. -/
def Shows (calls : Ledger) (s : DecoderSession ω σ) (w : Windows) : Status → Prop
  | .done => s.isFinished = true
  | .destinationTooSmall => w.dst.availableWrite = 0
  | .needMoreData =>
    (s.totalIn = 0 ∧ w.src.isEmpty = true) ∨
      (w.dst.availableWrite ≠ 0 ∧ s.Drained ∧ (w.src.isEmpty = true ∨ calls.Stalled))
  | .invalidData => calls.Explains s.noProgress s.lastError

/-- What a drive answers is so. The induction is on the drive's own recursion: an answer is about
the last round alone, and about the last entry of the ledger. -/
theorem drive_shows {engine : DecoderEngine ω σ} (s : DecoderSession (ω × Ledger) σ)
    (he : s.engine = engine.recording) (hannounces : engine.Announces) (handle : σ) (w : Windows)
    (stalled : Nat) :
    Shows (drive s handle w stalled).2.1.world.2 (drive s handle w stalled).2.1
      (drive s handle w stalled).2.2 (drive s handle w stalled).1 := by
  fun_induction drive s handle w stalled with
  | case1 s handle w stalled hfull => exact hfull
  | case2 s handle w stalled hroom reply handle' world hcall s' w' detail hcode =>
    exact Ledger.explains_error .decode hcode (runs_record he handle w hcall).ledger _
  | case3 s handle w stalled hroom reply handle' world hcall s' w' hcode =>
    have hannounces' : s.engine.Announces := by
      rw [he]
      exact fun input room handle world => hannounces input room handle world.1
    have hfinished := hannounces' w.src.unread w.dst.unwritten handle s.world
    rw [hcall] at hfinished
    exact hfinished hcode
  | case4 s handle w stalled hroom reply handle' world hcall s' w' hfull => exact hfull
  | case5 s handle w stalled hroom reply handle' world hcall s' w' pending hfull hempty =>
    simp only [Bool.and_eq_true, Bool.not_eq_true'] at hempty
    exact .inr ⟨hfull, ⟨handle', rfl, hempty.2⟩, .inl hempty.1⟩
  | case6 s handle w stalled hroom reply handle' world hcall s' w' pending hfull hempty hstall
      hnone =>
    rw [Bool.not_eq_true'] at hnone
    exact .inr ⟨hfull, ⟨handle', rfl, hnone⟩,
      .inr (Windows.stalled _ hstall (runs_record he handle w hcall).ledger)⟩
  | case7 s handle w stalled hroom reply handle' world hcall s' w' pending hfull hempty hstall =>
    exact .inr ⟨Windows.stalled _ hstall (runs_record he handle w hcall).ledger, rfl⟩
  | case8 | case9 =>
    rename_i ih
    exact ih he

/-- A call that does not end the stream leaves it unfinished. -/
theorem isFinished_record {s : DecoderSession ω σ} (hgoes : s.engine.GoesOn) {handle handle' : σ}
    (hopen : s.engine.isFinished handle = false) {w : Windows} {reply : Reply} {world : ω}
    (hcall : s.engine.decompress w.src.unread w.dst.unwritten handle s.world =
      (reply, handle', world)) (hcode : reply.code ≠ .streamEnd) :
    (s.record w reply handle' world).isFinished = false := by
  have hgoes' := hgoes w.src.unread w.dst.unwritten handle s.world hopen
  rw [hcall] at hgoes'
  exact hgoes' hcode

theorem drive_unfinished (s : DecoderSession ω σ) (hgoes : s.engine.GoesOn) (handle : σ)
    (hh : s.handle = some handle) (hopen : s.engine.isFinished handle = false) (w : Windows)
    (stalled : Nat) (hstatus : (drive s handle w stalled).1 ≠ .done) :
    (drive s handle w stalled).2.1.isFinished = false := by
  fun_induction drive s handle w stalled with
  | case1 s handle w stalled hfull =>
    rw [isFinished, hh]
    exact hopen
  | case2 s handle w stalled hroom reply handle' world hcall s' w' detail hcode =>
    exact isFinished_record hgoes hopen hcall (by simp [hcode])
  | case3 => exact absurd rfl hstatus
  | case4 | case5 | case6 | case7 =>
    rename_i hends
    exact isFinished_record hgoes hopen ‹_› hends
  | case8 | case9 =>
    rename_i hends ih
    exact ih hgoes rfl (isFinished_record hgoes hopen ‹_› hends) hstatus

/-- What opening leaves of a session as it was. -/
structure Untouched (s s' : DecoderSession ω σ) : Prop where
  totalIn : s'.totalIn = s.totalIn
  totalOut : s'.totalOut = s.totalOut
  hasSeenInput : s'.hasSeenInput = s.hasSeenInput
  lastError : s'.lastError = s.lastError

/-- What every use of a session keeps up. -/
structure Orderly (engine : DecoderEngine ω σ) (s : DecoderSession ω σ) : Prop where
  engine : s.engine = engine
  seen : s.Seen
  released : s.isDisposed = true → s.handle = none

/-- Why a session does not open. -/
inductive Cause (s : DecoderSession ω σ) : CodecError → Prop
  | disposed (disposed : s.isDisposed = true) : Cause s .disposed
  | creation {e : CodecError} {world : ω} (fails : s.engine.create s.world = (.error e, world)) :
      Cause s e
  | parameter {handle : σ} {world world' : ω} {p : Parameter}
      (created : s.engine.create s.world = (.ok handle, world))
      (refused : s.engine.configure s.options.decoderParameters handle world = (.error p, world')) :
      Cause s (p.rejected s.codec)

/-- A session after opening: it is open, or opening failed and no engine is held. -/
structure Opening (engine : DecoderEngine ω σ) (s : DecoderSession ω σ) (result : Except CodecError σ)
    (s' : DecoderSession ω σ) : Prop where
  untouched : Untouched s s'
  orderly : Orderly engine s'
  opens : ∀ handle, result = .ok handle → s'.isDisposed = false ∧ s'.handle = some handle
  fails : ∀ e, result = .error e → s'.handle = none ∧ Cause s e

variable {engine : DecoderEngine ω σ}

theorem opening_opened {s s' : DecoderSession ω σ} (h : Orderly engine s)
    {result : Except CodecError σ} (hopened : s.opened = (result, s')) :
    Opening engine s result s' := by
  unfold opened at hopened
  split at hopened
  · next hd =>
    cases hopened
    exact ⟨⟨rfl, rfl, rfl, rfl⟩, h, nofun, by rintro _ ⟨⟩; exact ⟨h.released hd, .disposed hd⟩⟩
  · next hd =>
    rw [Bool.not_eq_true] at hd
    split at hopened
    · next handle hh =>
      cases hopened
      exact ⟨⟨rfl, rfl, rfl, rfl⟩, h, by rintro _ ⟨⟩; exact ⟨hd, hh⟩, nofun⟩
    · next hh =>
      split at hopened
      · next e world hcreate =>
        cases hopened
        exact ⟨⟨rfl, rfl, rfl, rfl⟩, ⟨h.engine, h.seen, h.released⟩, nofun,
          by rintro _ ⟨⟩; exact ⟨hh, .creation hcreate⟩⟩
      · next handle world hcreate =>
        split at hopened
        · next p world' hconfigure =>
          cases hopened
          exact ⟨⟨rfl, rfl, rfl, rfl⟩, ⟨h.engine, h.seen, h.released⟩, nofun,
            by rintro _ ⟨⟩; exact ⟨hh, .parameter hcreate hconfigure⟩⟩
        · cases hopened
          exact ⟨⟨rfl, rfl, rfl, rfl⟩,
            ⟨h.engine, h.seen, fun hdisposed => absurd hdisposed (ne_true_of_eq_false hd)⟩,
            by rintro _ ⟨⟩; exact ⟨hd, rfl⟩, nofun⟩

theorem Orderly.record {s : DecoderSession ω σ} (h : Orderly engine s) (hd : s.isDisposed = false)
    (w : Windows) (reply : Reply) (handle : σ) (world : ω) :
    Orderly engine (s.record w reply handle world) :=
  ⟨h.engine, h.seen.record, fun hdisposed => absurd hdisposed (ne_true_of_eq_false hd)⟩

theorem Orderly.fail {s : DecoderSession ω σ} (h : Orderly engine s) (detail : String) :
    Orderly engine (s.fail detail) :=
  ⟨h.engine, h.seen, h.released⟩

theorem Orderly.drive {s : DecoderSession ω σ} (h : Orderly engine s) (hd : s.isDisposed = false)
    (handle : σ) (w : Windows) (stalled : Nat) :
    Orderly engine (s.drive handle w stalled).2.1 := by
  fun_induction DecoderSession.drive s handle w stalled with
  | case1 => exact h
  | case2 | case7 => exact (h.record hd ..).fail _
  | case3 | case4 | case5 | case6 => exact h.record hd ..
  | case8 | case9 =>
    rename_i ih
    exact ih (h.record hd ..) hd

theorem Orderly.decompress {s : DecoderSession ω σ} (h : Orderly engine s) (w : Windows) :
    Orderly engine (s.decompress w).2.1 := by
  unfold DecoderSession.decompress
  rcases hopened : s.opened with ⟨_ | handle, s'⟩
  · exact (opening_opened h hopened).orderly
  · have hopening := opening_opened h hopened
    dsimp only
    split
    · exact hopening.orderly
    · split
      · exact hopening.orderly
      · exact hopening.orderly.drive (hopening.opens handle rfl).1 handle w 0

theorem Orderly.serve {s : DecoderSession ω σ} (h : Orderly engine s) (use : Use) :
    Orderly engine (s.serve use) := by
  cases use with
  | openNow =>
    rw [DecoderSession.serve, DecoderSession.openNow]
    rcases hopened : s.opened with ⟨_ | handle, s'⟩ <;> exact (opening_opened h hopened).orderly
  | decompress w => exact h.decompress w
  | dispose => exact ⟨h.engine, h.seen, fun _ => rfl⟩

theorem Orderly.serveAll {s : DecoderSession ω σ} (h : Orderly engine s) (uses : List Use) :
    Orderly engine (s.serveAll uses) := by
  induction uses generalizing s with
  | nil => exact h
  | cons use uses ih => exact ih (h.serve use)

/-- A session whose stream is over: no use but `dispose` changes it, and no operation calls the
engine or moves a byte. -/
def Over (s : DecoderSession ω σ) : Prop :=
  ∀ uses : List Use, .dispose ∉ uses → ∀ w,
    (s.serveAll uses).decompress w = (.ok .done, s, w) ∧ (s.serveAll uses).calls w = []

theorem Orderly.holds {s : DecoderSession ω σ} (h : Orderly engine s) (hfinished : s.isFinished = true) :
    s.isDisposed = false ∧ ∃ handle, s.handle = some handle := by
  cases hh : s.handle with
  | none =>
    rw [isFinished, hh] at hfinished
    cases hfinished
  | some handle =>
    refine ⟨?_, handle, rfl⟩
    by_contra hdisposed
    rw [h.released (by simpa using hdisposed)] at hh
    cases hh

theorem Orderly.serve_finished {s : DecoderSession ω σ} (h : Orderly engine s)
    (hfinished : s.isFinished = true) {use : Use} (hkeeps : use ≠ .dispose) : s.serve use = s := by
  obtain ⟨hd, handle, hh⟩ := h.holds hfinished
  cases use with
  | openNow => rw [DecoderSession.serve, openNow, opened_of_handle hd hh]
  | decompress w => rw [DecoderSession.serve, decompress_of_isFinished hd hfinished]
  | dispose => exact absurd rfl hkeeps

theorem Orderly.serveAll_finished {s : DecoderSession ω σ} (h : Orderly engine s)
    (hfinished : s.isFinished = true) {uses : List Use} (hkeeps : .dispose ∉ uses) :
    s.serveAll uses = s := by
  induction uses with
  | nil => rfl
  | cons use uses ih =>
    rw [List.mem_cons, not_or] at hkeeps
    have hserve := h.serve_finished hfinished (Ne.symm hkeeps.1)
    exact (congrArg (DecoderSession.serveAll · uses) hserve).trans (ih hkeeps.2)

theorem Orderly.over {s : DecoderSession ω σ} (h : Orderly engine s) (hfinished : s.isFinished = true) :
    s.Over := by
  obtain ⟨hd, -⟩ := h.holds hfinished
  intro uses hkeeps w
  rw [h.serveAll_finished hfinished hkeeps, calls,
    decompress_of_isFinished (s := s.recorded []) hd hfinished]
  exact ⟨decompress_of_isFinished hd hfinished w, rfl⟩

structure Performed (s : DecoderSession ω σ) (w : Windows) (status : Status)
    (s' : DecoderSession ω σ) (w' : Windows) (calls : Ledger) : Prop where
  moved : Moved calls w w'
  totalIn : s'.totalIn = s.totalIn + calls.consumed.length
  totalOut : s'.totalOut = s.totalOut + calls.produced.length
  seen : s'.Seen
  holds : Shows calls s' w' status
  done : status = .done ↔ s'.isFinished = true
  stays : s'.isFinished = true → s'.Over

structure Refused (s : DecoderSession ω σ) (w : Windows) (e : CodecError) (s' : DecoderSession ω σ)
    (w' : Windows) (calls : Ledger) : Prop where
  untouched : Untouched s s'
  windows : w' = w
  calls : calls = []
  seen : s'.Seen
  unfinished : s'.isFinished = false
  cause : Cause s e

/-- What an operation comes to. -/
def Outcome (s : DecoderSession ω σ) (w : Windows) (calls : Ledger) :
    Except CodecError Status × DecoderSession ω σ × Windows → Prop
  | (.ok status, s', w') => Performed s w status s' w' calls
  | (.error e, s', w') => Refused s w e s' w' calls

/-- An operation that needs no call. -/
theorem performed_idle {s s' : DecoderSession ω σ} {w : Windows} {status : Status}
    (huntouched : Untouched s s') (horderly : Orderly engine s') (hshows : Shows [] s' w status)
    (hdone : status = .done ↔ s'.isFinished = true) : Performed s w status s' w [] :=
  ⟨.refl w, huntouched.totalIn, huntouched.totalOut, horderly.seen, hshows, hdone, horderly.over⟩

/-- An operation that is left to a drive. -/
theorem performed_drive (hannounces : engine.Announces) (hgoes : engine.GoesOn)
    {s s' : DecoderSession ω σ} (huntouched : Untouched s s') (horderly : Orderly engine s')
    (hd : s'.isDisposed = false) {handle : σ} (hh : s'.handle = some handle)
    (hopen : s'.engine.isFinished handle = false) (w : Windows) :
    Performed s w (drive s' handle w 0).1 (drive s' handle w 0).2.1 (drive s' handle w 0).2.2
      (drive (s'.recorded []) handle w 0).2.1.world.2 := by
  have hengine := horderly.engine
  have he : (s'.recorded []).engine = engine.recording := by rw [← hengine]; rfl
  obtain ⟨calls, hruns⟩ := drive_runs (s'.recorded []) he handle w 0
  have hshows := drive_shows (s'.recorded []) he hannounces handle w 0
  have hledger : (drive (s'.recorded []) handle w 0).2.1.world.2 = calls := hruns.ledger
  have hin := hruns.totalIn
  have hout := hruns.totalOut
  have hmoved := hruns.moved
  rw [hledger] at hshows ⊢
  obtain ⟨ledger, hsame⟩ := recorded_drive s' handle w 0 []
  rw [hsame] at hshows hin hout hmoved
  have hafter := horderly.drive hd handle w 0
  refine ⟨hmoved, hin.trans (congrArg (· + _) huntouched.totalIn),
    hout.trans (congrArg (· + _) huntouched.totalOut), hafter.seen, hshows, ⟨?_, ?_⟩, hafter.over⟩
  · intro hstatus
    rw [hstatus] at hshows
    exact hshows
  · intro hfinished
    by_contra hstatus
    have hunfinished := drive_unfinished s' (hengine ▸ hgoes) handle hh hopen w 0 hstatus
    rw [hunfinished] at hfinished
    cases hfinished

theorem decompress_opened {s s' : DecoderSession ω σ} {handle : σ}
    (hopened : s.opened = (.ok handle, s')) (w : Windows) :
    (s.decompress w, s.calls w) =
      if s'.engine.isFinished handle then ((.ok .done, s', w), [])
      else if w.src.isEmpty && !s'.hasSeenInput then ((.ok .needMoreData, s', w), [])
      else
        ((.ok (drive s' handle w 0).1, (drive s' handle w 0).2),
          (drive (s'.recorded []) handle w 0).2.1.world.2) := by
  have hengine : (s'.recorded []).engine.isFinished handle = s'.engine.isFinished handle := rfl
  have hseen : (s'.recorded []).hasSeenInput = s'.hasSeenInput := rfl
  simp only [calls, DecoderSession.decompress, recorded_opened, hopened, hengine, hseen]
  split
  · rfl
  · split <;> rfl

theorem outcome_opened (hannounces : engine.Announces) (hgoes : engine.GoesOn)
    {s s' : DecoderSession ω σ} {handle : σ} (hopened : s.opened = (.ok handle, s'))
    (hopening : Opening engine s (.ok handle) s') (w : Windows) :
    Outcome s w (s.calls w) (s.decompress w) := by
  obtain ⟨hd, hh⟩ := hopening.opens handle rfl
  have hfinished : s'.isFinished = s'.engine.isFinished handle := by
    rw [isFinished, hh]
    rfl
  have hrun := decompress_opened hopened w
  rw [← hfinished] at hrun
  split at hrun
  · next hend =>
    obtain ⟨hdecompress, hcalls⟩ := Prod.mk.inj hrun
    rw [hdecompress, hcalls]
    exact performed_idle hopening.untouched hopening.orderly hend (iff_of_true rfl hend)
  · next hend =>
    split at hrun
    · next hnothing =>
      obtain ⟨hdecompress, hcalls⟩ := Prod.mk.inj hrun
      rw [Bool.and_eq_true, Bool.not_eq_true'] at hnothing
      obtain ⟨hempty, hunseen⟩ := hnothing
      have hzero : s'.totalIn = 0 := by
        have hseen := hopening.orderly.seen
        unfold Seen at hseen
        rw [hunseen] at hseen
        exact Nat.eq_zero_of_not_pos fun hpos => Bool.false_ne_true (hseen.mpr hpos)
      rw [hdecompress, hcalls]
      exact performed_idle hopening.untouched hopening.orderly (.inl ⟨hzero, hempty⟩)
        (iff_of_false (by decide) hend)
    · obtain ⟨hdecompress, hcalls⟩ := Prod.mk.inj hrun
      rw [hdecompress, hcalls]
      rw [hfinished, Bool.not_eq_true] at hend
      exact performed_drive hannounces hgoes hopening.untouched hopening.orderly hd hh hend w

theorem outcome_orderly (hannounces : engine.Announces) (hgoes : engine.GoesOn)
    {s : DecoderSession ω σ} (h : Orderly engine s) (w : Windows) :
    Outcome s w (s.calls w) (s.decompress w) := by
  rcases hopened : s.opened with ⟨e | handle, s'⟩
  · have hopening := opening_opened h hopened
    obtain ⟨hnone, hcause⟩ := hopening.fails e rfl
    have hcalls : s.calls w = [] := by
      simp only [calls, DecoderSession.decompress, recorded_opened, hopened]
      rfl
    have hunfinished : s'.isFinished = false := by
      rw [isFinished, hnone]
      rfl
    rw [hcalls, DecoderSession.decompress, hopened]
    exact ⟨hopening.untouched, rfl, rfl, hopening.orderly.seen, hunfinished, hcause⟩
  · exact outcome_opened hannounces hgoes hopened (opening_opened h hopened) w

theorem orderly_new {ε : Type} {registry : Registry ω ε σ} {world : ω} {options : CodecOptions}
    {s : DecoderSession ω σ} (h : DecoderSession.new registry world options = .ok s) :
    ∃ factory, registry.factory options.codec = .ok factory ∧ Orderly factory.decoder s := by
  obtain ⟨factory, hfactory, rfl⟩ := eq_of_new h
  exact ⟨factory, hfactory, rfl, iff_of_false Bool.false_ne_true (Nat.lt_irrefl 0), nofun⟩

/-- Every operation comes to what its answer says, whatever was asked of the session before and
whatever the libraries answer. -/
theorem decompress_outcome (backend : Backend ω) (world : ω) (options : CodecOptions)
    {s : DecoderSession ω DecoderHandle}
    (hnew : DecoderSession.new backend.registry world options = .ok s) (uses : List Use)
    (w : Windows) :
    Outcome (s.serveAll uses) w ((s.serveAll uses).calls w) ((s.serveAll uses).decompress w) := by
  obtain ⟨factory, hfactory, horderly⟩ := orderly_new hnew
  exact outcome_orderly (backend.registry_announces hfactory) (backend.registry_goesOn hfactory)
    (horderly.serveAll uses) w

/-- A scripted library whose one answer takes all that it is offered, emits a byte and ends the
stream: the second operation is done without a call. -/
theorem decompress_outcome_script :
    let world : Script := { steps := [{ effect := .emit none ⟨#[7]⟩ 0, verdict := .streamEnd }] }
    let w : Windows := ⟨.filled ⟨#[1, 2, 3]⟩, .withCapacity 4⟩
    ∃ s, DecoderSession.new Script.backend.registry world { codec := .xz } = .ok s ∧
      Outcome (s.serveAll [.openNow, .decompress w]) w
        ((s.serveAll [.openNow, .decompress w]).calls w)
        ((s.serveAll [.openNow, .decompress w]).decompress w) := by
  intro world w
  exact ⟨_, rfl, decompress_outcome Script.backend world { codec := .xz } rfl
    [.openNow, .decompress w] w⟩

end StreamCodec.DecoderSession
