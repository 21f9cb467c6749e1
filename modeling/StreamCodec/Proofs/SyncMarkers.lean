import StreamCodec.Proofs.DeflateCalls
import StreamCodec.Proofs.IdleRequests

/-!
# Sync markers

A compressor over a deflate library asks for a sync marker once for every flush
that has something to emit, and never for another before plain bytes were
consumed. A flush that fills the room goes on without a marker, on an empty
input, until a call leaves room over. The session's dirty flag and the adapter's
two flags carry this together: between two requests the engine holds nothing, and
in the middle of a flush it holds output exactly if it is draining.
-/
namespace StreamCodec

open Deflate (NativeCall Spaced)

variable {ω σ : Type}

/-- The libraries with a deflate library whose calls are entered into a ledger. -/
def Backend.deflating (rest : Backend (ω × List NativeCall)) (backend : Deflate.Backend ω) :
    Backend (ω × List NativeCall) :=
  { rest with deflate := backend.recording }

namespace EncoderSession

/-- The session's engine is that of a deflate codec. -/
def Deflates (rest : Backend (ω × List NativeCall)) (backend : Deflate.Backend ω)
    (s : EncoderSession (ω × List NativeCall) EncoderHandle) : Prop :=
  ∃ zlib, s.engine = Backend.encoder.deflate (rest.deflating backend) zlib

/-- The engine is in the middle of a stream, with these flags. -/
def Holds (s : EncoderSession (ω × List NativeCall) EncoderHandle) (hasMore isDraining : Bool) :
    Prop :=
  ∃ h : Deflate.EncoderHandle, s.handle = some (.deflate h) ∧ h.isFinished = false ∧
    h.hasMore = hasMore ∧ h.isDraining = isDraining

/-- What some calls did to a session: they are in the ledger, and the flag tells whether any of
them took plain bytes. -/
structure Called (s s' : EncoderSession (ω × List NativeCall) EncoderHandle)
    (calls : List NativeCall) : Prop where
  engine : s'.engine = s.engine
  ledger : s'.world.2 = s.world.2 ++ calls
  isDirty : s'.isDirty = true ↔ s.isDirty = true ∨ ∃ call ∈ calls, call.Consumes

namespace Called

variable {s s' s'' : EncoderSession (ω × List NativeCall) EncoderHandle} {a b : List NativeCall}

theorem refl (s : EncoderSession (ω × List NativeCall) EncoderHandle) : Called s s [] :=
  ⟨rfl, (List.append_nil _).symm, by simp⟩

theorem trans (first : Called s s' a) (second : Called s' s'' b) : Called s s'' (a ++ b) where
  engine := second.engine.trans first.engine
  ledger := by rw [second.ledger, first.ledger, List.append_assoc]
  isDirty := by
    rw [second.isDirty, first.isDirty, or_assoc]
    refine or_congr_right ?_
    simp only [List.mem_append, or_and_right, exists_or]

end Called

variable {rest : Backend (ω × List NativeCall)} {backend : Deflate.Backend ω}
  {s s' : EncoderSession (ω × List NativeCall) EncoderHandle}

theorem Deflates.hasMoreOutput (hs : s.Deflates rest backend) (h : Deflate.EncoderHandle) :
    s.engine.hasMoreOutput (.deflate h) = h.hasMore := by
  obtain ⟨zlib, hengine⟩ := hs
  rw [hengine]
  rfl

theorem Deflates.isFinished (hs : s.Deflates rest backend) (h : Deflate.EncoderHandle) :
    s.engine.isFinished (.deflate h) = h.isFinished := by
  obtain ⟨zlib, hengine⟩ := hs
  rw [hengine]
  rfl

theorem called_record (hplain : backend.Plain) (hs : s.Deflates rest backend) {op : FlushOp}
    (hop : op ≠ .finish) {h : Deflate.EncoderHandle} (w : Windows) {reply : Reply}
    {handle : EncoderHandle} {world : ω × List NativeCall}
    (hcall : s.engine.compress op w.src.unread w.dst.unwritten (.deflate h) s.world =
      (reply, handle, world)) :
    ∃ h' call, handle = .deflate h' ∧
      Deflate.Enters h op w.src.unread w.dst.unwritten s.world (reply, h', world) call ∧
      Called s (s.record w reply handle world) [call] ∧
      (s.record w reply handle world).Deflates rest backend := by
  obtain ⟨zlib, hengine⟩ := hs
  obtain ⟨call, henters⟩ :=
    Deflate.enters_of_plain hplain zlib hop w.src.unread w.dst.unwritten h s.world
  rw [hengine] at hcall
  rcases hout : (Deflate.encoder backend.recording zlib).compress op w.src.unread w.dst.unwritten h
    s.world with ⟨reply', h', world'⟩
  have hwrapped : (Backend.encoder.deflate (rest.deflating backend) zlib).compress op w.src.unread
      w.dst.unwritten (.deflate h) s.world = (reply', .deflate h', world') := by
    simp only [Backend.encoder.deflate, EncoderEngine.within, Backend.deflating, hout]
  rw [hwrapped] at hcall
  cases hcall
  rw [hout] at henters
  refine ⟨h', call, rfl, henters, ⟨rfl, henters.ledger, ?_⟩, zlib, hengine⟩
  have hconsumed : 0 < w.consumed reply ↔ call.Consumes := by
    rw [NativeCall.Consumes, henters.offered, Windows.consumed, henters.leftIn, leftAfter,
      CursorBuffer.size_unread]
    omega
  simp only [record, Bool.or_eq_true, decide_eq_true_eq, hconsumed, List.mem_singleton,
    exists_eq_left]

/-- The room is full after a call exactly if the encoder says so. -/
theorem full_iff {h h' : Deflate.EncoderHandle} {op : FlushOp} {w : Windows} {reply : Reply}
    {world world' : ω × List NativeCall} {call : NativeCall}
    (henters : Deflate.Enters h op w.src.unread w.dst.unwritten world (reply, h', world') call) :
    (w.settle reply).dst.availableWrite = 0 ↔ h'.hasMore = true := by
  have hleft : reply.leftOut = leftAfter w.dst.unwritten.size call.answer.produced := henters.leftOut
  have hmore : h'.hasMore = decide (reply.leftOut = 0) := henters.hasMore
  rw [CursorBuffer.size_unwritten, leftAfter] at hleft
  rw [hmore, decide_eq_true_eq, Windows.availableWrite_settle, Windows.produced]
  omega

/-- What a call of a plain operation did: it had no marker, did not fail, and the engine holds
output exactly if the room is full. -/
structure Processed (rest : Backend (ω × List NativeCall)) (backend : Deflate.Backend ω)
    (s s' : EncoderSession (ω × List NativeCall) EncoderHandle) (w : Windows) (reply : Reply)
    (hasMore : Bool) : Prop where
  deflates : s'.Deflates rest backend
  called : ∃ calls, Called s s' calls ∧ ∀ call ∈ calls, call.mode = .none
  code : ∀ detail, reply.code ≠ .error detail
  holds : s'.Holds hasMore false
  full : (w.settle reply).dst.availableWrite = 0 ↔ hasMore = true

theorem processed (hplain : backend.Plain) (hs : s.Deflates rest backend) {handle : EncoderHandle}
    (hhandle : ∃ h : Deflate.EncoderHandle, handle = .deflate h ∧ h.isFinished = false) (w : Windows)
    {reply : Reply} {handle' : EncoderHandle} {world : ω × List NativeCall}
    (hcall : s.engine.compress .process w.src.unread w.dst.unwritten handle s.world =
      (reply, handle', world)) :
    Processed rest backend s (s.record w reply handle' world) w reply
      (s.engine.hasMoreOutput handle') := by
  obtain ⟨h, rfl, hrunning⟩ := hhandle
  obtain ⟨h', call, rfl, henters, hcalled, hs'⟩ := called_record hplain hs (by decide) w hcall
  have hmore := hs.hasMoreOutput h'
  refine ⟨hs', ⟨[call], hcalled, ?_⟩, henters.code, ?_, ?_⟩
  · rw [List.forall_mem_singleton]
    exact henters.mode
  · exact ⟨h', rfl, henters.isFinished.trans hrunning, hmore.symm, henters.isDraining⟩
  · rw [hmore]
    exact full_iff henters

/-- A call that moved nothing although there was room left nothing held. -/
theorem Processed.none_held {w : Windows} {reply : Reply} {hasMore : Bool}
    (h : Processed rest backend s s' w reply hasMore) (hroom : ¬w.dst.availableWrite = 0)
    (hstall : w.consumed reply = 0 ∧ w.produced reply = 0) : hasMore = false := by
  rw [← Bool.not_eq_true, ← h.full, Windows.availableWrite_settle, hstall.2]
  exact hroom

/-- Plain processing never asks for a marker, and ends with the room full or nothing held. -/
theorem drive_process (hplain : backend.Plain)
    (s : EncoderSession (ω × List NativeCall) EncoderHandle) (handle : EncoderHandle) (w : Windows)
    (stalled : Nat) (hs : s.Deflates rest backend)
    (hhandle : ∃ h : Deflate.EncoderHandle, handle = .deflate h ∧ h.isFinished = false)
    (hroom : ¬w.dst.availableWrite = 0) :
    ∃ calls, Called s (drive .process s handle w stalled).2.1 calls ∧
      (∀ call ∈ calls, call.mode = .none) ∧
      (((drive .process s handle w stalled).1 = .done ∧
          (drive .process s handle w stalled).2.1.Holds false false) ∨
        ((drive .process s handle w stalled).1 = .destinationTooSmall ∧
          (drive .process s handle w stalled).2.1.Holds true false)) := by
  fun_induction drive .process s handle w stalled with
  | case1 s handle w stalled hfull => exact absurd hfull hroom
  | case2 s handle w stalled _ reply handle' world hcall s' w' detail hcode =>
    exact absurd hcode ((processed hplain hs hhandle w hcall).code detail)
  | case3 s handle w stalled _ reply handle' world hcall s' w' hdone =>
    have hprocessed := processed hplain hs hhandle w hcall
    obtain ⟨calls, hcalled, hnone⟩ := hprocessed.called
    have hheld : s.engine.hasMoreOutput handle' = false := by
      simp only [isComplete, Bool.and_eq_true, Bool.not_eq_true'] at hdone
      exact hdone.2
    exact ⟨calls, hcalled, hnone, .inl ⟨rfl, hheld ▸ hprocessed.holds⟩⟩
  | case4 s handle w stalled _ reply handle' world hcall s' w' hdone hfull =>
    have hprocessed := processed hplain hs hhandle w hcall
    obtain ⟨calls, hcalled, hnone⟩ := hprocessed.called
    have hheld : s.engine.hasMoreOutput handle' = true := hprocessed.full.mp hfull
    exact ⟨calls, hcalled, hnone, .inr ⟨rfl, hheld ▸ hprocessed.holds⟩⟩
  | case5 s handle w stalled _ reply handle' world hcall s' w' hdone hfull hstall pending hp =>
    have hprocessed := processed hplain hs hhandle w hcall
    obtain ⟨calls, hcalled, hnone⟩ := hprocessed.called
    have hheld : s.engine.hasMoreOutput handle' = false := hprocessed.none_held hroom hstall
    exact ⟨calls, hcalled, hnone, .inl ⟨rfl, hheld ▸ hprocessed.holds⟩⟩
  | case6 s handle w stalled _ reply handle' world hcall s' w' hdone hfull hstall pending hp
  | case7 s handle w stalled _ reply handle' world hcall s' w' hdone hfull hstall pending hp =>
    have hprocessed := processed hplain hs hhandle w hcall
    have hnone : pending = false := hprocessed.none_held hroom hstall
    simp [hnone] at hp
  | case8 s handle w stalled _ reply handle' world hcall s' w' hdone hfull hmoved hcode ih =>
    have hprocessed := processed hplain hs hhandle w hcall
    obtain ⟨calls, hcalled, hnone⟩ := hprocessed.called
    obtain ⟨h', hhandle', hrunning, -, -⟩ := hprocessed.holds
    obtain ⟨more, hrest, hnone', hend⟩ :=
      ih hprocessed.deflates ⟨h', Option.some.inj hhandle', hrunning⟩ hfull
    refine ⟨calls ++ more, hcalled.trans hrest, ?_, hend⟩
    rw [List.forall_mem_append]
    exact ⟨hnone, hnone'⟩

section Open

variable {w : Windows} (hplain : backend.Plain) (hs : s.Deflates rest backend)
  (hlive : s.isDisposed = false) (hroom : ¬w.dst.availableWrite = 0)

include hplain hs hlive hroom

theorem compress_process {hasMore : Bool} (hholds : s.Holds hasMore false) :
    ∃ status s' w' calls, s.compress .process w = (.ok status, s', w') ∧ Called s s' calls ∧
      (∀ call ∈ calls, call.mode = .none) ∧
      ((status = .done ∧ s'.Holds false false) ∨
        (status = .destinationTooSmall ∧ s'.Holds true false)) := by
  obtain ⟨h, hhandle, hrunning, hmore, hdraining⟩ := hholds
  obtain ⟨calls, hcalled, hnone, hend⟩ := drive_process hplain s (.deflate h) w 0 hs
    ⟨h, rfl, hrunning⟩ hroom
  have hunfinished : s.engine.isFinished (.deflate h) = false := (hs.isFinished h).trans hrunning
  simp only [compress, opened_of_handle hlive hhandle]
  rw [if_neg (by simp [hunfinished])]
  split
  · next hidle =>
    simp only [isIdle, Bool.and_eq_true, Bool.not_eq_true', hs.hasMoreOutput] at hidle
    have hheld : h.hasMore = false := hidle.1.2
    exact ⟨.done, s, w, [], rfl, .refl s, by simp,
      .inl ⟨rfl, h, hhandle, hrunning, hheld, hdraining⟩⟩
  · exact ⟨_, _, _, calls, rfl, hcalled, hnone, hend⟩

/-- One operation of a flush is one call: with a marker if the flush begins, without one if it goes
on. It is done if the call left room over. -/
theorem compress_flush {draining : Bool} (hholds : s.Holds draining draining)
    (hnew : draining = true ∨ s.isDirty = true) (hempty : w.src.isEmpty = true) :
    ∃ status s' w' call, s.compress .flush w = (.ok status, s', w') ∧
      s'.Deflates rest backend ∧ s'.world.2 = s.world.2 ++ [call] ∧
      call.mode = (if draining then .none else .sync) ∧ call.input.size = 0 ∧
      ((status = .destinationTooSmall ∧ call.Fills ∧ s'.Holds true true ∧ w'.src.isEmpty = true) ∨
        (status = .done ∧ ¬call.Fills ∧ s'.Holds false false ∧ s'.isDirty = false)) := by
  obtain ⟨h, hhandle, hrunning, hmore, hdraining⟩ := hholds
  have hread := w.src.isEmpty_iff.mp hempty
  rcases hcall : s.engine.compress .flush w.src.unread w.dst.unwritten (.deflate h) s.world with
    ⟨reply, handle', world⟩
  obtain ⟨h', call, rfl, henters, hcalled, hs'⟩ := called_record hplain hs (by decide) w hcall
  have hfull := full_iff henters
  obtain ⟨hmode, hinput, hdrains⟩ := henters.flush (by rw [CursorBuffer.size_unread, hread])
  rw [hdraining] at hmode
  have hafter : (w.settle reply).src.isEmpty = true := by
    rw [CursorBuffer.isEmpty_iff, Windows.availableRead_settle, hread, Nat.zero_sub]
  have hunfinished : s.engine.isFinished (.deflate h) = false := (hs.isFinished h).trans hrunning
  have hheld' : s.engine.hasMoreOutput (.deflate h') = h'.hasMore := hs.hasMoreOutput h'
  have hbusy : s.isIdle .flush (.deflate h) w.src = false := by
    have hheld : s.engine.hasMoreOutput (.deflate h) = draining := (hs.hasMoreOutput h).trans hmore
    rcases hnew with hnew | hnew
    · simp [isIdle, hheld, hnew]
    · simp [isIdle, hnew]
  simp only [compress, opened_of_handle hlive hhandle]
  rw [if_neg (by simp [hunfinished]), if_neg (by simp [hbusy]), drive, if_neg hroom, hcall]
  cases hmore' : h'.hasMore with
  | true =>
    have hincomplete : s.isComplete .flush (.deflate h') (w.settle reply) = false := by
      simp [isComplete, hheld', hmore']
    have hnoRoom := hfull.mpr hmore'
    refine ⟨.destinationTooSmall, _, w.settle reply, call, ?_, hs', hcalled.ledger, hmode, hinput,
      .inl ⟨rfl, henters.fills_iff.mpr hmore', ⟨h', rfl, henters.isFinished.trans hrunning, hmore',
        hdrains.trans hmore'⟩, hafter⟩⟩
    dsimp only
    split
    · next detail hcode => exact absurd hcode (henters.code detail)
    · rw [if_neg (by simp [hincomplete]), if_pos hnoRoom]
  | false =>
    have hcomplete : s.isComplete .flush (.deflate h') (w.settle reply) = true := by
      simp [isComplete, hheld', hmore', hafter]
    refine ⟨.done, (s.record w reply (.deflate h') world).settled .flush, w.settle reply, call, ?_,
      hs', hcalled.ledger, hmode, hinput,
      .inr ⟨rfl, by simp [henters.fills_iff, hmore'], ⟨h', rfl, henters.isFinished.trans hrunning, hmore',
        hdrains.trans hmore'⟩, rfl⟩⟩
    dsimp only
    split
    · next detail hcode => exact absurd hcode (henters.code detail)
    · rw [if_pos hcomplete]

end Open

end EncoderSession

namespace Compressor

/-- The states that a drive goes through: each is left by a pass that asks for another. -/
def Reaches (op : FlushOp) (c : Compressor ω σ) (src : CursorBuffer) (d : Compressor ω σ)
    (rest : CursorBuffer) : Prop :=
  Relation.ReflTransGen (fun x x' => pass op x.1 x.2 = .inl x') (c, src) (d, rest)

/-- A drive that never comes to an end. -/
def Endless (op : FlushOp) (c : Compressor ω σ) (src : CursorBuffer) : Prop :=
  loop (fun x => pass op x.1 x.2) (c, src) = none

/-- What a state of a drive keeps through its passes, all states that it goes through have. -/
theorem Reaches.keeps {op : FlushOp} {c d : Compressor ω σ} {src rest : CursorBuffer}
    {P : Compressor ω σ → CursorBuffer → Prop} (h : Reaches op c src d rest) (start : P c src)
    (kept : ∀ d rest d' rest', P d rest → Passed op d rest .destinationTooSmall d' rest' →
      P d' rest') : P d rest := by
  have hall : ∀ x, Relation.ReflTransGen (fun x x' => pass op x.1 x.2 = .inl x') (c, src) x →
      P x.1 x.2 := by
    intro x hx
    induction hx with
    | refl => exact start
    | tail _ hpass ih => exact kept _ _ _ _ ih (passed_of_again hpass)
  exact hall (d, rest) h

/-- Where every operation of the session succeeds, a drive fails with the sink, or never ends. -/
theorem drive_fails {op : FlushOp} {c c' : Compressor ω σ} {src src' : CursorBuffer} {e : CodecError}
    {P : Compressor ω σ → CursorBuffer → Prop} (start : P c src)
    (kept : ∀ d rest d' rest', P d rest → Passed op d rest .destinationTooSmall d' rest' → P d' rest')
    (runs : ∀ d rest, P d rest → d.holdsSink = true ∧ ∃ status session w,
      d.session.compress op ⟨rest, d.output⟩ = (.ok status, session, w) ∧
        (status = .done ∨ status = .destinationTooSmall))
    (h : drive op c src = (.error e, c', src')) : (∃ io, e = .io io) ∨ Endless op c src := by
  cases hloop : loop (fun x => pass op x.1 x.2) (c, src) with
  | none => exact .inr hloop
  | some result =>
    have hresult : drive op c src = result := by
      show (loop (fun x => pass op x.1 x.2) (c, src)).getD (.error c.restless, c, src) = result
      rw [hloop]
      rfl
    rw [← hresult, h] at hloop
    obtain ⟨⟨d, rest⟩, hp, hlast⟩ := loop_invariant (fun x => P x.1 x.2)
      (fun _ _ hx hpass => kept _ _ _ _ hx (passed_of_again hpass)) start hloop
    obtain ⟨hsink, status, session, w, hran, hstatus⟩ := runs d rest hp
    left
    simp only [pass, hran] at hlast
    split at hlast
    · next e' drained hdrain =>
      cases hlast
      unfold drain at hdrain
      split at hdrain
      · cases hdrain
      · rw [if_neg (by simp [hsink])] at hdrain
        split at hdrain <;> cases hdrain
        exact ⟨_, rfl⟩
    · rcases hstatus with rfl | rfl <;> cases hlast

def natives (c : Compressor (ω × List NativeCall) σ) : List NativeCall := c.session.world.2

section Deflate

variable {rest : Backend (ω × List NativeCall)} {backend : Deflate.Backend ω}
  {c d d' : Compressor (ω × List NativeCall) EncoderHandle} {src src' : CursorBuffer}
  {flushed : List NativeCall} {status : Status}

/-- How a compressor stands between two requests. -/
structure AtRest (rest : Backend (ω × List NativeCall)) (backend : Deflate.Backend ω)
    (flushed : List NativeCall) (c : Compressor (ω × List NativeCall) EncoderHandle) : Prop where
  ready : c.Ready
  deflates : c.session.Deflates rest backend
  holds : c.session.Holds false false
  spaced : Spaced c.natives
  since : ∃ calls, c.natives = flushed ++ calls ∧ (∀ call ∈ calls, call.mode = .none) ∧
    (c.session.isDirty = true ↔ ∃ call ∈ calls, call.Consumes)

/-- A write under way: no call had a marker so far. -/
structure Writing (rest : Backend (ω × List NativeCall)) (backend : Deflate.Backend ω)
    (c d : Compressor (ω × List NativeCall) EncoderHandle) : Prop where
  ready : d.Ready
  deflates : d.session.Deflates rest backend
  holds : ∃ hasMore, d.session.Holds hasMore false
  called : ∃ calls, c.session.Called d.session calls ∧ ∀ call ∈ calls, call.mode = .none

theorem Ready.hasRoom (h : d.Ready) : ¬d.output.availableWrite = 0 := by
  have := h.room
  rw [h.availableWrite]
  omega

theorem AtRest.writing (h : AtRest rest backend flushed c) : Writing rest backend c c :=
  ⟨h.ready, h.deflates, ⟨false, h.holds⟩, [], .refl _, nofun⟩

theorem Writing.passed (hplain : backend.Plain) (h : Writing rest backend c d)
    (hpassed : Passed .process d src status d' src') :
    Writing rest backend c d' ∧ (status = .done → d'.session.Holds false false) := by
  have hready := (h.ready.passed hpassed).1
  obtain ⟨session, w, hran, hdrained, -⟩ := hpassed
  obtain ⟨more, hholds⟩ := h.holds
  obtain ⟨calls, hcalled, hnone⟩ := h.called
  obtain ⟨status', s', w', calls', hran', hcalled', hnone', hend⟩ := EncoderSession.compress_process
    (w := ⟨src, d.output⟩) hplain h.deflates h.ready.live h.ready.hasRoom hholds
  rw [hran] at hran'
  cases hran'
  have hsession : d'.session = session := congrArg (·.session) (drain_frame hdrained)
  obtain ⟨zlib, hengine⟩ := h.deflates
  refine ⟨⟨hready, ⟨zlib, ?_⟩, ?_, calls ++ calls', ?_, ?_⟩, ?_⟩
  · rw [hsession, hcalled'.engine, hengine]
  · rw [hsession]
    rcases hend with ⟨-, hholds⟩ | ⟨-, hholds⟩
    · exact ⟨false, hholds⟩
    · exact ⟨true, hholds⟩
  · rw [hsession]
    exact hcalled.trans hcalled'
  · rw [List.forall_mem_append]
    exact ⟨hnone, hnone'⟩
  · rintro rfl
    rw [hsession]
    exact (hend.resolve_right (by simp)).2

theorem AtRest.write (hplain : backend.Plain) (h : AtRest rest backend flushed c) {data : ByteArray}
    {n : Nat} (hwrite : c.write data = (.ok n, d)) : AtRest rest backend flushed d := by
  obtain ⟨src', hdrive, -⟩ := h.ready.drive_of_write hwrite
  obtain ⟨d₁, src₁, -, hwriting, hlast⟩ := drive_passes (P := fun d _ => Writing rest backend c d)
    h.ready h.writing (fun _ _ _ _ _ hw hpassed => (hw.passed hplain hpassed).1) hdrive
  obtain ⟨hd, hholds⟩ := hwriting.passed hplain hlast
  obtain ⟨calls, hcalled, hnone⟩ := hd.called
  obtain ⟨before, hbefore, hnone', hdirty⟩ := h.since
  have hledger : d.natives = c.natives ++ calls := hcalled.ledger
  refine ⟨hd.ready, hd.deflates, hholds rfl, ?_, before ++ calls, ?_, ?_, ?_⟩
  · rw [hledger]
    exact h.spaced.append_none hnone
  · rw [hledger, hbefore, List.append_assoc]
  · rw [List.forall_mem_append]
    exact ⟨hnone', hnone⟩
  · rw [hcalled.isDirty, hdirty]
    simp only [List.mem_append, or_and_right, exists_or]

/-- The calls of a flush that has something to emit: one with a marker, then some without, all on
an empty input. -/
structure Marks (calls : List NativeCall) : Prop where
  modes : ∃ marker more, calls = marker :: more ∧ marker.mode = .sync ∧
    ∀ call ∈ more, call.mode = .none
  inputs : ∀ call ∈ calls, call.input.size = 0

theorem Marks.concat {calls : List NativeCall} (h : Marks calls) {call : NativeCall}
    (hmode : call.mode = .none) (hinput : call.input.size = 0) : Marks (calls ++ [call]) := by
  obtain ⟨marker, more, rfl, hsync, hnone⟩ := h.modes
  refine ⟨⟨marker, more ++ [call], rfl, hsync, ?_⟩, ?_⟩
  · rw [List.forall_mem_append, List.forall_mem_singleton]
    exact ⟨hnone, hmode⟩
  · rw [List.forall_mem_append, List.forall_mem_singleton]
    exact ⟨h.inputs, hinput⟩

theorem Marks.spaced {before since calls : List NativeCall} (h : Marks calls)
    (hspaced : Spaced (before ++ since)) (hnone : ∀ call ∈ since, call.mode = .none)
    (hnew : ∃ call ∈ since, call.Consumes) : Spaced (before ++ since ++ calls) := by
  obtain ⟨marker, more, rfl, -, hmore⟩ := h.modes
  have hmarked : Spaced (before ++ since ++ [marker]) := hspaced.concat_sync hnone hnew
  have hmarked := hmarked.append_none hmore
  rwa [List.append_assoc, List.singleton_append] at hmarked

/-- A flush under way: it has something to emit, and has not begun or goes on since every call so
far filled the room. -/
structure Flushing (rest : Backend (ω × List NativeCall)) (backend : Deflate.Backend ω)
    (c d : Compressor (ω × List NativeCall) EncoderHandle) (src : CursorBuffer) : Prop where
  ready : d.Ready
  deflates : d.session.Deflates rest backend
  src : src.isEmpty = true
  calls : ∃ calls, d.natives = c.natives ++ calls ∧ (∀ call ∈ calls, call.Fills) ∧
    ((calls = [] ∧ d.session.Holds false false ∧ d.session.isDirty = true) ∨
      (Marks calls ∧ d.session.Holds true true))

theorem AtRest.flushing (h : AtRest rest backend flushed c) (hdirty : c.session.isDirty = true) :
    Flushing rest backend c c (.filled ByteArray.empty) :=
  ⟨h.ready, h.deflates, rfl, [], (List.append_nil _).symm, nofun, .inl ⟨rfl, h.holds, hdirty⟩⟩

/-- Every call but the last filled the room; the last left some over. -/
def LeavesRoom (calls : List NativeCall) : Prop :=
  ∃ fills last, calls = fills ++ [last] ∧ (∀ call ∈ fills, call.Fills) ∧ ¬last.Fills

/-- A flush that has something to emit and succeeds. -/
structure Flushed (rest : Backend (ω × List NativeCall)) (backend : Deflate.Backend ω)
    (c d : Compressor (ω × List NativeCall) EncoderHandle) : Prop where
  ready : d.Ready
  deflates : d.session.Deflates rest backend
  holds : d.session.Holds false false
  isClean : d.session.isDirty = false
  calls : ∃ calls, d.natives = c.natives ++ calls ∧ Marks calls ∧ LeavesRoom calls

/-- What a flush under way does next: it asks for a marker if it has not begun. -/
theorem Flushing.stage (h : Flushing rest backend c d src) :
    ∃ calls, d.natives = c.natives ++ calls ∧ (∀ call ∈ calls, call.Fills) ∧
      ∃ draining, d.session.Holds draining draining ∧
        (draining = true ∨ d.session.isDirty = true) ∧
        ∀ call : NativeCall, call.mode = (if draining then .none else .sync) →
          call.input.size = 0 → Marks (calls ++ [call]) := by
  obtain ⟨calls, hcalls, hfills, ⟨rfl, hholds, hdirty⟩ | ⟨hmarks, hholds⟩⟩ := h.calls
  · refine ⟨[], hcalls, hfills, false, hholds, .inr hdirty, fun call hmode hinput =>
      ⟨⟨call, [], rfl, hmode, nofun⟩, ?_⟩⟩
    rw [List.nil_append, List.forall_mem_singleton]
    exact hinput
  · exact ⟨calls, hcalls, hfills, true, hholds, .inl rfl, fun call => hmarks.concat⟩

/-- A pass of a flush is one call, and the flush goes on exactly if the call filled the room. -/
theorem Flushing.passed (hplain : backend.Plain) (h : Flushing rest backend c d src)
    (hpassed : Passed .flush d src status d' src') :
    (status = .destinationTooSmall → Flushing rest backend c d' src') ∧
      (status = .done → Flushed rest backend c d') := by
  have hready := (h.ready.passed hpassed).1
  obtain ⟨session, w, hran, hdrained, rfl⟩ := hpassed
  obtain ⟨calls, hcalls, hfills, draining, hholds, hnew, hmarks⟩ := h.stage
  obtain ⟨status', s', w', call, hran', hs', hledger, hmode, hinput, hend⟩ :=
    EncoderSession.compress_flush (w := ⟨src, d.output⟩) hplain h.deflates h.ready.live
      h.ready.hasRoom hholds hnew h.src
  rw [hran] at hran'
  cases hran'
  have hsession : d'.session = session := congrArg (·.session) (drain_frame hdrained)
  have hnatives : d'.natives = c.natives ++ (calls ++ [call]) := by
    rw [natives, hsession, hledger, ← List.append_assoc, ← hcalls]
    rfl
  have hmarks' := hmarks call hmode hinput
  constructor
  · rintro rfl
    obtain ⟨-, hfull, hholds', hempty⟩ := hend.resolve_right (by simp)
    refine ⟨hready, hsession ▸ hs', hempty, calls ++ [call], hnatives, ?_,
      .inr ⟨hmarks', hsession ▸ hholds'⟩⟩
    rw [List.forall_mem_append, List.forall_mem_singleton]
    exact ⟨hfills, hfull⟩
  · rintro rfl
    obtain ⟨-, hroom, hholds', hclean⟩ := hend.resolve_left (by simp)
    exact ⟨hready, hsession ▸ hs', hsession ▸ hholds', hsession ▸ hclean, calls ++ [call], hnatives,
      hmarks', calls, call, rfl, hfills, hroom⟩

theorem AtRest.flush_dirty (hplain : backend.Plain) (h : AtRest rest backend flushed c)
    (hdirty : c.session.isDirty = true) (hflush : c.flush = (.ok (), d)) :
    Flushed rest backend c d := by
  obtain ⟨d₁, src', hdrive, hd₁, -, rfl⟩ := h.ready.drive_of_flush hflush
  obtain ⟨d₂, src₂, -, hflushing, hlast⟩ := drive_passes
    (P := fun d src => Flushing rest backend c d src) h.ready (h.flushing hdirty)
    (fun _ _ _ _ _ hf hpassed => (hf.passed hplain hpassed).1 rfl) hdrive
  obtain ⟨hready, hdeflates, hholds, hclean, hcalls⟩ := (hflushing.passed hplain hlast).2 rfl
  exact ⟨hready.withSink _, hdeflates, hholds, hclean, hcalls⟩

theorem AtRest.drained (h : AtRest rest backend flushed c) :
    c.session.Drained ∧ c.session.isFinished = false := by
  obtain ⟨handle, hhandle, hrunning, hmore, -⟩ := h.holds
  refine ⟨⟨.deflate handle, hhandle, (h.deflates.hasMoreOutput handle).trans hmore⟩, ?_⟩
  rw [EncoderSession.isFinished, hhandle]
  exact (h.deflates.isFinished handle).trans hrunning

theorem AtRest.flush_clean (h : AtRest rest backend flushed c) (hclean : c.session.isDirty = false) :
    c.flush = (c.sink.flush.1.mapError .io, { c with sink := c.sink.flush.2 }) :=
  Compressor.flush_clean h.ready h.drained.1 h.drained.2 hclean

theorem AtRest.flush (hplain : backend.Plain) (h : AtRest rest backend flushed c)
    (hflush : c.flush = (.ok (), d)) : AtRest rest backend d.natives d := by
  obtain ⟨calls, hcalls, hnone, hdirty⟩ := h.since
  cases hd : c.session.isDirty with
  | true =>
    obtain ⟨hready, hdeflates, hholds, hclean, marks, hmarks, hshape, -⟩ :=
      h.flush_dirty hplain hd hflush
    refine ⟨hready, hdeflates, hholds, ?_, [], (List.append_nil _).symm, nofun, by simp [hclean]⟩
    have hspaced := h.spaced
    rw [hmarks, hcalls]
    rw [hcalls] at hspaced
    exact hshape.spaced hspaced hnone (hdirty.mp hd)
  | false =>
    rw [h.flush_clean hd] at hflush
    obtain ⟨-, rfl⟩ := Prod.mk.inj hflush
    exact ⟨h.ready.withSink _, h.deflates, h.holds, h.spaced, [], (List.append_nil _).symm, nofun,
      by simp [hd]⟩

theorem AtRest.write_fails (hplain : backend.Plain) (h : AtRest rest backend flushed c)
    {data : ByteArray} {e : CodecError} (hfails : (c.write data).1 = .error e) :
    (∃ io, e = .io io) ∨ Endless .process c (.filled data) := by
  unfold Compressor.write at hfails
  rw [if_neg (by rw [h.ready.live]; simp), if_neg (by rw [h.ready.notCompleted]; simp)] at hfails
  split at hfails
  · next hdrive =>
    cases hfails
    refine drive_fails (P := fun d _ => Writing rest backend c d) h.writing
      (fun _ _ _ _ hw hpassed => (hw.passed hplain hpassed).1) (fun d src hw => ?_) hdrive
    obtain ⟨more, hholds⟩ := hw.holds
    obtain ⟨status, s', w', calls, hran, -, -, hend⟩ := EncoderSession.compress_process
      (w := ⟨src, d.output⟩) hplain hw.deflates hw.ready.live hw.ready.hasRoom hholds
    exact ⟨hw.ready.holdsSink, status, s', w', hran, hend.imp And.left And.left⟩
  · cases hfails

theorem Ready.flushSink_fails (h : c.Ready) {e : CodecError} (hfails : c.flushSink.1 = .error e) :
    ∃ io, e = .io io := by
  rw [flushSink_of_holds h.holdsSink] at hfails
  cases hio : c.sink.flush.1 with
  | ok u => simp [hio, Except.mapError] at hfails
  | error io =>
    simp only [hio, Except.mapError, Except.error.injEq] at hfails
    exact ⟨io, hfails.symm⟩

theorem AtRest.flush_fails (hplain : backend.Plain) (h : AtRest rest backend flushed c)
    {e : CodecError} (hfails : c.flush.1 = .error e) :
    (∃ io, e = .io io) ∨ Endless .flush c (.filled ByteArray.empty) := by
  cases hdirty : c.session.isDirty with
  | false =>
    rw [h.flush_clean hdirty, ← flushSink_of_holds h.ready.holdsSink] at hfails
    exact .inl (h.ready.flushSink_fails hfails)
  | true =>
    rw [h.ready.flush_eq, driveIdle_eq] at hfails
    rcases hdrive : drive .flush c (.filled ByteArray.empty) with ⟨_ | _, d, src'⟩
    all_goals simp only [hdrive] at hfails
    · cases hfails
      refine drive_fails (P := fun d src => Flushing rest backend c d src) (h.flushing hdirty)
        (fun _ _ _ _ hf hpassed => (hf.passed hplain hpassed).1 rfl) (fun d src hf => ?_) hdrive
      obtain ⟨calls, -, -, draining, hholds, hnew, -⟩ := hf.stage
      obtain ⟨status, s', w', call, hran, -, -, -, -, hend⟩ := EncoderSession.compress_flush
        (w := ⟨src, d.output⟩) hplain hf.deflates hf.ready.live hf.ready.hasRoom hholds hnew hf.src
      exact ⟨hf.ready.holdsSink, status, s', w', hran, (hend.imp And.left And.left).symm⟩
    · exact .inl ((h.ready.drive hdrive).flushSink_fails hfails)

/-- How the markers of a compressor's stream are placed, whatever write or flush is next, where its
last flush left the ledger at `flushed`. -/
structure PlacesMarkers (flushed : List NativeCall)
    (c : Compressor (ω × List NativeCall) EncoderHandle) : Prop where
  spaced : Spaced c.natives
  write : ∀ data d rest, Reaches .process c (.filled data) d rest →
    Spaced d.natives ∧ ∃ calls, d.natives = c.natives ++ calls ∧ ∀ call ∈ calls, call.mode = .none
  /-- Since the last flush no call had a marker. If plain bytes were consumed since then, the next
  flush has one, and then goes on without one as long as the room is filled. Otherwise it makes no
  call at all. -/
  flush : ∃ calls, c.natives = flushed ++ calls ∧ (∀ call ∈ calls, call.mode = .none) ∧
    ((∃ call ∈ calls, call.Consumes) →
      (∀ d rest, Reaches .flush c (.filled ByteArray.empty) d rest →
        Spaced d.natives ∧ ∃ marks, d.natives = c.natives ++ marks ∧ (marks = [] ∨ Marks marks) ∧
          ∀ call ∈ marks, call.Fills) ∧
      ∀ d, c.flush = (.ok (), d) →
        ∃ marks, d.natives = c.natives ++ marks ∧ Marks marks ∧ LeavesRoom marks) ∧
    ((∀ call ∈ calls, ¬call.Consumes) → c.flush.2.natives = c.natives)
  /-- Only the sink makes a write or a flush fail, unless it goes on forever. -/
  writeFails : ∀ data e, (c.write data).1 = .error e →
    (∃ io, e = .io io) ∨ Endless .process c (.filled data)
  flushFails : ∀ e, c.flush.1 = .error e →
    (∃ io, e = .io io) ∨ Endless .flush c (.filled ByteArray.empty)

theorem AtRest.placesMarkers (hplain : backend.Plain) (h : AtRest rest backend flushed c) :
    PlacesMarkers flushed c where
  spaced := h.spaced
  write data d src' hreaches := by
    have hwriting : Writing rest backend c d :=
      hreaches.keeps (P := fun d _ => Writing rest backend c d) h.writing
        (fun _ _ _ _ hw hpassed => (hw.passed hplain hpassed).1)
    obtain ⟨calls, hcalled, hnone⟩ := hwriting.called
    have hledger : d.natives = c.natives ++ calls := hcalled.ledger
    refine ⟨?_, calls, hledger, hnone⟩
    rw [hledger]
    exact h.spaced.append_none hnone
  flush := by
    obtain ⟨calls, hcalls, hnone, hdirty⟩ := h.since
    refine ⟨calls, hcalls, hnone, fun hnew => ⟨fun d src' hreaches => ?_, fun d hflush => ?_⟩,
      fun hquiet => ?_⟩
    · have hflushing : Flushing rest backend c d src' :=
        hreaches.keeps (P := fun d src => Flushing rest backend c d src) (h.flushing (hdirty.mpr hnew))
          (fun _ _ _ _ hf hpassed => (hf.passed hplain hpassed).1 rfl)
      obtain ⟨marks, hmarks, hfills, hstage⟩ := hflushing.calls
      have hshape : marks = [] ∨ Marks marks := hstage.imp And.left And.left
      refine ⟨?_, marks, hmarks, hshape, hfills⟩
      have hspaced := h.spaced
      rw [hmarks, hcalls]
      rw [hcalls] at hspaced
      rcases hshape with rfl | hshape
      · rwa [List.append_nil]
      · exact hshape.spaced hspaced hnone hnew
    · exact (h.flush_dirty hplain (hdirty.mpr hnew) hflush).calls
    · have hclean : c.session.isDirty = false := by
        rw [← Bool.not_eq_true, hdirty]
        rintro ⟨call, hmem, hconsumes⟩
        exact hquiet call hmem hconsumes
      rw [h.flush_clean hclean]
      rfl
  writeFails _ _ hfails := h.write_fails hplain hfails
  flushFails _ hfails := h.flush_fails hplain hfails

theorem configure_deflate (rest : Backend (ω × List NativeCall)) (backend : Deflate.Backend ω)
    (zlib : Bool) (parameters : List Parameter) {h : Deflate.EncoderHandle}
    {handle : EncoderHandle} {world world' : ω × List NativeCall}
    (hflags : h.isFinished = false ∧ h.hasMore = false ∧ h.isDraining = false)
    (hset : (Backend.encoder.deflate (rest.deflating backend) zlib).configure parameters (.deflate h)
      world = (.ok handle, world')) :
    world' = world ∧ ∃ h', handle = .deflate h' ∧ h'.isFinished = false ∧ h'.hasMore = false ∧
      h'.isDraining = false := by
  induction parameters generalizing h world with
  | nil =>
    cases hset
    exact ⟨rfl, h, rfl, hflags⟩
  | cons p more ih =>
    obtain ⟨accepted, h₁, hp, hflags₁⟩ : ∃ accepted h₁,
        (Backend.encoder.deflate (rest.deflating backend) zlib).setParameter p (.deflate h) world =
          (accepted, .deflate h₁, world) ∧
        h₁.isFinished = false ∧ h₁.hasMore = false ∧ h₁.isDraining = false := by
      simp only [Backend.encoder.deflate, EncoderEngine.within, Backend.deflating, Deflate.encoder]
      split
      · exact ⟨false, h, rfl, hflags⟩
      · cases p with
        | quality value =>
          dsimp only
          split
          · exact ⟨true, _, rfl, hflags⟩
          · exact ⟨false, h, rfl, hflags⟩
        | windowLog log => exact ⟨_, h, rfl, hflags⟩
    rw [EncoderEngine.configure, hp] at hset
    cases accepted with
    | true => exact ih hflags₁ hset
    | false => cases hset

theorem atRest_new (rest : Backend (ω × List NativeCall)) (backend : Deflate.Backend ω) {world : ω}
    {world' : ω × List NativeCall} {sink : Sink} {o : CodecOptions} {options : StreamOptions}
    (hcodec : o.codec = .deflate ∨ o.codec = .zlib)
    (hnew : Compressor.new (rest.deflating backend).registry (world, []) sink o options =
      (.ok c, world')) : AtRest rest backend c.natives c := by
  have hready := ready_new hnew
  obtain ⟨factory, handle₁, world₁, handle, hfactory, hcreate, hconfigure, rfl⟩ := created hnew
  obtain ⟨zlib, hengine⟩ : ∃ zlib,
      factory.encoder = Backend.encoder.deflate (rest.deflating backend) zlib := by
    have hencoder := ((rest.deflating backend).engines_of_factory hfactory).1
    rcases hcodec with hcodec | hcodec <;> rw [hcodec] at hencoder
    · exact ⟨false, (Option.some.inj hencoder).symm⟩
    · exact ⟨true, (Option.some.inj hencoder).symm⟩
  rw [hengine] at hcreate hconfigure
  cases hcreate
  obtain ⟨rfl, h, rfl, hflags⟩ := configure_deflate rest backend zlib o.encoderParameters
    ⟨rfl, rfl, rfl⟩ hconfigure
  exact ⟨hready, ⟨zlib, hengine⟩, ⟨h, rfl, hflags⟩, .nil, [], rfl, nofun, by simp⟩

/-- Over any deflate library that reports neither an error nor an end before a finish: after any
row of writes and flushes that succeeded, and whatever comes next, a flush that has something to
emit asks for one marker, every other call has none, and no marker follows another before plain
bytes were consumed. -/
theorem sync_markers (rest : Backend (ω × List NativeCall)) (backend : Deflate.Backend ω)
    (hplain : backend.Plain) (world : ω) (sink : Sink) (o : CodecOptions) (options : StreamOptions)
    (hcodec : o.codec = .deflate ∨ o.codec = .zlib) {world' : ω × List NativeCall}
    (hnew : Compressor.new (rest.deflating backend).registry (world, []) sink o options =
      (.ok c, world'))
    (requests : List Request) (hsmooth : c.Smooth requests) :
    PlacesMarkers (c.serveAll (upToFlush requests)).natives (c.serveAll requests) := by
  have hrest : AtRest rest backend (c.serveAll (upToFlush requests)).natives
      (c.serveAll requests) := by
    refine smooth_induction (P := fun requests => AtRest rest backend
      (c.serveAll (upToFlush requests)).natives (c.serveAll requests)) ?_ ?_ ?_ requests hsmooth
    · exact atRest_new rest backend hcodec hnew
    · intro requests data n hrest hwrite
      rw [upToFlush_write]
      exact hrest.write hplain hwrite
    · intro requests hrest hflush
      rw [upToFlush_flush]
      exact hrest.flush hplain hflush
  exact hrest.placesMarkers hplain

end Deflate

/-- A deflate library that copies its input, and emits four bytes for a marker. Its state are the
bytes that found no room yet. -/
def copyingDeflate : Deflate.Backend (List UInt8) where
  newEncoder _ _ _ := []
  compress mode input room held :=
    let held := held ++ octets input ++ if mode = .none then [] else [0, 0, 255, 255]
    (⟨input.size, min held.length room.size, overlay room 0 ⟨(held.take room.size).toArray⟩, .ok .ok⟩,
      held.drop room.size)
  newDecoder _ _ := []
  decompress _ room held := (⟨0, 0, room, .error "no decoder"⟩, held)

/-- What a call was asked for, and how many bytes it took and gave. -/
def gist (call : NativeCall) : Deflate.FlushMode × Nat × Nat :=
  (call.mode, call.answer.used, call.answer.produced)

/-- The write takes both bytes. The flush after it asks for one marker, of which three bytes fill the
buffer, and goes on without another. -/
theorem sync_markers_copying :
    ∃ c, copyingDeflate.Plain ∧
      Compressor.new (Backend.refusing.deflating copyingDeflate).registry ([], []) Marked.slowSink
        { codec := .zlib } Marked.stream₃ = (.ok c, [], []) ∧
      c.Smooth [.write ⟨#[97, 98]⟩] ∧ PlacesMarkers [] (c.serveAll [.write ⟨#[97, 98]⟩]) ∧
      (c.serveAll [.write ⟨#[97, 98]⟩]).natives.map gist = [(.none, 2, 2)] ∧
      (c.serveAll [.write ⟨#[97, 98]⟩]).flush.1 = .ok () ∧
      (c.serveAll [.write ⟨#[97, 98]⟩]).flush.2.natives.map gist =
        [(.none, 2, 2), (.sync, 0, 3), (.none, 0, 1)] := by
  have hplain : copyingDeflate.Plain := fun _ _ _ _ _ => .inl rfl
  have hcodec : ({ codec := .zlib } : CodecOptions).codec = .deflate ∨
      ({ codec := .zlib } : CodecOptions).codec = .zlib := .inr rfl
  obtain ⟨c, hnew⟩ : ∃ c, Compressor.new (Backend.refusing.deflating copyingDeflate).registry ([], [])
      Marked.slowSink { codec := .zlib } Marked.stream₃ = (.ok c, [], []) := ⟨_, rfl⟩
  have hcreated := hnew
  cases hcreated
  generalize hc : Compressor.mk _ _ _ _ _ _ = c at hnew
  -- The write is a single pass, and the flush is two.
  have hwrite := drive_of_last .process c (.filled ⟨#[97, 98]⟩) (by subst hc; cbv)
  generalize hpassed : (outcome .process c (.filled ⟨#[97, 98]⟩)).2.1 = passed
  have hwritten : c.serve (.write ⟨#[97, 98]⟩) = (.ok (some 2), passed) := by
    simp only [serve, write, hwrite]
    subst hc hpassed
    cbv
  have hserved : c.serveAll [.write ⟨#[97, 98]⟩] = passed := by
    rw [serveAll, List.foldl_cons, hwritten]
    rfl
  have hflush : drive .flush passed (.filled ByteArray.empty) = _ :=
    drive_of_two (by subst hc hpassed; cbv) (by subst hc hpassed; cbv)
  have hflushed : passed.flush.1 = .ok () ∧
      passed.flush.2.natives.map gist = [(.none, 2, 2), (.sync, 0, 3), (.none, 0, 1)] := by
    simp only [flush, driveIdle, hflush]
    subst hc hpassed
    constructor <;> cbv
  have hsmooth : c.Smooth [.write ⟨#[97, 98]⟩] := ⟨trivial, by rw [hwritten]; rfl, trivial⟩
  have hplaced := sync_markers Backend.refusing copyingDeflate hplain [] Marked.slowSink { codec := .zlib }
    Marked.stream₃ hcodec hnew [.write ⟨#[97, 98]⟩] hsmooth
  have hnone : (c.serveAll (upToFlush [.write ⟨#[97, 98]⟩])).natives = [] := by
    rw [← hc]
    rfl
  rw [hnone] at hplaced
  refine ⟨c, hplain, hnew, hsmooth, hplaced, ?_⟩
  rw [hserved]
  refine ⟨?_, hflushed⟩
  subst hc hpassed
  cbv

end Compressor

end StreamCodec
