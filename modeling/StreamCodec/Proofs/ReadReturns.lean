import StreamCodec.Proofs.DecoderOutcome
import StreamCodec.Proofs.ReadRequests

/-!
# How a read comes back

A read into some room comes back after as many requests as its source allows.
The one thing that it blames on its buffer is that the buffer is full: a read
that answers so has a buffer that is unread from end to end, unless it is the
engine that said these very words.

Over an engine that has stopped, one that takes nothing, gives nothing and
claims nothing, all that a read can do is to pull. It gives up if its source
fills what is to spare of the buffer, and not before. An engine that gives
nothing but claims to hold output is given up earlier, by its session.
-/
namespace StreamCodec

variable {ω ε σ : Type}

/-- The last call failed with these words. -/
def Ledger.FailedWith (calls : Ledger) (detail : String) : Prop :=
  ∃ call, calls.getLast? = some call ∧ call.reply.code = .error detail

/-- States of an engine that has stopped. A call with room leads from one to another, takes and gives
nothing, and says neither that it failed nor that the stream is over nor that output is held
back. -/
structure DecoderEngine.Stopped (engine : DecoderEngine ω σ) (At : σ → ω → Prop) : Prop where
  unfinished : ∀ handle world, At handle world → engine.isFinished handle = false
  call : ∀ input room handle world, At handle world → 0 < room.size →
    ∃ reply handle' world', engine.decompress input room handle world = (reply, handle', world') ∧
      At handle' world' ∧ input.size ≤ reply.leftIn ∧ room.size ≤ reply.leftOut ∧
      (∀ detail, reply.code ≠ .error detail) ∧ reply.code ≠ .streamEnd ∧
      engine.hasMoreOutput handle' = false

namespace DecoderSession

/-- A drive that meets corrupt input says so in the words of its engine, or calls it stuck. -/
theorem drive_explains {engine : DecoderEngine ω σ} (s : DecoderSession (ω × Ledger) σ)
    (he : s.engine = engine.recording) (handle : σ) (w : Windows) (stalled : Nat)
    (h : (drive s handle w stalled).1 = .invalidData) :
    (drive s handle w stalled).2.1.world.2.Explains (drive s handle w stalled).2.1.noProgress
      (drive s handle w stalled).2.1.lastError := by
  fun_induction drive s handle w stalled with
  | case1 | case3 | case4 | case5 | case6 => cases h
  | case2 s handle w stalled hroom reply handle' world hcall s' w' detail hcode =>
    exact Ledger.explains_error .decode hcode (runs_record he handle w hcall).ledger _
  | case7 s handle w stalled hroom reply handle' world hcall s' w' pending hfull hempty hstall =>
    exact .inr ⟨Windows.stalled _ hstall (runs_record he handle w hcall).ledger, rfl⟩
  | case8 | case9 =>
    rename_i ih
    exact ih he h

theorem decompress_explains {engine : DecoderEngine ω σ} {s s' : DecoderSession (ω × Ledger) σ}
    (he : s.engine = engine.recording) (hs : s.IsOpen) {w w' : Windows}
    (hrun : s.decompress w = (.ok .invalidData, s', w')) :
    s'.world.2.Explains s'.noProgress s'.lastError := by
  obtain ⟨handle, hh⟩ := Option.isSome_iff_exists.mp hs.2
  simp only [decompress, opened_of_handle hs.1 hh] at hrun
  split at hrun
  · cases hrun
  · split at hrun
    · cases hrun
    · obtain ⟨hstatus, hrest⟩ := Prod.mk.inj hrun
      obtain ⟨rfl, rfl⟩ := Prod.mk.inj hrest
      exact drive_explains s he handle w 0 (Except.ok.inj hstatus)

/-- Nothing was taken from the source buffer, and nothing was put into the other. -/
structure Still (w w' : Windows) : Prop where
  src : w'.src.spare = w.src.spare
  size : w'.dst.size = w.dst.size
  capacity : w'.dst.capacity = w.dst.capacity

theorem still_settle {w : Windows} {reply : Reply} (hin : w.src.unread.size ≤ reply.leftIn)
    (hout : w.dst.unwritten.size ≤ reply.leftOut) :
    Still w (w.settle reply) ∧ w.consumed reply = 0 ∧ w.produced reply = 0 := by
  rw [CursorBuffer.size_unread] at hin
  rw [CursorBuffer.size_unwritten] at hout
  have htaken : w.consumed reply = 0 := by
    rw [Windows.consumed]
    omega
  have hgiven : w.produced reply = 0 := by
    rw [Windows.produced]
    omega
  refine ⟨⟨?_, ?_, w.dst.capacity_poke _⟩, htaken, hgiven⟩
  · rw [CursorBuffer.spare, w.availableRead_settle, htaken, Nat.sub_zero, CursorBuffer.spare,
      Windows.settle, CursorBuffer.capacity_consume]
  · show w.dst.size + min (w.dst.availableWrite - reply.leftOut)
      (w.dst.poke reply.room).availableWrite = w.dst.size
    omega

variable {engine : DecoderEngine ω σ} {At : σ → ω → Prop}

/-- An operation over an engine that has stopped changes nothing, and asks for more. -/
theorem decompress_stopped (hstopped : engine.Stopped At) {s : DecoderSession ω σ}
    (hs : s.Stays engine At) {w : Windows} (hroom : w.dst.availableWrite ≠ 0) :
    ∃ s' w', s.decompress w = (.ok .needMoreData, s', w') ∧ s'.Stays engine At ∧ Still w w' := by
  obtain ⟨rfl, hopen, handle, hh, hat⟩ := hs
  have hunfinished := hstopped.unfinished handle s.world hat
  have hpos : 0 < w.dst.unwritten.size := by
    rw [CursorBuffer.size_unwritten]
    omega
  obtain ⟨reply, handle', world', hcall, hat', hin, hout, hfails, hends, hpending⟩ :=
    hstopped.call w.src.unread w.dst.unwritten handle s.world hat hpos
  obtain ⟨hstill, hidle⟩ := still_settle hin hout
  have hleft : (w.settle reply).dst.availableWrite ≠ 0 := by
    rw [w.availableWrite_settle, hidle.2]
    exact hroom
  have hdrive : s.drive handle w 0 =
      (.needMoreData, s.record w reply handle' world', w.settle reply) := by
    -- With nothing pending the stall ends the drive at once, whether or not there is input left.
    rw [drive_round hroom hcall hfails hends, if_neg hleft, if_pos hidle, hpending]
    split <;> rfl
  rw [decompress, opened_of_handle hopen hh]
  dsimp only
  rw [if_neg (ne_true_of_eq_false hunfinished), hdrive]
  split
  · exact ⟨s, w, rfl, ⟨rfl, hopen, handle, hh, hat⟩, rfl, rfl, rfl⟩
  · exact ⟨_, _, rfl, ⟨rfl, hopen, handle', rfl, hat'⟩, hstill⟩

end DecoderSession

namespace Decompressor

/-- What a read says of a buffer that is full. -/
def fullInputText : String := "decoder made no progress on a full input buffer"

/-- The answer of a read that blames its buffer. -/
def BlamesBuffer (result : Except CodecError Nat) : Prop :=
  ∃ codec, result = .error (.invalidData codec fullInputText)

section Blame

variable {d decoded filled d' : Decompressor (ω × Ledger) σ} {dst dst' : ByteArray}

/-- No codec calls its engine stuck in the words that are kept for a full buffer. -/
theorem noProgress_ne (s : DecoderSession ω σ) : s.noProgress ≠ fullInputText := by
  unfold DecoderSession.noProgress
  cases s.codec <;> decide

theorem not_blames_endOfSource (d : Decompressor ω σ) : ¬BlamesBuffer d.endOfSource := by
  rintro ⟨codec, h⟩
  unfold endOfSource at h
  split at h <;> cases h

theorem blames_answer (ho : d.Open) {result : Except CodecError Nat}
    (hround : d.round dst = .inr (result, dst', d')) (hblames : BlamesBuffer result) :
    d'.ledger.FailedWith fullInputText := by
  obtain ⟨engine, he⟩ := ho.engine
  have hopen : d.session.IsOpen := ⟨ho.isDisposed, ho.handle⟩
  obtain ⟨_, session, w, hrun, -, rfl, hanswer⟩ := round_answers hround
  cases hanswer with
  | refused e =>
    obtain ⟨⟨status, hstatus⟩, -⟩ := DecoderSession.decompress_isOpen hopen hrun
    cases hstatus
  | ended => exact absurd hblames (not_blames_endOfSource _)
  | done | full | bytes =>
    obtain ⟨codec, h⟩ := hblames
    cases h
  | corrupt =>
    obtain ⟨codec, h⟩ := hblames
    obtain ⟨-, hsaid⟩ := CodecError.invalidData.inj (Except.error.inj h)
    dsimp only at hsaid
    rcases DecoderSession.decompress_explains he hopen hrun with
      ⟨call, detail, hlast, hcode, hdetail⟩ | ⟨-, hstuck⟩
    · rw [hdetail] at hsaid
      exact ⟨call, hlast, hcode.trans (congrArg _ hsaid)⟩
    · rw [hstuck] at hsaid
      exact absurd hsaid (noProgress_ne session)

theorem blames_fill {d filled : Decompressor ω σ} {e : CodecError} (hfill : d.fill = (.error e, filled))
    (hblames : BlamesBuffer (.error e)) : d.input.spare = 0 ∧ filled.input.spare = 0 := by
  obtain ⟨codec, he⟩ := hblames
  have hpulls := d.pulls_fill
  rw [hfill, Except.error.inj he] at hpulls
  cases hpulls with
  | full hfull => exact ⟨hfull, d.input.spare_compact.trans hfull⟩

/-- A read that blames its buffer is right, or repeats what its engine said. By induction on the rounds
of the read. -/
theorem readSome_blames (ho : d.Open) (hblames : BlamesBuffer (d.readSome dst).1) :
    (d.readSome dst).2.2.input.spare = 0 ∨
      (d.readSome dst).2.2.ledger.FailedWith fullInputText := by
  induction d, dst using readSome_rounds with
  | answers d dst answer hround => exact .inr (blames_answer ho hround hblames)
  | fails d dst dst' decoded e filled hround hfill => exact .inl (blames_fill hfill hblames).2
  | pulls d dst dst' decoded filled hround hfill ih =>
    obtain ⟨calls, hmoves, -⟩ := moves_ask ho hround
    have hfilled := decoded.moves_fill
    rw [hfill] at hfilled
    exact ih (hfilled.opened (hmoves.opened ho)) hblames

end Blame

section Stopped

variable {engine : DecoderEngine ω σ} {At : σ → ω → Prop} {d : Decompressor ω σ} {dst : ByteArray}

/-- The state of a decompressor after a round that did nothing. -/
structure Idles (engine : DecoderEngine ω σ) (At : σ → ω → Prop) (d d' : Decompressor ω σ) : Prop where
  session : d'.session.Stays engine At
  source : d'.source = d.source
  sourceEnded : d'.sourceEnded = d.sourceEnded
  spare : d'.input.spare = d.input.spare

/-- Over an engine that has stopped a round comes to the end of the source or asks for a piece. -/
theorem round_stopped (hstopped : engine.Stopped At) (hs : d.session.Stays engine At)
    (hdst : dst.size ≠ 0) :
    ∃ dst' d', Idles engine At d d' ∧ dst'.size = dst.size ∧
      d.round dst = if d.sourceEnded then .inr (d'.endOfSource, dst', d') else .inl (dst', d') := by
  have hroom : (CursorBuffer.empty dst).availableWrite ≠ 0 := hdst
  obtain ⟨session, w, hrun, hsession, hstill⟩ :=
    DecoderSession.decompress_stopped (w := ⟨d.input, .empty dst⟩) hstopped hs hroom
  have hnone : ¬0 < w.dst.size := by
    rw [hstill.size]
    exact Nat.lt_irrefl 0
  refine ⟨w.dst.storage, { d with session, input := w.src }, ⟨hsession, rfl, rfl, hstill.src⟩,
    hstill.capacity, ?_⟩
  simp only [round, hrun]
  rw [if_neg hnone]

/-- Over an engine that has stopped a read blames its buffer exactly if the source goes on and fills
what is to spare of it, and it is right then. By induction on the rounds of the read: a piece that is
pulled leaves as much less to fill. -/
theorem readSome_stopped (hstopped : engine.Stopped At) (hs : d.session.Stays engine At)
    (hdst : dst.size ≠ 0) :
    (BlamesBuffer (d.readSome dst).1 ↔ d.sourceEnded = false ∧ d.source.Fills d.input.spare) ∧
      (BlamesBuffer (d.readSome dst).1 → (d.readSome dst).2.2.input.spare = 0) := by
  induction d, dst using readSome_rounds with
  | answers d dst answer hround =>
    obtain ⟨dst', d', hidles, -, hround'⟩ := round_stopped hstopped hs hdst
    rw [hround] at hround'
    split at hround'
    · next hended =>
      obtain rfl := Sum.inr.inj hround'
      refine ⟨iff_of_false (not_blames_endOfSource d') ?_, fun h => ?_⟩
      · rw [hended]
        intro h
        cases h.1
      · exact absurd h (not_blames_endOfSource d')
    · cases hround'
  | fails d dst dst' decoded e filled hround hfill =>
    obtain ⟨dst', decoded', hidles, -, hround'⟩ := round_stopped hstopped hs hdst
    rw [hround] at hround'
    split at hround'
    · cases hround'
    · next hopen =>
      obtain ⟨-, rfl⟩ := Prod.mk.inj (Sum.inl.inj hround')
      rw [Bool.not_eq_true] at hopen
      refine ⟨⟨fun h => ⟨hopen, ?_⟩, fun h => ?_⟩, fun h => (blames_fill hfill h).2⟩
      · rw [← hidles.spare, (blames_fill hfill h).1]
        exact .full _
      · have hpulls := decoded.pulls_fill
        rw [hfill] at hpulls
        rw [← hidles.source, ← hidles.spare] at h
        cases hpulls with
        | full => exact ⟨_, rfl⟩
        | fails room read => exact absurd h.2 (Source.Fills.not_of_error room read)
        | overruns room read beyond =>
          have hwithin := ((Source.Fills.of_ok_iff room read).mp h.2).2.1
          omega
  | pulls d dst dst' decoded filled hround hfill ih =>
    obtain ⟨dst'', decoded', hidles, hsize, hround'⟩ := round_stopped hstopped hs hdst
    rw [hround] at hround'
    split at hround'
    · cases hround'
    · next hopen =>
      obtain ⟨rfl, rfl⟩ := Prod.mk.inj (Sum.inl.inj hround')
      have hpulls := decoded.pulls_fill
      rw [hfill] at hpulls
      cases hpulls with
      | @delivers delivery source room read within =>
        have hfilled : (decoded.compacted.accept delivery source).session.Stays engine At := by
          rw [session_accept]
          exact hidles.session
        have hspare := decoded.spare_accept source within
        have hfills := Source.Fills.of_ok_iff room read
        rw [hidles.source, hidles.spare] at hfills
        rw [hidles.spare] at hspare within
        obtain ⟨hblames, hfull⟩ := ih hfilled (hsize ▸ hdst)
        refine ⟨hblames.trans ?_, hfull⟩
        -- An empty piece ends the source before the buffer is full, any other is what `Fills` pulls.
        rw [hspare, source_accept, hfills, accept]
        rcases Nat.eq_zero_or_pos delivery.reported with hzero | hsome
        · rw [if_pos hzero]
          refine iff_of_false (fun h => ?_) fun h => ?_
          · cases h.1
          · have hsome := h.2.1
            omega
        · rw [if_neg (by omega)]
          have hgoes : decoded.compacted.sourceEnded = d.sourceEnded := hidles.sourceEnded
          show decoded.compacted.sourceEnded = false ∧ _ ↔ _
          rw [hgoes]
          exact ⟨fun h => ⟨h.1, hsome, within, h.2⟩, fun h => ⟨h.1, h.2.2.2⟩⟩

end Stopped

/-- How a read into some room comes back, from a decompressor whose buffer has so many bytes, after it
made these calls. -/
structure ComesBack (capacity : Nat) (d : Decompressor ω σ) (calls : Ledger)
    (result : Except CodecError Nat) (d' : Decompressor ω σ) : Prop where
  requests : ∃ asked interrupted, Requests d d' asked interrupted
  blames : BlamesBuffer result →
    d'.input.availableRead = capacity ∨ calls.FailedWith fullInputText
  stopped : ∀ engine At, engine.Stopped At → d.session.Stays engine At →
    (BlamesBuffer result ↔
        d.sourceEnded = false ∧ d.source.Fills (capacity - d.input.availableRead)) ∧
      (BlamesBuffer result → d'.input.availableRead = capacity)

def readCalls (d : Decompressor ω σ) (dst : ByteArray) : Ledger :=
  ((d.recorded []).read dst).2.2.ledger

theorem Holds.full_iff {capacity : Nat} {d : Decompressor ω σ} (h : Holds capacity d)
    (dst : ByteArray) :
    (d.readSome dst).2.2.input.spare = 0 ↔ (d.readSome dst).2.2.input.availableRead = capacity := by
  rw [CursorBuffer.spare_eq_zero_iff, (h.readSome dst).capacity]

theorem Holds.read_blames {capacity : Nat} {d : Decompressor ω σ} (h : Holds capacity d)
    {dst : ByteArray} (hdst : dst.size ≠ 0) (hblames : BlamesBuffer (d.readSome dst).1) :
    (d.readSome dst).2.2.input.availableRead = capacity ∨
      (d.readCalls dst).FailedWith fullInputText := by
  have ho : (d.recorded []).Open := ⟨⟨d.session.engine, rfl⟩, h.session.1, h.session.2⟩
  have hread : (d.recorded []).read dst = (d.recorded []).readSome dst :=
    read_of_live h.session.1 hdst
  obtain ⟨ledger, hsame⟩ := d.recorded_readSome dst []
  have hblames' : BlamesBuffer ((d.recorded []).readSome dst).1 := by
    rw [hsame]
    exact hblames
  have hright := readSome_blames ho hblames'
  rw [readCalls, hread, ← h.full_iff dst]
  rw [hsame] at hright ⊢
  exact hright

end Decompressor

/-- Every read into some room comes back, over any engine and behind any source, with a buffer of any
size and after any row of reads. It asks its source at most once more than there are bytes to be
delivered, interruptions apart, and never without room. It blames its buffer only if that is unread from
end to end, or if its engine said the same words, and over an engine that has stopped exactly if the
source fills the buffer. -/
theorem reads_come_back (registry : Registry ω ε σ) (world : ω) (source : Source) (o : CodecOptions)
    (options : StreamOptions) {d : Decompressor ω σ} {world' : ω}
    (hnew : Decompressor.new registry world source o options = (.ok d, world')) (dsts : List ByteArray)
    {dst : ByteArray} (hdst : dst.size ≠ 0) :
    Decompressor.ComesBack options.capacity (d.afterReads dsts) ((d.afterReads dsts).readCalls dst)
      ((d.afterReads dsts).read dst).1 ((d.afterReads dsts).read dst).2.2 := by
  have hbefore := (Decompressor.holds_new hnew).afterReads dsts
  generalize d.afterReads dsts = before at hbefore ⊢
  rw [Decompressor.read_of_live hbefore.session.1 hdst]
  constructor
  · exact before.requests_readSome dst
  · intro hblames
    exact hbefore.read_blames hdst hblames
  · intro engine At hstopped hs
    obtain ⟨hiff, hspare⟩ := Decompressor.readSome_stopped hstopped hs hdst
    rw [CursorBuffer.spare, hbefore.capacity] at hiff
    refine ⟨hiff, fun hblames => ?_⟩
    exact (hbefore.full_iff dst).mp (hspare hblames)

namespace Marked

/-- A decoder that takes and gives nothing, and answers every call alike. -/
def inert (pending : Bool) (code : CallCode) : DecoderEngine Unit Unit where
  create world := (.ok (), world)
  setParameter _ handle world := (true, handle, world)
  decompress input room handle world := (⟨input.size, room.size, room, code⟩, handle, world)
  hasMoreOutput _ := pending
  isFinished _ := false

def inertRegistry (pending : Bool) (code : CallCode) : Registry Unit Encoder Unit :=
  { factories := [⟨⟨.brotli, "inert", "1"⟩, Encoder.engine, inert pending code⟩] }

/-- A source that drips, and is interrupted once. -/
def drippingSource : Source where
  answers :=
    [.data ⟨#[1]⟩, .fail ⟨.interrupted, "again"⟩, .data ⟨#[2]⟩, .data ⟨#[3]⟩, .data ⟨#[4]⟩]

/-- A new decompressor over such a decoder, behind that source. -/
def inertDecompressor (pending : Bool) (code : CallCode) : Decompressor Unit Unit where
  session :=
    { options, version := ⟨.brotli, "inert", "1"⟩, engine := inert pending code, world := (),
      handle := some () }
  input := .withCapacity stream₃.capacity
  source := drippingSource
  options := stream₃

theorem stopped_inert : (inert false .needsMoreInput).Stopped fun _ _ => True where
  unfinished _ _ _ := rfl
  call input room _ _ _ _ := by
    refine ⟨_, _, _, rfl, trivial, Nat.le_refl _, Nat.le_refl _, ?_, ?_, rfl⟩
    · intro detail h
      cases h
    · intro h
      cases h

theorem fills_dripping : drippingSource.Fills 3 := by
  have hfirst : drippingSource.readPatiently 3 =
      (.ok ⟨⟨#[1]⟩, 1⟩, (drippingSource.readPatiently 3).2) := by cbv
  have hsecond : (drippingSource.readPatiently 3).2.readPatiently 2 =
      (.ok ⟨⟨#[2]⟩, 1⟩, ((drippingSource.readPatiently 3).2.readPatiently 2).2) := by cbv
  have hthird : ((drippingSource.readPatiently 3).2.readPatiently 2).2.readPatiently 1 =
      (.ok ⟨⟨#[3]⟩, 1⟩,
        (((drippingSource.readPatiently 3).2.readPatiently 2).2.readPatiently 1).2) := by cbv
  refine .more hfirst (by decide) (by decide) (.more hsecond (by decide) (by decide) ?_)
  exact .more hthird (by decide) (by decide) (.full _)

end Marked

theorem reads_come_back_marked :
    ∃ d, Decompressor.new (Marked.inertRegistry false .needsMoreInput) () Marked.drippingSource
        Marked.options Marked.stream₃ = (.ok d, ()) ∧
      (⟨#[0]⟩ : ByteArray).size ≠ 0 ∧
      (∀ dsts, Decompressor.ComesBack 3 (d.afterReads dsts) ((d.afterReads dsts).readCalls ⟨#[0]⟩)
        ((d.afterReads dsts).read ⟨#[0]⟩).1 ((d.afterReads dsts).read ⟨#[0]⟩).2.2) ∧
      Decompressor.BlamesBuffer (d.read ⟨#[0]⟩).1 ∧
      (d.read ⟨#[0]⟩).2.2.input.availableRead = 3 := by
  have hnew : Decompressor.new (Marked.inertRegistry false .needsMoreInput) () Marked.drippingSource
    Marked.options Marked.stream₃ = (.ok (Marked.inertDecompressor false .needsMoreInput), ()) := rfl
  have hdst : (⟨#[0]⟩ : ByteArray).size ≠ 0 := by decide
  have hback (dsts : List ByteArray) := reads_come_back (Marked.inertRegistry false .needsMoreInput) ()
    Marked.drippingSource Marked.options Marked.stream₃ hnew dsts hdst
  obtain ⟨hblames, hfull⟩ := (hback []).stopped _ _ Marked.stopped_inert ⟨rfl, rfl, (), rfl, trivial⟩
  have hgives := hblames.mpr ⟨rfl, Marked.fills_dripping⟩
  exact ⟨_, hnew, hdst, hback, hgives, hfull hgives⟩

theorem Decompressor.read_of_pull {d decoded filled : Decompressor ω σ} {dst dst' : ByteArray}
    {answer : Except CodecError Nat × ByteArray × Decompressor ω σ} (hopen : d.session.IsOpen)
    (hdst : dst.size ≠ 0) (hfirst : d.round dst = .inl (dst', decoded))
    (hfill : decoded.fill = (.ok (), filled)) (hsecond : filled.round dst' = .inr answer) :
    d.read dst = answer := by
  rw [read_of_live hopen.1 hdst, readSome_of_pull hfirst hfill, readSome_of_answer hsecond]

theorem Marked.read_inert (pending : Bool) (code : CallCode) (detail : String)
    (hfails : (inertDecompressor pending code).fill.2.round ⟨#[0]⟩ =
      .inr (.error (.invalidData .brotli detail), ⟨#[0]⟩,
        { (inertDecompressor pending code).fill.2 with
          session := (inertDecompressor pending code).session.fail detail })) :
    ((inertDecompressor pending code).read ⟨#[0]⟩).1 = .error (.invalidData .brotli detail) ∧
      ((inertDecompressor pending code).read ⟨#[0]⟩).2.2.input.availableRead = 1 ∧
      ((inertDecompressor pending code).read ⟨#[0]⟩).2.2.input.capacity = 3 := by
  have hopen : (inertDecompressor pending code).session.IsOpen := ⟨rfl, rfl⟩
  have hfirst : (inertDecompressor pending code).round ⟨#[0]⟩ =
      .inl (⟨#[0]⟩, inertDecompressor pending code) := by cbv
  have hfill : (inertDecompressor pending code).fill =
      (.ok (), (inertDecompressor pending code).fill.2) := by cbv
  rw [Decompressor.read_of_pull hopen (by decide) hfirst hfill hfails]
  exact ⟨rfl, by cbv, by cbv⟩

/-- An engine that takes and gives nothing does not always have a read fill its buffer: where it claims
to hold output, or says itself what a read says of a full buffer, the read ends after one byte of
three. -/
theorem reads_end_early :
    (∃ d, Decompressor.new (Marked.inertRegistry true .needsMoreOutput) () Marked.drippingSource
        Marked.options Marked.stream₃ = (.ok d, ()) ∧
      d.source.Fills d.input.capacity ∧ ¬Decompressor.BlamesBuffer (d.read ⟨#[0]⟩).1 ∧
      (d.read ⟨#[0]⟩).1 = .error (.invalidData .brotli "brotli decoder made no progress") ∧
      (d.read ⟨#[0]⟩).2.2.input.availableRead = 1 ∧ (d.read ⟨#[0]⟩).2.2.input.capacity = 3) ∧
    ∃ d, Decompressor.new (Marked.inertRegistry false (.error Decompressor.fullInputText)) ()
        Marked.drippingSource Marked.options Marked.stream₃ = (.ok d, ()) ∧
      Decompressor.BlamesBuffer (d.read ⟨#[0]⟩).1 ∧
      (d.read ⟨#[0]⟩).2.2.input.availableRead = 1 ∧ (d.read ⟨#[0]⟩).2.2.input.capacity = 3 := by
  constructor
  · obtain ⟨hresult, hspare⟩ := Marked.read_inert true .needsMoreOutput
      "brotli decoder made no progress" (by cbv)
    refine ⟨Marked.inertDecompressor true .needsMoreOutput, rfl, Marked.fills_dripping, ?_, hresult,
      hspare⟩
    rintro ⟨codec, h⟩
    obtain ⟨-, htext⟩ := CodecError.invalidData.inj (Except.error.inj (hresult.symm.trans h))
    exact absurd htext (by decide)
  · obtain ⟨hresult, hspare⟩ := Marked.read_inert false
      (.error Decompressor.fullInputText) Decompressor.fullInputText (by cbv)
    exact ⟨_, rfl, ⟨.brotli, hresult⟩, hspare⟩

end StreamCodec
