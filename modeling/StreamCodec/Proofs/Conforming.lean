import StreamCodec.Proofs.DecoderContract
import StreamCodec.Proofs.DecoderDrive
import StreamCodec.Proofs.ReadRounds

/-!
# Conforming decoder engines

A call of a conforming engine that has nothing left to emit and is offered no
input changes nothing and asks for more; every other call of it moves something,
or ends the stream. This says nothing about what the engine emits, or about what
that depends on.

A round of a read that asks for another piece has used up its input. Over a
conforming engine it can be gone through again, and that changes nothing; only
where the engine says that it is finished a repetition answers zero at once, as
all later rounds do.
-/
namespace StreamCodec

variable {ω σ : Type}

/-- The codes after which a drive goes no further. -/
def CallCode.Ends : CallCode → Prop
  | .streamEnd | .error _ => True
  | .ok | .needsMoreInput | .needsMoreOutput => False

/-- A reply that leaves the room as it was and asks for more input. -/
structure Reply.Asks (reply : Reply) (room : ByteArray) : Prop where
  leftOut : room.size ≤ reply.leftOut
  room : overlay room 0 reply.room = room
  code : ¬reply.code.Ends

/-- The contract of a conforming engine. `Live` holds of its states as long as it is called with
some room. -/
structure DecoderEngine.Conforms (engine : DecoderEngine ω σ) (parameters : List Parameter)
    (Live : σ → ω → Prop) : Prop where
  opens : ∀ world handle world₁ handle' world', engine.create world = (.ok handle, world₁) →
    engine.configure parameters handle world₁ = (.ok handle', world') → Live handle' world'
  live : ∀ handle world input room reply handle' world', Live handle world → 0 < room.size →
    engine.decompress input room handle world = (reply, handle', world') → Live handle' world'
  idle : ∀ handle world input room, Live handle world → engine.isFinished handle = false →
    0 < room.size → input.size = 0 → engine.hasMoreOutput handle = false →
    ∃ reply, engine.decompress input room handle world = (reply, handle, world) ∧ reply.Asks room
  moves : ∀ handle world input room reply handle' world', Live handle world → 0 < room.size →
    0 < input.size ∨ engine.hasMoreOutput handle = true →
    engine.decompress input room handle world = (reply, handle', world') →
    reply.leftIn < input.size ∨ reply.leftOut < room.size ∨ reply.code.Ends

/-- Failures of a source, and of a caller who gave up waiting for it. After such a failure a read may
be tried again. -/
def CodecError.Passing : CodecError → Prop
  | .io _ | .sourceOverrun .. | .cancelled => True
  | .invalidData .. | .destinationTooSmall .. | .truncated _ | .disposed | .completed
  | .operationInProgress | .engineCreation .. | .invalidParameter .. | .unsupported _ => False

theorem overlay_empty (region : ByteArray) : overlay region 0 .empty = region := by
  have hnone : ByteArray.empty.extract 0 region.size = ByteArray.empty := by
    rw [← ByteArray.size_eq_zero_iff, ByteArray.size_extract]
    exact Nat.min_eq_right (Nat.zero_le _)
  simp [overlay, hnone]

namespace DecoderSession

variable {engine : DecoderEngine ω σ} {parameters : List Parameter} {Live : σ → ω → Prop}

/-- An open session over an engine in a state that the contract speaks of. -/
structure Stays (engine : DecoderEngine ω σ) (Live : σ → ω → Prop) (s : DecoderSession ω σ) :
    Prop where
  engine : s.engine = engine
  isDisposed : s.isDisposed = false
  handle : ∃ handle, s.handle = some handle ∧ Live handle s.world

/-- What operations leave alone about the buffers. -/
structure Within (w w' : Windows) : Prop where
  src : w'.src.capacity = w.src.capacity
  dst : w'.dst.capacity = w.dst.capacity
  tidy : w.src.Tidy → w'.src.Tidy

theorem Within.refl (w : Windows) : Within w w := ⟨rfl, rfl, id⟩

theorem Within.trans {w w' w'' : Windows} (first : Within w w') (second : Within w' w'') :
    Within w w'' :=
  ⟨second.src.trans first.src, second.dst.trans first.dst, fun h => second.tidy (first.tidy h)⟩

theorem within_settle (w : Windows) (reply : Reply) : Within w (w.settle reply) :=
  ⟨w.src.capacity_consume _, w.dst.capacity_poke _, fun _ => w.src.tidy_consume _⟩

/-- A session whose last call left nothing to be done without more input: its engine was not called
yet, or has nothing left to emit. -/
def Rests (s : DecoderSession ω σ) : Prop :=
  s.hasSeenInput = false ∨ ∀ handle, s.handle = some handle → s.engine.hasMoreOutput handle = false

theorem Stays.record {s : DecoderSession ω σ} (hs : Stays engine Live s)
    (hc : engine.Conforms parameters Live) {handle handle' : σ} (hlive : Live handle s.world)
    {w : Windows} (hroom : ¬w.dst.availableWrite = 0) {reply : Reply} {world : ω}
    (hcall : s.engine.decompress w.src.unread w.dst.unwritten handle s.world =
      (reply, handle', world)) : Stays engine Live (s.record w reply handle' world) := by
  refine ⟨hs.engine, hs.isDisposed, handle', rfl, ?_⟩
  rw [hs.engine] at hcall
  refine hc.live _ _ _ _ _ _ _ hlive ?_ hcall
  rw [CursorBuffer.size_unwritten]
  omega

/-- A call that moves nothing and is not the last had no input. -/
theorem isEmpty_of_stalled (hc : engine.Conforms parameters Live) {s : DecoderSession ω σ}
    (hs : s.engine = engine) {handle handle' : σ} (hlive : Live handle s.world) {w : Windows}
    (hroom : ¬w.dst.availableWrite = 0) {reply : Reply} {world : ω}
    (hcall : s.engine.decompress w.src.unread w.dst.unwritten handle s.world =
      (reply, handle', world)) (hcode : ¬reply.code.Ends)
    (hstalled : w.consumed reply = 0 ∧ w.produced reply = 0) : w.src.isEmpty = true := by
  rw [CursorBuffer.isEmpty_iff]
  by_contra hinput
  have hsrc : 0 < w.src.unread.size := by
    rw [CursorBuffer.size_unread]
    omega
  have hdst : 0 < w.dst.unwritten.size := by
    rw [CursorBuffer.size_unwritten]
    omega
  rw [hs] at hcall
  obtain ⟨hconsumed, hproduced⟩ := hstalled
  rw [Windows.consumed] at hconsumed
  rw [Windows.produced] at hproduced
  rcases hc.moves _ _ _ _ _ _ _ hlive hdst (.inl hsrc) hcall with hin | hout | hends
  · rw [CursorBuffer.size_unread] at hin
    omega
  · rw [CursorBuffer.size_unwritten] at hout
    omega
  · exact hcode hends

theorem not_ends {reply : Reply} (hfails : ∀ detail, reply.code = .error detail → False)
    (hends : reply.code = .streamEnd → False) : ¬reply.code.Ends := by
  intro h
  cases hcode : reply.code with
  | streamEnd => exact hends hcode
  | error detail => exact hfails detail hcode
  | ok | needsMoreInput | needsMoreOutput =>
    rw [hcode] at h
    exact h

/-- What a drive over a conforming engine comes to. -/
structure Drives (engine : DecoderEngine ω σ) (Live : σ → ω → Prop) (w : Windows)
    (result : Status × DecoderSession ω σ × Windows) : Prop where
  stays : Stays engine Live result.2.1
  within : Within w result.2.2
  rests : result.1 = .needMoreData → result.2.2.src.isEmpty = true ∧ result.2.1.Rests

theorem drive_conforms (hc : engine.Conforms parameters Live) (s : DecoderSession ω σ) (handle : σ)
    (w : Windows) (stalled : Nat) (hs : Stays engine Live s) (hlive : Live handle s.world) :
    Drives engine Live w (drive s handle w stalled) := by
  fun_induction drive s handle w stalled with
  | case1 s handle w stalled hfull => exact ⟨hs, .refl w, by rintro ⟨⟩⟩
  | case2 s handle w stalled hroom reply handle' world hcall s' w' detail hcode =>
    have hs' := hs.record hc hlive hroom hcall
    exact ⟨⟨hs'.engine, hs'.isDisposed, hs'.handle⟩, within_settle w reply, by rintro ⟨⟩⟩
  | case3 s handle w stalled hroom reply handle' world hcall =>
    exact ⟨hs.record hc hlive hroom hcall, within_settle w reply, by rintro ⟨⟩⟩
  | case4 s handle w stalled hroom reply handle' world hcall =>
    exact ⟨hs.record hc hlive hroom hcall, within_settle w reply, by rintro ⟨⟩⟩
  | case5 s handle w stalled hroom reply handle' world hcall s' w' pending hfull hempty =>
    rw [Bool.and_eq_true, Bool.not_eq_true'] at hempty
    refine ⟨hs.record hc hlive hroom hcall, within_settle w reply, fun _ => ⟨hempty.1, .inr ?_⟩⟩
    intro h hh
    obtain rfl := Option.some.inj hh
    exact hempty.2
  | case6 s handle w stalled hroom reply handle' world hcall s' w' pending hfull hempty hstall hnone
      hfails hends =>
    -- A call that moved nothing had no input, so that nothing was left before the last test.
    have hbefore := isEmpty_of_stalled hc hs.engine hlive hroom hcall (not_ends hfails hends) hstall
    refine absurd ?_ hempty
    rw [CursorBuffer.isEmpty_iff] at hbefore
    rw [Bool.and_eq_true, CursorBuffer.isEmpty_iff, Windows.availableRead_settle, hbefore]
    exact ⟨Nat.zero_sub _, hnone⟩
  | case7 s handle w stalled hroom reply handle' world hcall s' w' pending hfull hempty hstall hnone
      hlast hfails hends =>
    have hs' := hs.record hc hlive hroom hcall
    exact ⟨⟨hs'.engine, hs'.isDisposed, hs'.handle⟩, within_settle w reply, by rintro ⟨⟩⟩
  | case8 s handle w stalled hroom reply handle' world hcall s' w' pending hfull hempty hstall hnone
      hlast hfails hends ih =>
    have hs' := hs.record hc hlive hroom hcall
    obtain ⟨h', hh', hlive'⟩ := hs'.handle
    obtain rfl := Option.some.inj hh'
    obtain ⟨hstays, hwithin, hrests⟩ := ih hs' hlive'
    exact ⟨hstays, (within_settle w reply).trans hwithin, hrests⟩
  | case9 s handle w stalled hroom reply handle' world hcall s' w' pending hfull hempty hmoved hfails
      hends ih =>
    have hs' := hs.record hc hlive hroom hcall
    obtain ⟨h', hh', hlive'⟩ := hs'.handle
    obtain rfl := Option.some.inj hh'
    obtain ⟨hstays, hwithin, hrests⟩ := ih hs' hlive'
    exact ⟨hstays, (within_settle w reply).trans hwithin, hrests⟩

theorem decompress_conforms (hc : engine.Conforms parameters Live) {s : DecoderSession ω σ}
    (hs : Stays engine Live s) (w : Windows) :
    ∃ status s' w', s.decompress w = (.ok status, s', w') ∧ Drives engine Live w (status, s', w') := by
  obtain ⟨handle, hh, hlive⟩ := hs.handle
  simp only [decompress, opened_of_handle hs.isDisposed hh]
  split
  · exact ⟨_, _, _, rfl, hs, .refl w, by rintro ⟨⟩⟩
  · split
    · next hunseen =>
      rw [Bool.and_eq_true, Bool.not_eq_true'] at hunseen
      exact ⟨_, _, _, rfl, hs, .refl w, fun _ => ⟨hunseen.1, .inl hunseen.2⟩⟩
    · exact ⟨_, _, _, rfl, drive_conforms hc s handle w 0 hs hlive⟩

/-- A call that asks for more does not show in the session. -/
theorem record_asks {s : DecoderSession ω σ} {handle : σ} (hh : s.handle = some handle) {w : Windows}
    (hsrc : w.src.isEmpty = true) {reply : Reply} (hasks : reply.Asks w.dst.unwritten) :
    s.record w reply handle s.world = s := by
  have hin : w.consumed reply = 0 := by
    rw [Windows.consumed, w.src.isEmpty_iff.mp hsrc, Nat.min_zero]
  have hout : w.produced reply = 0 := by
    have := hasks.leftOut
    rw [CursorBuffer.size_unwritten] at this
    rw [Windows.produced]
    omega
  rw [record, hin, hout, ← hh]
  simp

theorem settle_asks {src : CursorBuffer} (hsrc : src.isEmpty = true) (htidy : src.Tidy)
    {dst : ByteArray} {reply : Reply} (hasks : reply.Asks dst) :
    Windows.settle ⟨src, .empty dst⟩ reply = ⟨src, .empty dst⟩ := by
  have hnone : (CursorBuffer.empty dst).availableWrite - reply.leftOut = 0 :=
    Nat.sub_eq_zero_of_le hasks.leftOut
  rw [Windows.settle, CursorBuffer.consume_of_isEmpty hsrc htidy, CursorBuffer.poke_empty hasks.room,
    CursorBuffer.commit_of_full _ hnone]

/-- An operation without input on a session that rests changes nothing and asks for more. -/
theorem decompress_again (hc : engine.Conforms parameters Live) {s : DecoderSession ω σ}
    (hs : Stays engine Live s) (hrests : s.Rests) (hunfinished : s.isFinished = false)
    {src : CursorBuffer} (hsrc : src.isEmpty = true) (htidy : src.Tidy) {dst : ByteArray}
    (hdst : 0 < dst.size) :
    s.decompress ⟨src, .empty dst⟩ = (.ok .needMoreData, s, ⟨src, .empty dst⟩) := by
  obtain ⟨handle, hh, hlive⟩ := hs.handle
  rw [isFinished, hh, Option.any_some] at hunfinished
  simp only [decompress, opened_of_handle hs.isDisposed hh, hunfinished, hsrc]
  by_cases hseen : s.hasSeenInput = false
  · simp [hseen]
  · have hpending : s.engine.hasMoreOutput handle = false := (hrests.resolve_left hseen) handle hh
    have hroom : ¬(CursorBuffer.empty dst).availableWrite = 0 := Nat.ne_of_gt hdst
    have hinput : src.unread.size = 0 := by
      rw [CursorBuffer.size_unread]
      exact src.isEmpty_iff.mp hsrc
    have hunwritten := CursorBuffer.unwritten_empty dst
    obtain ⟨reply, hcall, hasks⟩ := hc.idle handle s.world src.unread
      (CursorBuffer.empty dst).unwritten hlive (hs.engine ▸ hunfinished) (by rwa [hunwritten]) hinput
      (hs.engine ▸ hpending)
    rw [← hs.engine] at hcall
    have hcode := hasks.code
    have hfails : ∀ detail, reply.code = .error detail → False := fun _ h => hcode (h ▸ trivial)
    have hends : reply.code = .streamEnd → False := fun h => hcode (h ▸ trivial)
    rw [Bool.not_eq_false] at hseen
    simp only [hseen, Bool.not_true, Bool.and_false, Bool.false_eq_true, ↓reduceIte]
    rw [drive_round (w := ⟨src, .empty dst⟩) hroom hcall hfails hends,
      record_asks (w := ⟨src, .empty dst⟩) hh hsrc hasks, settle_asks hsrc htidy (hunwritten ▸ hasks)]
    simp [hroom, hsrc, hpending]

end DecoderSession

namespace Decompressor

variable {engine : DecoderEngine ω σ} {parameters : List Parameter} {Live : σ → ω → Prop}
  {d decoded : Decompressor ω σ} {dst dst' : ByteArray}

/-- An open decompressor over a conforming engine. -/
structure Stays (engine : DecoderEngine ω σ) (Live : σ → ω → Prop) (d : Decompressor ω σ) : Prop where
  session : DecoderSession.Stays engine Live d.session
  capacity : 0 < d.input.capacity
  tidy : d.input.Tidy

/-- A decompressor that has used up its input and could do nothing without more. -/
structure Waits (d : Decompressor ω σ) : Prop where
  input : d.input.isEmpty = true
  session : d.session.Rests
  going : d.sourceEnded = false

/-- A decompressor whose engine has decoded the end of its stream. -/
def Finished (d : Decompressor ω σ) : Prop := d.session.isFinished = true

theorem Stays.decompress (hc : engine.Conforms parameters Live) (hd : d.Stays engine Live)
    (dst : ByteArray) :
    ∃ status session w, d.session.decompress ⟨d.input, .empty dst⟩ = (.ok status, session, w) ∧
      Stays engine Live { d with session, input := w.src } ∧ w.dst.storage.size = dst.size ∧
      (status = .needMoreData → w.src.isEmpty = true ∧ session.Rests) := by
  obtain ⟨status, session, w, hrun, hstays, hwithin, hrests⟩ :=
    DecoderSession.decompress_conforms hc hd.session ⟨d.input, .empty dst⟩
  refine ⟨status, session, w, hrun, ⟨hstays, ?_, hwithin.tidy hd.tidy⟩, hwithin.dst, hrests⟩
  have hsame : w.src.capacity = d.input.capacity := hwithin.src
  exact hsame ▸ hd.capacity

theorem Stays.answer (hc : engine.Conforms parameters Live) (hd : d.Stays engine Live)
    {result : Except CodecError Nat} {d' : Decompressor ω σ}
    (h : d.round dst = .inr (result, dst', d')) :
    d'.Stays engine Live ∧ d'.source = d.source ∧ ∀ e, result = .error e → ¬e.Passing := by
  obtain ⟨status, session, w, hrun, hstays, -, -⟩ := hd.decompress hc dst
  obtain ⟨_, session', w', hrun', -, rfl, hanswer⟩ := round_answers h
  obtain ⟨rfl, hrest⟩ := Prod.mk.inj (hrun.symm.trans hrun')
  obtain ⟨rfl, rfl⟩ := Prod.mk.inj hrest
  refine ⟨hstays, rfl, fun e he => ?_⟩
  cases hanswer with
  | done | full | bytes => cases he
  | corrupt =>
    obtain rfl := Except.error.inj he
    exact id
  | ended =>
    unfold endOfSource at he
    split at he
    · obtain rfl := Except.error.inj he
      exact id
    · cases he

theorem Stays.ask (hc : engine.Conforms parameters Live) (hd : d.Stays engine Live)
    (h : d.round dst = .inl (dst', decoded)) :
    decoded.Stays engine Live ∧ decoded.Waits ∧ decoded.source = d.source ∧ dst'.size = dst.size := by
  obtain ⟨status, session, w, hrun, hstays, hsize, hrests⟩ := hd.decompress hc dst
  obtain ⟨session', w', hrun', -, hgoing, rfl, rfl⟩ := round_asks h
  obtain ⟨hstatus, hrest⟩ := Prod.mk.inj (hrun.symm.trans hrun')
  obtain ⟨rfl, rfl⟩ := Prod.mk.inj hrest
  obtain ⟨hempty, hsession⟩ := hrests (Except.ok.inj hstatus)
  exact ⟨hstays, ⟨hempty, hsession, hgoing⟩, rfl, hsize⟩

/-- A round that asks for a piece can be gone through again. -/
theorem round_again (hc : engine.Conforms parameters Live) (hd : d.Stays engine Live) (hw : d.Waits)
    (hunfinished : ¬d.Finished) (hdst : 0 < dst.size) : d.round dst = .inl (dst, d) := by
  have hrun := DecoderSession.decompress_again hc hd.session hw.session
    (eq_false_of_ne_true hunfinished) hw.input hd.tidy hdst
  have hsize : ¬0 < (CursorBuffer.empty dst).size := Nat.lt_irrefl 0
  simp only [round, hrun]
  rw [if_neg hsize, if_neg (ne_true_of_eq_false hw.going)]
  rfl

/-- Once the engine is finished every round answers zero. -/
theorem round_finished (hd : d.Stays engine Live) (hfinished : d.Finished) (dst : ByteArray) :
    d.round dst = .inr (.ok 0, dst, d) := by
  have hrun := DecoderSession.decompress_of_isFinished hd.session.isDisposed hfinished ⟨d.input, .empty dst⟩
  simp only [round, hrun]
  rfl

end Decompressor

end StreamCodec
