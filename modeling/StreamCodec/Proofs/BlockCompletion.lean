import StreamCodec.Engine.Zstd
import StreamCodec.Proofs.BlockEncoding
import StreamCodec.Proofs.EncoderOutcome
import StreamCodec.Proofs.Lifecycle
import StreamCodec.Proofs.RoundTrip

/-!
# What a compressed block vouches for

Compressing a block succeeds only once the engine says that the stream has come to its
end, and the bytes handed out are those that the engine produced. Whether the whole
source is in that stream is another question: a finish is complete as soon as the
engine says so, however much of the source is left. `Fed` follows a source through the
calls, and tells when nothing was left: exactly if the last call took all that it was
offered. Where the source is written before the stream is finished, the question does
not arise.
-/
namespace StreamCodec

variable {ω σ : Type}

namespace Ledger

/-- Each call is offered what the calls before it left of a source. -/
inductive Fed : List UInt8 → Ledger → List UInt8 → Prop
  | none (src : List UInt8) : Fed src [] src
  | call {src rest : List UInt8} {call : EngineCall} {calls : Ledger}
      (offered : octets call.input = src)
      (later : Fed (src.drop (call.input.size - call.reply.leftIn)) calls rest) :
      Fed src (call :: calls) rest

/-- The last call took all that it was offered. -/
def TakesAll (calls : Ledger) : Prop :=
  ∀ call, calls.getLast? = some call → call.consumed = octets call.input

namespace Fed

variable {src mid rest : List UInt8} {a b calls : Ledger}

theorem trans (first : Fed src a mid) (second : Fed mid b rest) : Fed src (a ++ b) rest := by
  induction first with
  | none => exact second
  | call offered _ ih => exact .call offered (ih second)

theorem consumed (h : Fed src calls rest) : calls.consumed ++ rest = src := by
  induction h with
  | none => rfl
  | @call src rest call calls offered _ ih =>
    have hcons : Ledger.consumed (call :: calls) = call.consumed ++ Ledger.consumed calls := rfl
    rw [hcons, List.append_assoc, ih, EngineCall.consumed, offered, List.take_append_drop]

/-- The source is used up exactly if the last call took all that it was offered. -/
theorem whole_iff (h : Fed src calls rest) (hnone : calls = [] → src = []) :
    rest = [] ↔ calls.TakesAll := by
  induction h with
  | none src => exact ⟨fun _ _ => nofun, fun _ => hnone rfl⟩
  | @call src rest call calls offered later ih =>
    cases calls with
    | nil =>
      cases later
      rw [List.drop_eq_nil_iff, ← offered, ← List.take_eq_self_iff]
      constructor
      · rintro hall last ⟨⟩
        exact hall
      · intro hall
        exact hall call rfl
    | cons next calls =>
      rw [ih nofun, TakesAll, TakesAll, List.getLast?_cons_cons]

end Fed

end Ledger

namespace EncoderSession

theorem fed_settle (op : FlushOp) (w : Windows) (reply : Reply) :
    Ledger.Fed (octets w.src.unread) [⟨.encode op, w.src.unread, w.dst.unwritten, reply⟩]
      (octets (w.settle reply).src.unread) := by
  have hrest : octets (w.settle reply).src.unread =
      (octets w.src.unread).drop (w.src.unread.size - reply.leftIn) := by
    rw [Windows.settle, CursorBuffer.octets_unread_consume, CursorBuffer.size_unread]
  rw [hrest]
  exact .call rfl (.none _)

/-- The source of a drive goes through its calls, and only a full destination is no call at all. -/
theorem drive_fed {engine : EncoderEngine ω σ} (op : FlushOp) (s : EncoderSession (ω × Ledger) σ)
    (he : s.engine = engine.recording) (handle : σ) (w : Windows) (stalled : Nat) :
    ∃ calls, (drive op s handle w stalled).2.1.world.2 = s.world.2 ++ calls ∧
      Ledger.Fed (octets w.src.unread) calls (octets (drive op s handle w stalled).2.2.src.unread) ∧
      ((drive op s handle w stalled).1 ≠ .destinationTooSmall → calls ≠ []) := by
  fun_induction drive op s handle w stalled with
  | case1 s handle w stalled hfull =>
    exact ⟨[], (List.append_nil _).symm, .none _, fun h => absurd rfl h⟩
  | case2 s handle w stalled hroom reply handle' world hcall
  | case4 s handle w stalled hroom reply handle' world hcall
  | case5 s handle w stalled hroom reply handle' world hcall
  | case6 s handle w stalled hroom reply handle' world hcall =>
    exact ⟨_, (charged_record he op handle w hcall).ledger, fed_settle op w reply,
      fun _ => List.cons_ne_nil _ _⟩
  | case3 s handle w stalled hroom reply handle' world hcall =>
    exact ⟨_, ((charged_record he op handle w hcall).settled op).ledger, fed_settle op w reply,
      fun _ => List.cons_ne_nil _ _⟩
  | case7 s handle w stalled hroom reply handle' world hcall
  | case8 s handle w stalled hroom reply handle' world hcall =>
    rename_i ih
    obtain ⟨calls, hledger, hfed, -⟩ := ih he
    have hfirst := (charged_record he op handle w hcall).ledger
    exact ⟨_, by rw [hledger, hfirst, List.append_assoc], (fed_settle op w reply).trans hfed,
      fun _ => List.cons_ne_nil _ _⟩

theorem compress_fed (op : FlushOp) (s : EncoderSession ω σ) (w : Windows) :
    Ledger.Fed (octets w.src.unread) (s.calls op w) (octets (s.compress op w).2.2.src.unread) := by
  rcases hopened : s.opened with ⟨e | handle, s'⟩
  · simp only [calls, compress, recorded_opened, hopened]
    exact .none _
  · have hrun := compress_opened op hopened w
    split at hrun
    · obtain ⟨hcompress, hcalls⟩ := Prod.mk.inj hrun
      rw [hcompress, hcalls]
      split <;> exact .none _
    · split at hrun
      · obtain ⟨hcompress, hcalls⟩ := Prod.mk.inj hrun
        rw [hcompress, hcalls]
        exact .none _
      · obtain ⟨hcompress, hcalls⟩ := Prod.mk.inj hrun
        obtain ⟨calls, hledger, hfed, -⟩ := drive_fed op (s'.recorded []) rfl handle w 0
        obtain ⟨ledger, hsame⟩ := recorded_drive op s' handle w 0 []
        have hall : (drive op (s'.recorded []) handle w 0).2.1.world.2 = calls := hledger
        rw [hsame] at hfed
        rw [hcompress, hcalls, hall]
        exact hfed

theorem opened_of_compress {op : FlushOp} {s s' : EncoderSession ω σ} {w w' : Windows}
    {status : Status} (h : s.compress op w = (.ok status, s', w')) :
    ∃ handle s₁, s.opened = (.ok handle, s₁) := by
  rcases hopened : s.opened with ⟨e | handle, s₁⟩
  · simp only [compress, hopened] at h
    cases h
  · exact ⟨handle, s₁, rfl⟩

theorem moved_of_compress {op : FlushOp} {s s' : EncoderSession ω σ} {w w' : Windows}
    {status : Status} (h : s.compress op w = (.ok status, s', w')) : Moved (s.calls op w) w w' := by
  obtain ⟨handle, s₁, hopened⟩ := opened_of_compress h
  have houtcome : Outcome op s w (s.calls op w) (s.compress op w) := outcome_opened hopened w
  rw [h] at houtcome
  exact houtcome.moved

/-- A finish that is done without a call had nothing to take in. -/
theorem src_of_done {s s' : EncoderSession ω σ} {w w' : Windows}
    (h : s.compress .finish w = (.ok .done, s', w')) (hnone : s.calls .finish w = []) :
    octets w.src.unread = [] := by
  obtain ⟨handle, s₁, hopened⟩ := opened_of_compress h
  have hrun := compress_opened .finish hopened w
  rw [h, hnone] at hrun
  split at hrun
  · split at hrun
    · next hempty =>
      rw [Bool.and_eq_true] at hempty
      exact w.src.octets_unread_eq_nil_iff.mpr hempty.1
    · cases hrun
  · rw [if_neg (by simp [isIdle])] at hrun
    obtain ⟨hdone, hledger⟩ := Prod.mk.inj hrun
    obtain ⟨calls, hall, -, hsome⟩ := drive_fed .finish (s₁.recorded []) rfl handle w 0
    obtain ⟨ledger, hsame⟩ := recorded_drive .finish s₁ handle w 0 []
    have hstatus : Status.done = (drive .finish s₁ handle w 0).1 :=
      Except.ok.inj (Prod.mk.inj hdone).1
    rw [← hledger] at hall
    have hcalls : calls = [] := (List.append_eq_nil_iff.mp hall.symm).2
    refine absurd hcalls (hsome ?_)
    rw [hsame, ← hstatus]
    decide

end EncoderSession

/-- An engine that ends a stream only in a call that takes all it is offered. -/
def EncoderEngine.EndsDrained (engine : EncoderEngine ω σ) : Prop :=
  ∀ input room handle world reply handle' world',
    engine.compress .finish input room handle world = (reply, handle', world') →
    engine.isFinished handle = false → engine.isFinished handle' = true →
    input.size - reply.leftIn = input.size

/-- The Zstandard encoder is one, whatever its library answers. -/
theorem Zstd.encoder_endsDrained (backend : Zstd.Backend ω) :
    (Zstd.encoder backend).EndsDrained := by
  intro input room handle world reply handle' world' hcall hbefore hafter
  simp only [Zstd.encoder] at hcall hbefore hafter
  split at hcall
  · cases hcall
    rw [hbefore] at hafter
    cases hafter
  · split at hcall
    · cases hcall
      rw [hbefore] at hafter
      cases hafter
    · next p _ _ hall =>
      split at hcall
      · cases hcall
        rw [Progress.reply, Progress.advance]
        dsimp only
        omega
      all_goals
        cases hcall
        rw [hbefore] at hafter
        cases hafter

namespace EncoderSession

theorem drive_drained (s : EncoderSession ω σ) (hd : s.engine.EndsDrained) (handle : σ)
    (hunfinished : s.engine.isFinished handle = false) (w : Windows) (stalled : Nat) :
    (drive .finish s handle w stalled).1 = .done →
      (drive .finish s handle w stalled).2.2.src.isEmpty = true := by
  fun_induction drive .finish s handle w stalled with
  | case1 | case2 | case4 | case6 =>
    intro h
    cases h
  | case3 s handle w stalled hroom reply handle' world hcall s' w' hdone =>
    intro _
    have hall := hd _ _ _ _ _ _ _ hcall hunfinished hdone
    rw [CursorBuffer.size_unread] at hall
    rw [CursorBuffer.isEmpty_iff, w.availableRead_settle, Windows.consumed]
    omega
  | case5 s handle w stalled hroom reply handle' world hcall s' w' _ _ _ pending hp => simp at hp
  | case7 s handle w stalled hroom reply handle' world hcall s' w' hmore
  | case8 s handle w stalled hroom reply handle' world hcall s' w' hmore =>
    rename_i ih
    exact ih hd (Bool.not_eq_true _ ▸ hmore)

theorem compress_drained {s s' : EncoderSession ω σ} {w w' : Windows}
    (hd : s.engine.EndsDrained) (h : s.compress .finish w = (.ok .done, s', w')) :
    octets w'.src.unread = [] := by
  rw [CursorBuffer.octets_unread_eq_nil_iff]
  obtain ⟨handle, s₁, hopened⟩ := opened_of_compress h
  have hengine : s₁.engine = s.engine := (frame_of_opened hopened).1.engine
  simp only [compress, hopened] at h
  split at h
  · split at h
    · next hempty =>
      cases h
      exact (Bool.and_eq_true_iff.mp hempty).1
    · cases h
  · next hunfinished =>
    rw [if_neg (by simp [isIdle])] at h
    have hdrained := drive_drained s₁ (hengine ▸ hd) handle (eq_false_of_ne_true hunfinished) w 0
    obtain ⟨hstatus, hrest⟩ := Prod.mk.inj h
    obtain ⟨-, rfl⟩ := Prod.mk.inj hrest
    exact hdrained (Except.ok.inj hstatus)

end EncoderSession

namespace Compressor

theorem isFinished_of_complete {c d : Compressor ω σ} (hbefore : c.isCompleted = false)
    (h : c.complete = (.ok (), d)) : d.session.isFinished = true := by
  have hcompletion := c.completion
  rw [h] at hcompletion
  generalize hanswer : ((Except.ok (), d) : Except CodecError Unit × Compressor ω σ) = answer
    at hcompletion
  cases hcompletion with
  | disposed => cases hanswer
  | already _ hcomplete =>
    rw [hbefore] at hcomplete
    cases hcomplete
  | fails => cases hanswer
  | @finishes d' _ _ hdrive =>
    have hfinished : Finished (c.driveIdle .finish).2 := finished_of_drive (congrArg Prod.fst hdrive)
    rw [hdrive] at hfinished
    have hflush := (flushSink_only { d' with isCompleted := true }).2
    rw [← hanswer] at hflush
    have hsession : d.session = d'.session := congrArg (·.session) hflush
    rw [hsession]
    exact hfinished.isFinished

end Compressor

namespace Block

variable {ε δ : Type}

/-- What it says that a stream of a source is finished: its bytes are what the engine produced, and
the source is in it whole exactly if the call that ended it took all that it was offered. -/
structure Ended (src : ByteArray) (s : EncoderSession ω ε) (calls : Ledger) (bytes : List UInt8) :
    Prop where
  finished : s.isFinished = true
  bytes : bytes = calls.produced
  whole : calls.consumed = octets src ↔ calls.TakesAll
  drained : s.engine.EndsDrained → calls.consumed = octets src

theorem ended_of_done {src : ByteArray} {before : Ledger} {s s' : EncoderSession ω ε}
    {w w' : Windows} {bytes : List UInt8}
    (hbefore : Ledger.Fed (octets src) before (octets w.src.unread))
    (h : s.compress .finish w = (.ok .done, s', w'))
    (hbytes : bytes = (before ++ s.calls .finish w).produced) :
    Ended src s' (before ++ s.calls .finish w) bytes := by
  have hfed := EncoderSession.compress_fed .finish s w
  rw [h] at hfed
  have hall := hbefore.trans hfed
  have hconsumed := hall.consumed
  have hrest : (before ++ s.calls .finish w).consumed = octets src ↔ octets w'.src.unread = [] := by
    rw [← hconsumed]
    simp
  refine ⟨EncoderSession.isFinished_of_compress h (.inl rfl), hbytes, ?_, fun hdrained => ?_⟩
  · rw [hrest]
    refine hall.whole_iff fun hnone => ?_
    obtain ⟨rfl, hcalls⟩ := List.append_eq_nil_iff.mp hnone
    exact hbefore.consumed.symm.trans (EncoderSession.src_of_done h hcalls)
  · have hframe := EncoderSession.compress_frame .finish s w
    rw [h] at hframe
    rw [hrest]
    exact EncoderSession.compress_drained (hframe.engine ▸ hdrained) h

/-- The engine calls that compress a block, and the session after them. -/
def passes (s : EncoderSession ω ε) (src dst : ByteArray) : Ledger × EncoderSession ω ε :=
  let calls := s.calls .finish ⟨.filled src, .empty dst⟩
  match s.compress .finish ⟨.filled src, .empty dst⟩ with
  | (.ok .destinationTooSmall, s, w) =>
    (calls ++ s.calls .finish ⟨w.src, spare⟩, (s.compress .finish ⟨w.src, spare⟩).2.1)
  | (_, s, _) => (calls, s)

/-- A block that was compressed is what the engine produced up to its end. -/
theorem compress_ended (registry : Registry ω ε δ) (lz4 : BlockFormat) {world world' : ω}
    {options : CodecOptions} {src dst dst' : ByteArray} {n : Nat} (hcodec : options.codec ≠ .lz4)
    (h : compress registry lz4 world options src dst = (.ok n, dst', world')) :
    ∃ s, EncoderSession.new registry world options = .ok s ∧
      (passes s src dst).2.world = world' ∧ n = (passes s src dst).1.produced.length ∧ n ≤ dst.size ∧
      Ended src (passes s src dst).2 (passes s src dst).1 ((octets dst').take n) := by
  rw [compress, if_neg hcodec] at h
  split at h
  · cases h
  · next s hnew =>
    refine ⟨s, hnew, ?_⟩
    have hfed := EncoderSession.compress_fed .finish s ⟨.filled src, .empty dst⟩
    dsimp only at hfed
    rw [CursorBuffer.octets_unread_filled] at hfed
    split at h
    · cases h
    · next s₁ w hrun =>
      cases h
      obtain ⟨hcount, hsize, hbytes⟩ := (EncoderSession.moved_of_compress hrun).of_empty
      have hfit := w.dst.size_le_capacity
      have hstart : Ledger.Fed (octets src) []
          (octets (Windows.mk (.filled src) (.empty dst)).src.unread) := by
        rw [CursorBuffer.octets_unread_filled]
        exact .none _
      simp only [passes, hrun]
      exact ⟨trivial, hcount, hsize ▸ hfit, ended_of_done hstart hrun hbytes⟩
    · next s₁ w hrun =>
      obtain ⟨hcount, hsize, hbytes⟩ := (EncoderSession.moved_of_compress hrun).of_empty
      have hfit := w.dst.size_le_capacity
      rw [hrun] at hfed
      simp only [passes, hrun]
      unfold compressSpare at h
      rcases hrest : s₁.compress .finish ⟨w.src, spare⟩ with ⟨e | status, s₂, spill⟩
      all_goals simp only [hrest] at h ⊢
      · cases h
      · cases status with
        | done =>
          obtain ⟨hspilled, -, -⟩ := (EncoderSession.moved_of_compress hrest).of_empty
          dsimp only at h
          split at h
          · next hnone =>
            cases h
            have hproduced : (s.calls .finish ⟨.filled src, .empty dst⟩ ++
                s₁.calls .finish ⟨w.src, spare⟩).produced =
                  (s.calls .finish ⟨.filled src, .empty dst⟩).produced := by
              rw [Ledger.produced_append,
                List.length_eq_zero_iff.mp (hspilled.symm.trans hnone), List.append_nil]
            exact ⟨rfl, hproduced ▸ hcount, hsize ▸ hfit,
              ended_of_done hfed hrest (hbytes.trans hproduced.symm)⟩
          · cases h
        | destinationTooSmall | needMoreData | invalidData => cases h
    · cases h
    · cases h

/-! ## Blocks that grow -/

/-- The compressor that a growing block leaves once all of the source is written and the stream is
finished. -/
def written (c : Compressor ω ε) (src : ByteArray) : Compressor ω ε := (writeRest c src).2.finish.2

theorem recorded_writeRest (c : Compressor ω ε) (rest : ByteArray) (ledger : Ledger) :
    Compressor.Same (writeRest c rest) (writeRest (c.recorded ledger) rest) := by
  fun_induction writeRest c rest generalizing ledger with
  | case1 c rest hnone =>
    rw [writeRest, dif_pos hnone]
    exact .pair _ c ledger
  | case2 c rest hsome e c' hwrite =>
    obtain ⟨ledger', hsame⟩ := Compressor.recorded_write c rest ledger
    rw [hwrite] at hsame
    rw [writeRest, dif_neg hsome, hsame]
    exact .pair _ c' ledger'
  | case3 c rest hsome c' hwrite =>
    obtain ⟨ledger', hsame⟩ := Compressor.recorded_write c rest ledger
    rw [hwrite] at hsame
    rw [writeRest, dif_neg hsome, hsame]
    exact .pair _ c' ledger'
  | case4 c rest hsome n c' hwrite hn ih =>
    obtain ⟨ledger', hsame⟩ := Compressor.recorded_write c rest ledger
    rw [hwrite] at hsame
    have hrecorded : writeRest (c.recorded ledger) rest =
        writeRest (c'.recorded ledger') (rest.extract n rest.size) := by
      rw [writeRest, dif_neg hsome, hsame]
      dsimp only
      rw [dif_neg hn]
    rw [hrecorded]
    exact ih ledger'

theorem isCompleted_writeRest (c : Compressor ω ε) (rest : ByteArray) :
    (writeRest c rest).2.isCompleted = c.isCompleted := by
  fun_induction writeRest c rest with
  | case1 => rfl
  | case2 c rest hsome e c' hwrite | case3 c rest hsome c' hwrite =>
    have hframe := (c.write_frame rest).isCompleted
    rw [hwrite] at hframe
    exact hframe
  | case4 c rest hsome n c' hwrite hn ih =>
    have hframe := (c.write_frame rest).isCompleted
    rw [hwrite] at hframe
    exact ih.trans hframe

/-- Once all of a source is written, the engine has consumed it. The induction is on the writes, each
of which answers how much of the front of the rest it consumed. -/
theorem balanced_writeRest {base : List UInt8} {c c' : Compressor (ω × Ledger) ε} {rest : ByteArray}
    (hb : c.Balanced base) (hcap : 0 < c.output.capacity) (h : writeRest c rest = (.ok (), c')) :
    ∃ calls, c'.Balanced base ∧ 0 < c'.output.capacity ∧ c'.ledger = c.ledger ++ calls ∧
      calls.consumed = octets rest := by
  fun_induction writeRest c rest with
  | case1 c rest hnone =>
    obtain rfl := (Prod.mk.inj h).2
    exact ⟨[], hb, hcap, (List.append_nil _).symm, ((octets_eq_nil_iff rest).mpr hnone).symm⟩
  | case2 => cases h
  | case3 => cases h
  | case4 c rest hsome n d hwrite hn ih =>
    obtain ⟨calls, sizes, hkeeps, hfront, hcount⟩ := hb.write hcap rest
    rw [hwrite] at hkeeps hcount
    obtain ⟨calls', hb', hcap', hledger, hrest⟩ :=
      ih hkeeps.balanced (hkeeps.progress.capacity ▸ hcap) h
    refine ⟨calls ++ calls', hb', hcap', ?_, ?_⟩
    · rw [hledger, hkeeps.progress.ledger, List.append_assoc]
    · have htaken := List.prefix_iff_eq_take.mp hfront
      rw [hcount n rfl] at htaken
      rw [Ledger.consumed_append, hrest, htaken, octets_extract_size, List.take_append_drop]

/-- A growing block over a recording engine, from a compressor that did nothing yet. -/
theorem written_vouches {c : Compressor (ω × Ledger) ε} {src v : ByteArray} {options : StreamOptions}
    {d : Compressor (ω × Ledger) ε} (hfresh : c.Fresh {} options) (hincomplete : c.isCompleted = false)
    (hwritten : writeRest c src = (.ok (), d)) {sink : Sink} {d' : Compressor (ω × Ledger) ε}
    (hfinish : d.finish = (.ok sink, d')) (hv : sink.data = v) :
    d'.session.isFinished = true ∧ octets v = d'.ledger.produced ∧
      d'.ledger.consumed = octets src := by
  have hcap : 0 < c.output.capacity := by
    rw [hfresh.output, CursorBuffer.capacity_withCapacity]
    exact options.capacity_pos
  have hsteady : Sink.Steady {} := by unfold Sink.Steady; simp
  obtain ⟨calls, hb, hcap', hledger, hconsumed⟩ :=
    balanced_writeRest (hfresh.balanced hsteady) hcap hwritten
  obtain ⟨calls', sizes, hkeeps, hnone⟩ := hb.complete hcap'
  have hstill : d.isCompleted = false := by
    have hsame := isCompleted_writeRest c src
    rw [hwritten, hincomplete] at hsame
    exact hsame
  unfold Compressor.finish at hfinish
  split at hfinish
  · cases hfinish
  · next d₁ hcomplete =>
    have hend := Compressor.isFinished_of_complete hstill hcomplete
    rw [hcomplete] at hkeeps
    split at hfinish
    · cases hfinish
      have hall : d₁.ledger = calls ++ calls' := by
        rw [hkeeps.progress.ledger, hledger, hfresh.ledger, List.nil_append]
      refine ⟨hend, ?_, ?_⟩
      · rw [← hv]
        exact hkeeps.balanced.sink
      · have hconsumed' : d₁.ledger.consumed = octets src := by
          rw [hall, Ledger.consumed_append, hconsumed, hnone, List.append_nil]
        exact hconsumed'
    · cases hfinish

/-- A growing block that was compressed is what the engine produced up to its end, and all of the
source is in it. -/
theorem compressGrowing_ended (registry : Registry ω ε δ) {world world' : ω} {options : CodecOptions}
    {src v : ByteArray} (h : compressGrowing registry world options src = (.ok v, world')) :
    ∃ c world₁, Compressor.new registry world {} options {} = (.ok c, world₁) ∧
      (written c src).session.world = world' ∧ (written c src).session.isFinished = true ∧
      octets v = (written (c.recorded []) src).ledger.produced ∧
      (written (c.recorded []) src).ledger.consumed = octets src := by
  unfold compressGrowing at h
  split at h
  · cases h
  · next c world₁ hnew =>
    refine ⟨c, world₁, hnew, ?_⟩
    have hfresh := Compressor.fresh_new registry world {} options {} hnew
    have hincomplete : c.isCompleted = false := by
      obtain ⟨_, _, _, _, -, -, -, rfl⟩ := Compressor.created hnew
      rfl
    obtain ⟨ledger, hrecorded⟩ := recorded_writeRest c src []
    split at h
    · cases h
    · next d hwritten =>
      rw [hwritten] at hrecorded
      obtain ⟨ledger', hfinished⟩ := Compressor.recorded_finish d ledger
      split at h
      · cases h
      · next sink d' hfinish =>
        obtain ⟨hv, hworld⟩ := Prod.mk.inj h
        rw [hfinish] at hfinished
        obtain ⟨hend, hproduced, hconsumed⟩ :=
          written_vouches hfresh hincomplete hrecorded hfinished (Except.ok.inj hv)
        have hplain : written c src = d' := by rw [written, hwritten, hfinish]
        have hledger : written (c.recorded []) src = d'.recorded ledger' := by
          rw [written, hrecorded, hfinished]
        rw [hplain, hledger]
        exact ⟨hworld, hend, hproduced, hconsumed⟩

/-- Over an engine that keeps its contract a growing block is compressed. -/
theorem compressGrowing_encodes {registry : Registry ω ε δ} {world world' : ω} {options : CodecOptions}
    {factory : Factory ω ε δ} {view : EncoderView ω ε} {c : Compressor ω ε}
    (hfactory : registry.factory options.codec = .ok factory)
    (hc : factory.encoder.Encodes options.encoderParameters view)
    (hnew : Compressor.new registry world {} options {} = (.ok c, world')) {src : ByteArray}
    (hsome : src.size ≠ 0) :
    ∃ v world'', compressGrowing registry world options src = (.ok v, world'') := by
  have hsteady : Sink.Steady {} := by unfold Sink.Steady; simp
  have hrest := Compressor.resting_new hfactory hc hsteady nofun hnew
  obtain ⟨c', y', hwrite, hrest'⟩ := hrest.write hc src
  obtain ⟨sink, y'', handle, world₁, hfinish, -⟩ := hrest'.finish hc
  have hwritten : writeRest c src = (.ok (), c') := by
    rw [writeRest, dif_neg hsome, hwrite]
    dsimp only
    rw [dif_neg hsome, writeRest, dif_pos (by rw [ByteArray.size_extract]; omega)]
  have hback : c'.finish = (.ok sink, c'.finish.2) := by rw [← hfinish]
  refine ⟨sink.data, c'.finish.2.session.world, ?_⟩
  rw [compressGrowing, hnew]
  dsimp only
  rw [hwritten]
  dsimp only
  rw [hback]

/-! ## Both -/

/-- What a compressed block vouches for. Over a destination of any size, and over one of the
worst-case size: the engine has come to its end, the bytes are what it produced, and the source is in
them whole exactly if its last call took all that it was offered, as it does for any engine that ends
drained. Over a destination that grows the source is always whole. -/
theorem blocks_vouch (registry : Registry ω ε δ) (lz4 : BlockFormat) (world : ω)
    (options : CodecOptions) (src : ByteArray) (hcodec : options.codec ≠ .lz4) :
    (∀ dst n dst' world', compress registry lz4 world options src dst = (.ok n, dst', world') →
      ∃ s, EncoderSession.new registry world options = .ok s ∧
        (passes s src dst).2.world = world' ∧ n = (passes s src dst).1.produced.length ∧
        n ≤ dst.size ∧ Ended src (passes s src dst).2 (passes s src dst).1 ((octets dst').take n)) ∧
    (∀ bound v world', maxCompressedLen options.codec (UInt64.ofNat src.size) = some bound →
      compressToNew registry lz4 world options src = (.ok v, world') →
      ∃ s, EncoderSession.new registry world options = .ok s ∧
        (passes s src ⟨Array.replicate bound.toNat 0⟩).2.world = world' ∧
        Ended src (passes s src ⟨Array.replicate bound.toNat 0⟩).2
          (passes s src ⟨Array.replicate bound.toNat 0⟩).1 (octets v)) ∧
    (∀ v world', maxCompressedLen options.codec (UInt64.ofNat src.size) = none →
      compressToNew registry lz4 world options src = (.ok v, world') →
      ∃ c world₁, Compressor.new registry world {} options {} = (.ok c, world₁) ∧
        (written c src).session.world = world' ∧ (written c src).session.isFinished = true ∧
        octets v = (written (c.recorded []) src).ledger.produced ∧
        (written (c.recorded []) src).ledger.consumed = octets src) := by
  refine ⟨fun dst n dst' world' => compress_ended registry lz4 hcodec, ?_, ?_⟩
  · intro bound v world' hbound h
    rw [compressToNew, hbound] at h
    dsimp only at h
    split at h
    · next n dst' world₁ hrun =>
      obtain ⟨hv, rfl⟩ := Prod.mk.inj h
      obtain ⟨s, hnew, hworld, -, -, hended⟩ := compress_ended registry lz4 hcodec hrun
      have hbytes : octets v = (octets dst').take n := by
        rw [← Except.ok.inj hv, octets_extract_zero]
      exact ⟨s, hnew, hworld, hbytes ▸ hended⟩
    · cases h
  · intro v world' hbound h
    rw [compressToNew, hbound] at h
    exact compressGrowing_ended registry h

end Block

namespace Marked

def registryOf (codec : Codec) : Registry Unit Encoder Decoder :=
  { factories := [⟨⟨codec, "marked", "1"⟩, Encoder.engine, Decoder.engine⟩] }

/-- An encoder that ends the stream before it takes anything in. -/
def hasty : EncoderEngine Unit Bool where
  create world := (.ok false, world)
  setParameter _ ended world := (true, ended, world)
  compress _ input room _ world := (reply input.size [0] room .ok, true, world)
  hasMoreOutput _ := false
  isFinished ended := ended

def hastyRegistry : Registry Unit Bool Decoder :=
  { factories := [⟨⟨.brotli, "hasty", "1"⟩, hasty, Decoder.engine⟩] }

end Marked

/-- The stream of two bytes, in a destination of its own size, in one of the worst-case size, and
in one that grows. -/
theorem Block.blocks_vouch_marked :
    (∃ s, EncoderSession.new Marked.registry () Marked.options = .ok s ∧
      Ended ⟨#[97, 98]⟩ (passes s ⟨#[97, 98]⟩ ⟨#[7, 7, 7, 7, 7]⟩).2
        (passes s ⟨#[97, 98]⟩ ⟨#[7, 7, 7, 7, 7]⟩).1 [1, 97, 1, 98, 0]) ∧
    (∃ s v, EncoderSession.new Marked.registry () Marked.options = .ok s ∧
      Ended ⟨#[97, 98]⟩ (passes s ⟨#[97, 98]⟩ ⟨Array.replicate 8 0⟩).2
        (passes s ⟨#[97, 98]⟩ ⟨Array.replicate 8 0⟩).1 (octets v)) ∧
    ∃ c world, Compressor.new (Marked.registryOf .xz) () {} { codec := .xz } {} = (.ok c, world) ∧
      (written c ⟨#[97, 98]⟩).session.isFinished = true ∧
      (written (c.recorded []) ⟨#[97, 98]⟩).ledger.consumed = [97, 98] := by
  have hcodec : Marked.options.codec ≠ .lz4 := by decide
  have hxz : ({ codec := .xz } : CodecOptions).codec ≠ .lz4 := by decide
  have hfits (dst : ByteArray) := compress_fits Marked.registry Format.Lz4.format () ⟨#[97, 98]⟩ dst
    hcodec rfl rfl (Marked.Encoder.emits _ [97, 98]) rfl (Marked.Encoder.configure _ _ _)
  have hvouch := blocks_vouch Marked.registry Format.Lz4.format () Marked.options ⟨#[97, 98]⟩ hcodec
  refine ⟨?_, ?_, ?_⟩
  · obtain ⟨hok, hbytes⟩ := (hfits ⟨#[7, 7, 7, 7, 7]⟩).fits (by decide)
    obtain ⟨s, hnew, -, -, -, hended⟩ := hvouch.1 _ _ _ _ (Prod.ext hok rfl)
    rw [hbytes] at hended
    exact ⟨s, hnew, hended⟩
  · have hbound : maxCompressedLen Marked.options.codec (UInt64.ofNat 2) = some 8 := rfl
    have hok := ((hfits ⟨Array.replicate (8 : UInt64).toNat 0⟩).fits (by decide)).1
    have hrun : (compressToNew Marked.registry Format.Lz4.format () Marked.options ⟨#[97, 98]⟩).1 =
        .ok ((compress Marked.registry Format.Lz4.format () Marked.options ⟨#[97, 98]⟩
          ⟨Array.replicate (8 : UInt64).toNat 0⟩).2.1.extract 0 5) := by
      have hsize : (⟨#[97, 98]⟩ : ByteArray).size = 2 := rfl
      rw [compressToNew, hsize, hbound]
      dsimp only
      generalize compress Marked.registry Format.Lz4.format () Marked.options ⟨#[97, 98]⟩
        ⟨Array.replicate (8 : UInt64).toNat 0⟩ = result at hok ⊢
      obtain ⟨answer, dst', world'⟩ := result
      cases hok
      rfl
    obtain ⟨s, hnew, -, hended⟩ := hvouch.2.1 8 _ _ hbound (Prod.ext hrun rfl)
    exact ⟨s, _, hnew, hended⟩
  · have hnew : Compressor.new (Marked.registryOf .xz) () {} { codec := .xz } {} = (.ok _, ()) := rfl
    have hsome : (⟨#[97, 98]⟩ : ByteArray).size ≠ 0 := by decide
    obtain ⟨v, world, hrun⟩ :=
      compressGrowing_encodes rfl (Marked.Encoder.encodes _) hnew hsome
    obtain ⟨c, world₁, hnew', -, hend, -, hconsumed⟩ :=
      (blocks_vouch (Marked.registryOf .xz) Format.Lz4.format () { codec := .xz } ⟨#[97, 98]⟩ hxz).2.2
        v world rfl hrun
    exact ⟨c, world₁, hnew', hend, hconsumed⟩

/-- An engine that ends the stream early has a block compressed without a byte of its source. -/
theorem Block.source_left_behind :
    ∃ s, EncoderSession.new Marked.hastyRegistry () Marked.options = .ok s ∧
      (compress Marked.hastyRegistry Format.Lz4.format () Marked.options ⟨#[97, 98]⟩ ⟨#[7]⟩).1 = .ok 1 ∧
      (passes s ⟨#[97, 98]⟩ ⟨#[7]⟩).1.consumed ≠ octets ⟨#[97, 98]⟩ ∧
      (compressToNew Marked.hastyRegistry Format.Lz4.format () Marked.options ⟨#[97, 98]⟩).1 =
        .ok ⟨#[0]⟩ ∧
      (passes s ⟨#[97, 98]⟩ ⟨Array.replicate 8 0⟩).1.consumed ≠ octets ⟨#[97, 98]⟩ := by
  refine ⟨_, rfl, by cbv, ?_, by cbv, ?_⟩
  all_goals
    have hnone : ∀ calls : Ledger, calls.consumed = [] → calls.consumed ≠ octets ⟨#[97, 98]⟩ := by
      intro calls h
      rw [h]
      decide
    exact hnone _ (by cbv)

end StreamCodec
