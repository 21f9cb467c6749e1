import StreamCodec.Async.Compressor
import StreamCodec.Proofs.CompressorSteps

/-!
# What drives leave alone

A drive moves bytes and nothing else: the engine in use, whether the session is
disposed of, whether the stream is completed and whose the sink is are all as
before. A drive that finishes the stream and succeeds says more: the engine has
come to its end, and the output that it left behind went to the sink whole.
-/
namespace StreamCodec

variable {ω σ : Type}

namespace EncoderSession

/-- What an operation leaves of a session as it was. -/
structure Frame (s s' : EncoderSession ω σ) : Prop where
  engine : s'.engine = s.engine
  isDisposed : s'.isDisposed = s.isDisposed
  ready : s.IsReady → s'.IsReady

namespace Frame

theorem refl (s : EncoderSession ω σ) : Frame s s := ⟨rfl, rfl, id⟩

theorem trans {s s' s'' : EncoderSession ω σ} (first : Frame s s') (second : Frame s' s'') :
    Frame s s'' where
  engine := second.engine.trans first.engine
  isDisposed := second.isDisposed.trans first.isDisposed
  ready h := second.ready (first.ready h)

theorem record (s : EncoderSession ω σ) (w : Windows) (reply : Reply) (handle : σ) (world : ω) :
    Frame s (s.record w reply handle world) :=
  ⟨rfl, rfl, fun _ _ => rfl⟩

theorem settled {s s' : EncoderSession ω σ} (h : Frame s s') (op : FlushOp) :
    Frame s (s'.settled op) := by
  unfold EncoderSession.settled
  split
  · exact h
  · exact ⟨h.engine, h.isDisposed, h.ready⟩

end Frame

theorem drive_frame (op : FlushOp) (s : EncoderSession ω σ) (handle : σ) (w : Windows)
    (stalled : Nat) : Frame s (drive op s handle w stalled).2.1 := by
  fun_induction drive op s handle w stalled with
  | case1 s => exact .refl s
  | case2 s | case4 s | case5 s | case6 s => exact ⟨rfl, rfl, fun _ _ => rfl⟩
  | case3 s handle w stalled _ reply handle' world => exact (Frame.record s w reply handle' world).settled op
  | case7 s handle w stalled _ reply handle' world _ s' w' _ _ _ _ _ _ _ ih =>
    exact (Frame.record s w reply handle' world).trans ih
  | case8 s handle w stalled _ reply handle' world _ s' w' _ _ _ _ ih =>
    exact (Frame.record s w reply handle' world).trans ih

/-- A session that was opened has its engine at hand, and is the one it was otherwise. -/
theorem frame_of_opened {s s' : EncoderSession ω σ} {result : Except CodecError σ}
    (h : s.opened = (result, s')) :
    Frame s s' ∧ ∀ handle, result = .ok handle → s'.handle = some handle := by
  unfold opened at h
  split at h
  · obtain ⟨rfl, rfl⟩ := Prod.mk.inj h
    exact ⟨.refl s, nofun⟩
  · split at h
    · next handle hhandle =>
      obtain ⟨rfl, rfl⟩ := Prod.mk.inj h
      exact ⟨.refl s, fun _ hok => hhandle.trans (congrArg some (Except.ok.inj hok))⟩
    · next hnone =>
      split at h
      · obtain ⟨rfl, rfl⟩ := Prod.mk.inj h
        exact ⟨⟨rfl, rfl, id⟩, nofun⟩
      · split at h
        · obtain ⟨rfl, rfl⟩ := Prod.mk.inj h
          exact ⟨⟨rfl, rfl, id⟩, nofun⟩
        · obtain ⟨rfl, rfl⟩ := Prod.mk.inj h
          exact ⟨⟨rfl, rfl, fun _ _ => rfl⟩, fun _ hok => congrArg some (Except.ok.inj hok)⟩

theorem compress_frame (op : FlushOp) (s : EncoderSession ω σ) (w : Windows) :
    Frame s (s.compress op w).2.1 := by
  rcases hopened : s.opened with ⟨_ | handle, s'⟩
  · simp only [compress, hopened]
    exact (frame_of_opened hopened).1
  · have hframe := (frame_of_opened hopened).1
    simp only [compress, hopened]
    split
    · split <;> exact hframe
    · split
      · exact hframe
      · exact hframe.trans (drive_frame op s' handle w 0)

theorem isFinished_of_drive (s : EncoderSession ω σ) (handle : σ) (w : Windows) (stalled : Nat) :
    (drive .finish s handle w stalled).1 = .done ∨ (drive .finish s handle w stalled).1 = .needMoreData →
      (drive .finish s handle w stalled).2.1.isFinished = true := by
  fun_induction drive .finish s handle w stalled with
  | case1 | case2 | case4 | case6 => simp
  | case3 s handle w stalled _ reply handle' world _ s' w' hdone => exact fun _ => hdone
  | case5 s handle w stalled _ reply handle' world _ s' w' _ _ _ pending hp => simp at hp
  | case7 s handle w stalled _ reply handle' world _ s' w' _ _ _ _ _ _ _ ih => exact ih
  | case8 s handle w stalled _ reply handle' world _ s' w' _ _ _ _ ih => exact ih

theorem isFinished_of_compress {s s' : EncoderSession ω σ} {w w' : Windows} {status : Status}
    (h : s.compress .finish w = (.ok status, s', w')) (hrest : status = .done ∨ status = .needMoreData) :
    s'.isFinished = true := by
  rcases hopened : s.opened with ⟨_ | handle, s₁⟩
  · simp [compress, hopened] at h
  · have hhandle := (frame_of_opened hopened).2 handle rfl
    simp only [compress, hopened] at h
    split at h
    · next hfinished =>
      split at h
      · cases h
        rw [isFinished, hhandle]
        exact hfinished
      · cases h
    · rw [if_neg (by simp [isIdle])] at h
      have hdrive := isFinished_of_drive s₁ handle w 0
      cases h
      exact hdrive hrest

end EncoderSession

namespace Compressor

/-- What a drive leaves of a compressor as it was. -/
structure Frame (c c' : Compressor ω σ) : Prop where
  session : c.session.Frame c'.session
  holdsSink : c'.holdsSink = c.holdsSink
  options : c'.options = c.options
  isCompleted : c'.isCompleted = c.isCompleted

namespace Frame

theorem refl (c : Compressor ω σ) : Frame c c := ⟨.refl _, rfl, rfl, rfl⟩

theorem trans {c c' c'' : Compressor ω σ} (first : Frame c c') (second : Frame c' c'') :
    Frame c c'' where
  session := first.session.trans second.session
  holdsSink := second.holdsSink.trans first.holdsSink
  options := second.options.trans first.options
  isCompleted := second.isCompleted.trans first.isCompleted

end Frame

/-- Draining concerns the sink and the output buffer alone. -/
theorem drain_frame {c c' : Compressor ω σ} {result : Except CodecError Unit}
    (h : c.drain = (result, c')) : c' = { c with sink := c'.sink, output := c'.output } := by
  unfold drain at h
  split at h
  · obtain ⟨-, rfl⟩ := Prod.mk.inj h
    rfl
  · split at h
    · obtain ⟨-, rfl⟩ := Prod.mk.inj h
      rfl
    · split at h
      all_goals
        obtain ⟨-, rfl⟩ := Prod.mk.inj h
        rfl

theorem drained_of_ok {c c' : Compressor ω σ} (h : c.drain = (.ok (), c')) :
    c'.output.isEmpty = true ∧
      octets c'.sink.data = octets c.sink.data ++ octets c.output.unread := by
  unfold drain at h
  split at h
  · next hempty =>
    obtain ⟨-, rfl⟩ := Prod.mk.inj h
    refine ⟨hempty, ?_⟩
    rw [c.output.octets_unread_eq_nil_iff.mpr hempty, List.append_nil]
  · split at h
    · cases h
    · obtain ⟨taken, hdata, hend⟩ := Sink.writeAllFrom_takes c.sink.writes c.sink c.output.unread
      have hwrites : Sink.writeAllFrom c.sink.writes c.sink c.output.unread =
        c.sink.writeAll c.output.unread := rfl
      rw [hwrites] at hdata hend
      split at h
      · next hok =>
        rw [hok] at hdata hend
        obtain ⟨-, rfl⟩ := Prod.mk.inj h
        refine ⟨CursorBuffer.octets_unread_eq_nil_iff _ |>.mp (CursorBuffer.octets_unread_clear _), ?_⟩
        rcases hend with ⟨-, rfl⟩ | ⟨⟨e, he⟩, -⟩
        · rw [hdata, ← length_octets, List.take_length]
        · cases he
      · cases h

/-- What every run of the session and every drain keeps, a drive keeps. -/
theorem drive_keeps {P : Compressor ω σ → Prop} (op : FlushOp)
    (run : ∀ c src, P c → P { c with
      session := (c.session.compress op ⟨src, c.output⟩).2.1
      output := (c.session.compress op ⟨src, c.output⟩).2.2.dst })
    (drained : ∀ c, P c → P c.drain.2) {c : Compressor ω σ} (h : P c) (src : CursorBuffer) :
    P (drive op c src).2.1 := by
  have pass_keeps (c : Compressor ω σ) (src : CursorBuffer) (h : P c) {c' : Compressor ω σ}
      {src' : CursorBuffer} : (pass op c src = .inl (c', src') → P c') ∧
        ∀ result, pass op c src = .inr (result, c', src') → P c' := by
    have hran := run c src h
    rcases hrun : c.session.compress op ⟨src, c.output⟩ with ⟨e | status, session, w⟩
    all_goals
      rw [hrun] at hran
      simp only [pass, hrun]
    · refine ⟨by rintro ⟨⟩, fun result h => ?_⟩
      obtain rfl := congrArg (·.2.1) (Sum.inr.inj h)
      exact hran
    · have hdrained := drained _ hran
      rcases hdrain : drain { c with session, output := w.dst } with ⟨e | _, d⟩
      all_goals
        rw [hdrain] at hdrained
      · refine ⟨by rintro ⟨⟩, fun result h => ?_⟩
        obtain rfl := congrArg (·.2.1) (Sum.inr.inj h)
        exact hdrained
      · constructor
        · intro h
          rw [conclude_same.1 h]
          exact hdrained
        · intro result h
          rw [conclude_same.2 result h]
          exact hdrained
  rcases drive_cases op c src with hloop | hrefused
  · obtain ⟨⟨d, rest⟩, hd, hlast⟩ := loop_invariant (fun x => P x.1)
      (fun x _ h hpass => (pass_keeps x.1 x.2 h).1 hpass) h hloop
    exact (pass_keeps d rest hd).2 _ hlast
  · rw [hrefused]
    exact h

theorem drive_frame (op : FlushOp) (c : Compressor ω σ) (src : CursorBuffer) :
    Frame c (drive op c src).2.1 := by
  refine drive_keeps op (fun d rest h => ?_) (fun d h => ?_) (.refl c) src
  · exact h.trans ⟨EncoderSession.compress_frame op d.session ⟨rest, d.output⟩, rfl, rfl, rfl⟩
  · have hdrained : d.drain = (d.drain.1, d.drain.2) := rfl
    rw [drain_frame hdrained]
    exact h.trans ⟨.refl _, rfl, rfl, rfl⟩

theorem driveIdle_frame (op : FlushOp) (c : Compressor ω σ) : Frame c (c.driveIdle op).2 :=
  drive_frame op c _

/-- How a compressor stands once a drive has finished the stream: the engine has come to its end,
and what it left in the output went to the sink whole. -/
structure Finished (c : Compressor ω σ) : Prop where
  isFinished : c.session.isFinished = true
  isEmpty : c.output.isEmpty = true
  handed : ∃ before : Compressor ω σ, before.session = c.session ∧ before.drain = (.ok (), c) ∧
    octets c.sink.data = octets before.sink.data ++ octets before.output.unread

theorem finished_of_pass {c c' : Compressor ω σ} {src src' : CursorBuffer}
    (h : pass .finish c src = .inr (.ok (), c', src')) : Finished c' := by
  rcases hrun : c.session.compress .finish ⟨src, c.output⟩ with ⟨e | status, session, w⟩
  · simp [pass, hrun] at h
  · rcases hdrain : drain { c with session, output := w.dst } with ⟨e | _, drained⟩
    · simp [pass, hrun, hdrain] at h
    · simp only [pass, hrun, hdrain] at h
      have hsame := conclude_same.2 _ h
      have hrest : status = .done ∨ status = .needMoreData := by
        cases status with
        | done => exact .inl rfl
        | needMoreData => exact .inr rfl
        | destinationTooSmall | invalidData => cases h
      have hfinished := EncoderSession.isFinished_of_compress hrun hrest
      obtain ⟨hempty, hdata⟩ := drained_of_ok hdrain
      have hsession : drained.session = session := congrArg (·.session) (drain_frame hdrain)
      rw [hsame]
      exact ⟨by rw [hsession]; exact hfinished, hempty, _, hsession.symm, hdrain, hdata⟩

theorem finished_of_drive {c : Compressor ω σ} {src : CursorBuffer}
    (h : (drive .finish c src).1 = .ok ()) : Finished (drive .finish c src).2.1 := by
  rcases drive_cases .finish c src with hloop | hrefused
  · obtain ⟨⟨d, rest⟩, -, hlast⟩ := loop_invariant (fun _ => True) (fun _ _ _ _ => trivial) trivial hloop
    have hpass : pass .finish d rest =
        .inr (.ok (), (drive .finish c src).2.1, (drive .finish c src).2.2) := by
      rw [← h]
      exact hlast
    exact finished_of_pass hpass
  · rw [hrefused] at h
    cases h

end Compressor

namespace AsyncCompressor

open Compressor (Frame)

theorem drain_frame (token : Token) (c : Compressor ω σ) (cancelled : Cancelled) :
    (drain token c cancelled).2.1 = { c with
      sink := (drain token c cancelled).2.1.sink
      output := (drain token c cancelled).2.1.output } := by
  unfold drain
  split
  · rfl
  · split
    · rfl
    · split <;> rfl

theorem drained_of_ok {token : Token} {c c' : Compressor ω σ} {cancelled cancelled' : Cancelled}
    (h : drain token c cancelled = (.returned (.ok ()), c', cancelled')) :
    c'.output.isEmpty = true := by
  unfold drain at h
  split at h
  · next hempty =>
    cases h
    exact hempty
  · split at h
    · cases h
    · split at h
      · cases h
        exact CursorBuffer.octets_unread_eq_nil_iff _ |>.mp (CursorBuffer.octets_unread_clear _)
      · next wait sink looked hwait hwrite =>
        rcases wait with (e | _) | _ | _
        · cases h
        · exact absurd rfl hwait
        · cases h
        · cases h

theorem drive_keeps {P : Compressor ω σ → Prop} (token : Token) (op : FlushOp)
    (run : ∀ c src, P c → P { c with
      session := (c.session.compress op ⟨src, c.output⟩).2.1
      output := (c.session.compress op ⟨src, c.output⟩).2.2.dst })
    (drained : ∀ c cancelled, P c → P (drain token c cancelled).2.1) {c : Compressor ω σ} (h : P c)
    (src : CursorBuffer) (cancelled : Cancelled) : P (drive token op c src cancelled).2.1 := by
  have pass_keeps (c : Compressor ω σ) (src : CursorBuffer) (cancelled : Cancelled) (h : P c) :
      (∀ x, pass token op c src cancelled = .inl x → P x.1) ∧
        ∀ y, pass token op c src cancelled = .inr y → P y.2.1 := by
    have hran := run c src h
    rcases hrun : c.session.compress op ⟨src, c.output⟩ with ⟨e | status, session, w⟩
    all_goals
      rw [hrun] at hran
      simp only [pass, hrun]
    · refine ⟨by rintro x ⟨⟩, fun y h => ?_⟩
      obtain rfl := Sum.inr.inj h
      exact hran
    · have hdrained := drained _ cancelled hran
      rcases hdrain : drain token { c with session, output := w.dst } cancelled with
        ⟨(e | _) | _, d, cancelled'⟩
      all_goals
        rw [hdrain] at hdrained
      · refine ⟨by rintro x ⟨⟩, fun y h => ?_⟩
        obtain rfl := Sum.inr.inj h
        exact hdrained
      · cases status with
        | destinationTooSmall =>
          refine ⟨fun x h => ?_, by rintro y ⟨⟩⟩
          obtain rfl := Sum.inl.inj h
          exact hdrained
        | done | needMoreData | invalidData =>
          refine ⟨by rintro x ⟨⟩, fun y h => ?_⟩
          obtain rfl := Sum.inr.inj h
          exact hdrained
      · refine ⟨by rintro x ⟨⟩, fun y h => ?_⟩
        obtain rfl := Sum.inr.inj h
        exact hdrained
  unfold drive
  cases hloop : loop (fun x => pass token op x.1 x.2.1 x.2.2) (c, src, cancelled) with
  | none => exact h
  | some result =>
    obtain ⟨⟨d, rest, looked⟩, hd, hlast⟩ := loop_invariant (fun x => P x.1)
      (fun x x' h hpass => (pass_keeps x.1 x.2.1 x.2.2 h).1 x' hpass) h hloop
    exact (pass_keeps d rest looked hd).2 _ hlast

theorem drive_frame (token : Token) (op : FlushOp) (c : Compressor ω σ) (src : CursorBuffer)
    (cancelled : Cancelled) : Frame c (drive token op c src cancelled).2.1 := by
  refine drive_keeps token op (fun d rest h => ?_) (fun d looked h => ?_) (.refl c) src cancelled
  · exact h.trans ⟨EncoderSession.compress_frame op d.session ⟨rest, d.output⟩, rfl, rfl, rfl⟩
  · rw [drain_frame]
    exact h.trans ⟨.refl _, rfl, rfl, rfl⟩

theorem finished_of_pass {token : Token} {c : Compressor ω σ} {src : CursorBuffer}
    {cancelled : Cancelled} {y : Outcome Unit × Compressor ω σ × CursorBuffer × Cancelled}
    (h : pass token .finish c src cancelled = .inr y) (hok : y.1 = .returned (.ok ())) :
    y.2.1.session.isFinished = true ∧ y.2.1.output.isEmpty = true := by
  rcases hrun : c.session.compress .finish ⟨src, c.output⟩ with ⟨e | status, session, w⟩
  · simp only [pass, hrun] at h
    obtain rfl := Sum.inr.inj h
    cases hok
  · rcases hdrain : drain token { c with session, output := w.dst } cancelled with
      ⟨(e | _) | _, d, cancelled'⟩
    all_goals simp only [pass, hrun, hdrain] at h
    · obtain rfl := Sum.inr.inj h
      cases hok
    · have hframe := drain_frame token { c with session, output := w.dst } cancelled
      rw [hdrain] at hframe
      have hsession : d.session = session := congrArg (·.session) hframe
      have hrest : status = .done ∨ status = .needMoreData := by
        cases status with
        | done => exact .inl rfl
        | needMoreData => exact .inr rfl
        | destinationTooSmall => cases h
        | invalidData =>
          obtain rfl := Sum.inr.inj h
          cases hok
      have hsame : y.2.1 = d := by
        rcases hrest with rfl | rfl <;> exact congrArg (·.2.1) (Sum.inr.inj h).symm
      rw [hsame, hsession]
      exact ⟨EncoderSession.isFinished_of_compress hrun hrest, drained_of_ok hdrain⟩
    · obtain rfl := Sum.inr.inj h
      cases hok

theorem finished_of_drive (token : Token) (c : Compressor ω σ) (src : CursorBuffer)
    (cancelled : Cancelled) (h : (drive token .finish c src cancelled).1 = .returned (.ok ())) :
    (drive token .finish c src cancelled).2.1.session.isFinished = true ∧
      (drive token .finish c src cancelled).2.1.output.isEmpty = true := by
  unfold drive at h ⊢
  cases hloop : loop (fun x => pass token .finish x.1 x.2.1 x.2.2) (c, src, cancelled) with
  | none =>
    rw [hloop] at h
    cases h
  | some result =>
    rw [hloop] at h
    obtain ⟨⟨d, rest, looked⟩, -, hlast⟩ := loop_invariant (fun _ => True)
      (fun _ _ _ _ => trivial) trivial hloop
    exact finished_of_pass hlast h

end AsyncCompressor

end StreamCodec
