import StreamCodec.Proofs.Ledger

/-!
# Drives of an encoder session

A drive of a session over a recording engine is a row of engine calls. Whatever
the engine answers, the ledger grows by these calls, the totals by what they
moved, and the buffers move as `Moved` says. Only a full destination ends a
drive as too small.
-/
namespace StreamCodec.EncoderSession

variable {ω σ : Type}

/-- What a row of calls does to the session itself. -/
structure Charged (s : EncoderSession (ω × Ledger) σ) (calls : Ledger)
    (s' : EncoderSession (ω × Ledger) σ) : Prop where
  engine : s'.engine = s.engine
  options : s'.options = s.options
  isDisposed : s'.isDisposed = s.isDisposed
  handle : s.handle.isSome → s'.handle.isSome
  ledger : s'.world.2 = s.world.2 ++ calls
  totalIn : s'.totalIn = s.totalIn + (Ledger.consumed calls).length
  totalOut : s'.totalOut = s.totalOut + (Ledger.produced calls).length

namespace Charged

variable {s s' s'' : EncoderSession (ω × Ledger) σ} {a b : Ledger}

theorem refl (s : EncoderSession (ω × Ledger) σ) : Charged s [] s :=
  ⟨rfl, rfl, rfl, id, (List.append_nil _).symm, rfl, rfl⟩

theorem trans (first : Charged s a s') (second : Charged s' b s'') : Charged s (a ++ b) s'' where
  engine := second.engine.trans first.engine
  options := second.options.trans first.options
  isDisposed := second.isDisposed.trans first.isDisposed
  handle := fun h => second.handle (first.handle h)
  ledger := by rw [second.ledger, first.ledger, List.append_assoc]
  totalIn := by
    rw [second.totalIn, first.totalIn, Ledger.consumed_append, List.length_append, Nat.add_assoc]
  totalOut := by
    rw [second.totalOut, first.totalOut, Ledger.produced_append, List.length_append, Nat.add_assoc]

theorem fail (h : Charged s a s') (detail : String) : Charged s a (s'.fail detail) :=
  ⟨h.engine, h.options, h.isDisposed, h.handle, h.ledger, h.totalIn, h.totalOut⟩

theorem settled (h : Charged s a s') (op : FlushOp) : Charged s a (s'.settled op) := by
  unfold EncoderSession.settled
  split
  · exact h
  · exact ⟨h.engine, h.options, h.isDisposed, h.handle, h.ledger, h.totalIn, h.totalOut⟩

end Charged

/-- One engine call is one entry, and the counts of the totals are those of the entry. -/
theorem charged_record {engine : EncoderEngine ω σ} {s : EncoderSession (ω × Ledger) σ}
    (he : s.engine = engine.recording) (op : FlushOp) (handle : σ) (w : Windows) {reply : Reply}
    {handle' : σ} {world' : ω × Ledger}
    (hcall : s.engine.compress op w.src.unread w.dst.unwritten handle s.world =
      (reply, handle', world')) :
    Charged s [⟨.encode op, w.src.unread, w.dst.unwritten, reply⟩]
      (s.record w reply handle' world') where
  engine := rfl
  options := rfl
  isDisposed := rfl
  handle := fun _ => rfl
  ledger := by
    rw [he] at hcall
    exact engine.compress_recording op _ _ handle s.world hcall
  totalIn := by rw [Ledger.consumed_singleton, Windows.length_consumed]; rfl
  totalOut := by rw [Ledger.produced_singleton, Windows.length_produced]; rfl

/-- What a drive may answer. -/
structure DriveEnds (s : EncoderSession (ω × Ledger) σ) (w : Windows) (status : Status)
    (s' : EncoderSession (ω × Ledger) σ) (w' : Windows) (calls : Ledger) : Prop where
  charged : Charged s calls s'
  moved : Moved calls w w'
  full : status = .destinationTooSmall → w'.dst.availableWrite = 0
  fed : status ≠ .needMoreData

theorem DriveEnds.cons {s s' s'' : EncoderSession (ω × Ledger) σ} {w w' w'' : Windows}
    {status : Status} {a b : Ledger} (hc : Charged s a s') (hm : Moved a w w')
    (rest : DriveEnds s' w' status s'' w'' b) : DriveEnds s w status s'' w'' (a ++ b) :=
  ⟨hc.trans rest.charged, hm.trans rest.moved, rest.full, rest.fed⟩

/-- Every drive is a row of calls. The induction is on the drive's own recursion: each of its
ends adds one call, and so does each of its rounds. -/
theorem drive_ends {engine : EncoderEngine ω σ} (op : FlushOp) (s : EncoderSession (ω × Ledger) σ)
    (he : s.engine = engine.recording) (handle : σ) (w : Windows) (stalled : Nat) :
    ∃ calls, DriveEnds s w (drive op s handle w stalled).1 (drive op s handle w stalled).2.1
      (drive op s handle w stalled).2.2 calls := by
  fun_induction drive op s handle w stalled with
  | case1 s handle w stalled hfull =>
    exact ⟨[], .refl s, .refl w, fun _ => hfull, by simp⟩
  | case2 s handle w stalled hroom reply handle' world hcall s' w' detail hcode =>
    exact ⟨_, (charged_record he op handle w hcall).fail detail, .settle _ w reply, by simp, by simp⟩
  | case3 s handle w stalled hroom reply handle' world hcall s' w' hdone hcode =>
    exact ⟨_, (charged_record he op handle w hcall).settled op, .settle _ w reply, by simp, by simp⟩
  | case4 s handle w stalled hroom reply handle' world hcall s' w' hdone hfull hcode =>
    exact ⟨_, charged_record he op handle w hcall, .settle _ w reply, fun _ => hfull, by simp⟩
  | case5 s handle w stalled hroom reply handle' world hcall s' w' hdone hfull hstall pending hp =>
    exact ⟨_, charged_record he op handle w hcall, .settle _ w reply, by simp, by simp⟩
  | case6 s handle w stalled hroom reply handle' world hcall s' w' hdone hfull hstall pending hp =>
    exact ⟨_, (charged_record he op handle w hcall).fail _, .settle _ w reply, by simp, by simp⟩
  | case7 s handle w stalled hroom reply handle' world hcall s' w' hdone hfull hstall pending hp hs
      hcode ih =>
    obtain ⟨calls, h⟩ := ih he
    exact ⟨_, .cons (charged_record he op handle w hcall) (.settle _ w reply) h⟩
  | case8 s handle w stalled hroom reply handle' world hcall s' w' hdone hfull hmoved hcode ih =>
    obtain ⟨calls, h⟩ := ih he
    exact ⟨_, .cons (charged_record he op handle w hcall) (.settle _ w reply) h⟩

def IsReady (s : EncoderSession ω σ) : Prop := s.isDisposed = false → s.handle.isSome

theorem opened_of_isDisposed {s : EncoderSession ω σ} (h : s.isDisposed = true) :
    s.opened = (.error .disposed, s) := by
  simp [opened, h]

theorem opened_of_handle {s : EncoderSession ω σ} {handle : σ} (h : s.isDisposed = false)
    (hh : s.handle = some handle) : s.opened = (.ok handle, s) := by
  simp [opened, h, hh]

theorem opened_fresh {s s' : EncoderSession ω σ} {handle : σ} (hd : s.isDisposed = false)
    (hh : s.handle = none) (h : s.opened = (.ok handle, s')) :
    ∃ handle₁ world₁ world', s.engine.create s.world = (.ok handle₁, world₁) ∧
      s.engine.configure s.options.encoderParameters handle₁ world₁ = (.ok handle, world') ∧
      s' = { s with world := world', handle := some handle } := by
  simp only [opened, hd, hh, Bool.false_eq_true, ↓reduceIte] at h
  split at h
  · cases h
  · next handle₁ world₁ hcreate =>
    split at h
    · cases h
    · next handle₂ world₂ hconf =>
      obtain ⟨hok, rfl⟩ := Prod.mk.inj h
      obtain rfl := Except.ok.inj hok
      exact ⟨handle₁, world₁, world₂, hcreate, hconf, by rw [hd]⟩

/-- What an operation on a ready session may answer: it is refused and nothing happens, or, unless
the session is disposed of, it ends as a drive does. -/
theorem compress_ends {engine : EncoderEngine ω σ} (op : FlushOp)
    (s : EncoderSession (ω × Ledger) σ) (he : s.engine = engine.recording) (hr : s.IsReady)
    (w : Windows) :
    (∃ e, s.compress op w = (.error e, s, w)) ∨
      (s.isDisposed = false ∧ ∃ status s' w' calls, s.compress op w = (.ok status, s', w') ∧
        DriveEnds s w status s' w' calls) := by
  cases hd : s.isDisposed with
  | true => exact .inl ⟨.disposed, by simp only [compress, opened_of_isDisposed hd]⟩
  | false =>
    obtain ⟨handle, hh⟩ := Option.isSome_iff_exists.mp (hr hd)
    simp only [compress, opened_of_handle hd hh]
    split
    · split
      · exact .inr ⟨trivial, _, _, _, [], rfl, .refl s, .refl w, by simp, by simp⟩
      · exact .inl ⟨_, rfl⟩
    · split
      · exact .inr ⟨trivial, _, _, _, [], rfl, .refl s, .refl w, by simp, by simp⟩
      · obtain ⟨calls, h⟩ := drive_ends op s he handle w 0
        exact .inr ⟨trivial, _, _, _, calls, rfl, h⟩

end StreamCodec.EncoderSession
