import StreamCodec.Async.Decompressor

/-!
# Reads round by round

A read into some room goes in rounds. A round runs the session on what is
buffered; it comes back with an answer, or asks for another piece from the
source and goes on with that. What the two kinds of decompressor do differs in
how the piece is pulled, not in the rounds.

`readSome_rounds` is the induction that proofs about reads follow: the last
round answers, a pull fails, or a pull succeeds and the rest of the read is a
read of its own.
-/
namespace StreamCodec

variable {ω σ : Type}

namespace Decompressor

/-- One round of a read into some room: an answer, or a request for another piece. -/
def round (d : Decompressor ω σ) (dst : ByteArray) :
    (ByteArray × Decompressor ω σ) ⊕ (Except CodecError Nat × ByteArray × Decompressor ω σ) :=
  match d.session.decompress ⟨d.input, .empty dst⟩ with
  | (.error e, session, w) => .inr (.error e, w.dst.storage, { d with session, input := w.src })
  | (.ok status, session, w) =>
    let decoded := { d with session, input := w.src }
    match status with
    | .done | .destinationTooSmall => .inr (.ok w.dst.size, w.dst.storage, decoded)
    | .invalidData => .inr (.error decoded.failure, w.dst.storage, decoded)
    | .needMoreData =>
      if 0 < w.dst.size then .inr (.ok w.dst.size, w.dst.storage, decoded)
      else if decoded.sourceEnded then .inr (decoded.endOfSource, w.dst.storage, decoded)
      else .inl (w.dst.storage, decoded)

variable {d decoded : Decompressor ω σ} {dst dst' : ByteArray}

/-- What a round that asks for a piece was. -/
theorem round_asks (h : d.round dst = .inl (dst', decoded)) :
    ∃ session w, d.session.decompress ⟨d.input, .empty dst⟩ = (.ok .needMoreData, session, w) ∧
      w.dst.size = 0 ∧ d.sourceEnded = false ∧ dst' = w.dst.storage ∧
      decoded = { d with session, input := w.src } := by
  unfold round at h
  split at h
  · cases h
  · next status session w hrun =>
    cases status with
    | done | destinationTooSmall | invalidData => cases h
    | needMoreData =>
      dsimp only at h
      split at h
      · cases h
      · next hnone =>
        split at h
        · cases h
        · next hopen =>
          obtain ⟨rfl, rfl⟩ := Prod.mk.inj (Sum.inl.inj h)
          exact ⟨session, w, hrun, Nat.eq_zero_of_not_pos hnone, eq_false_of_ne_true hopen, rfl, rfl⟩

/-- What a round answers, by what its operation of the session came to. -/
inductive RoundAnswer (w : Windows) (d' : Decompressor ω σ) :
    Except CodecError Status → Except CodecError Nat → Prop
  | refused (e : CodecError) : RoundAnswer w d' (.error e) (.error e)
  | done : RoundAnswer w d' (.ok .done) (.ok w.dst.size)
  | full : RoundAnswer w d' (.ok .destinationTooSmall) (.ok w.dst.size)
  | corrupt : RoundAnswer w d' (.ok .invalidData) (.error d'.failure)
  | bytes (some : 0 < w.dst.size) : RoundAnswer w d' (.ok .needMoreData) (.ok w.dst.size)
  | ended (none : w.dst.size = 0) (ended : d'.sourceEnded = true) :
      RoundAnswer w d' (.ok .needMoreData) d'.endOfSource

/-- What a round that answers was. -/
theorem round_answers {result : Except CodecError Nat} {d' : Decompressor ω σ}
    (h : d.round dst = .inr (result, dst', d')) :
    ∃ outcome session w, d.session.decompress ⟨d.input, .empty dst⟩ = (outcome, session, w) ∧
      dst' = w.dst.storage ∧ d' = { d with session, input := w.src } ∧
      RoundAnswer w d' outcome result := by
  unfold round at h
  split at h
  · next e session w hrun =>
    cases h
    exact ⟨_, session, w, hrun, rfl, rfl, .refused e⟩
  · next status session w hrun =>
    cases status with
    | done =>
      cases h
      exact ⟨_, session, w, hrun, rfl, rfl, .done⟩
    | destinationTooSmall =>
      cases h
      exact ⟨_, session, w, hrun, rfl, rfl, .full⟩
    | invalidData =>
      cases h
      exact ⟨_, session, w, hrun, rfl, rfl, .corrupt⟩
    | needMoreData =>
      dsimp only at h
      split at h
      · next hsome =>
        cases h
        exact ⟨_, session, w, hrun, rfl, rfl, .bytes hsome⟩
      · next hnone =>
        split at h
        · next hended =>
          obtain ⟨rfl, hrest⟩ := Prod.mk.inj (Sum.inr.inj h)
          obtain ⟨rfl, rfl⟩ := Prod.mk.inj hrest
          exact ⟨_, session, w, hrun, rfl, rfl, .ended (Nat.eq_zero_of_not_pos hnone) hended⟩
        · cases h

/-- A read is its first round and, where that asks for a piece, the rest. -/
theorem readSome_rounds
    {motive : Decompressor ω σ → ByteArray → Except CodecError Nat × ByteArray × Decompressor ω σ →
      Prop}
    (answers : ∀ d dst answer, d.round dst = .inr answer → motive d dst answer)
    (fails : ∀ d dst dst' decoded e filled, d.round dst = .inl (dst', decoded) →
      decoded.fill = (.error e, filled) → motive d dst (.error e, dst', filled))
    (pulls : ∀ d dst dst' decoded filled, d.round dst = .inl (dst', decoded) →
      decoded.fill = (.ok (), filled) → motive filled dst' (filled.readSome dst') →
      motive d dst (filled.readSome dst'))
    (d : Decompressor ω σ) (dst : ByteArray) : motive d dst (d.readSome dst) := by
  fun_induction Decompressor.readSome d dst with
  | case1 d dst err session w hrun => exact answers d dst _ (by simp only [round, hrun])
  | case2 d dst session w decoded produced =>
    rename_i hrun
    exact answers d dst _ (by simp only [round, hrun, decoded, produced])
  | case3 d dst session w decoded produced =>
    rename_i hrun
    exact answers d dst _ (by simp only [round, hrun, decoded, produced])
  | case4 d dst session w decoded hrun =>
    exact answers d dst _ (by simp only [round, hrun, decoded])
  | case5 d dst session w decoded produced hmore =>
    rename_i hrun
    refine answers d dst _ ?_
    simp only [round, hrun]
    rw [if_pos hmore]
  | case6 d dst session w decoded produced hnone hended =>
    rename_i hrun
    refine answers d dst _ ?_
    simp only [round, hrun]
    rw [if_neg hnone, if_pos hended]
  | case7 d dst session w decoded produced hnone hended err filled hfill =>
    rename_i hrun
    refine fails d dst w.dst.storage decoded err filled ?_ hfill
    simp only [round, hrun]
    rw [if_neg hnone, if_neg hended]
  | case8 d dst session w decoded produced hnone hended filled hfill hrun =>
    rename_i ih
    refine pulls d dst w.dst.storage decoded filled ?_ hfill ih
    simp only [round, hrun]
    rw [if_neg hnone, if_neg hended]

theorem readSome_of_answer {answer : Except CodecError Nat × ByteArray × Decompressor ω σ}
    (h : d.round dst = .inr answer) : d.readSome dst = answer := by
  induction d, dst using readSome_rounds with
  | answers _ _ _ h' => exact Sum.inr.inj (h'.symm.trans h)
  | fails _ _ _ _ _ _ h' => cases h'.symm.trans h
  | pulls _ _ _ _ _ h' => cases h'.symm.trans h

theorem readSome_of_failure {e : CodecError} {filled : Decompressor ω σ}
    (h : d.round dst = .inl (dst', decoded)) (hfill : decoded.fill = (.error e, filled)) :
    d.readSome dst = (.error e, dst', filled) := by
  induction d, dst using readSome_rounds with
  | answers _ _ _ h' => cases h'.symm.trans h
  | fails _ _ _ _ _ _ h' hfill' =>
    obtain ⟨rfl, rfl⟩ := Prod.mk.inj (Sum.inl.inj (h'.symm.trans h))
    obtain ⟨he, rfl⟩ := Prod.mk.inj (hfill'.symm.trans hfill)
    rw [Except.error.inj he]
  | pulls _ _ _ _ _ h' hfill' =>
    obtain ⟨rfl, rfl⟩ := Prod.mk.inj (Sum.inl.inj (h'.symm.trans h))
    cases (Prod.mk.inj (hfill'.symm.trans hfill)).1

theorem readSome_of_pull {filled : Decompressor ω σ} (h : d.round dst = .inl (dst', decoded))
    (hfill : decoded.fill = (.ok (), filled)) : d.readSome dst = filled.readSome dst' := by
  induction d, dst using readSome_rounds with
  | answers _ _ _ h' => cases h'.symm.trans h
  | fails _ _ _ _ _ _ h' hfill' =>
    obtain ⟨rfl, rfl⟩ := Prod.mk.inj (Sum.inl.inj (h'.symm.trans h))
    cases (Prod.mk.inj (hfill'.symm.trans hfill)).1
  | pulls _ _ _ _ _ h' hfill' =>
    obtain ⟨rfl, rfl⟩ := Prod.mk.inj (Sum.inl.inj (h'.symm.trans h))
    rw [(Prod.mk.inj (hfill'.symm.trans hfill)).2]

theorem read_of_live (hlive : d.session.isDisposed = false) (hdst : dst.size ≠ 0) :
    d.read dst = d.readSome dst := by
  rw [read, if_neg (ne_true_of_eq_false hlive), if_neg hdst]

/-- The outcome of a round, as that of a read which ends with it. -/
def outcome (d : Decompressor ω σ) (dst : ByteArray) :
    Except CodecError Nat × ByteArray × Decompressor ω σ :=
  (d.round dst).elim (fun x => (.ok 0, x)) id

theorem round_of_isRight (d : Decompressor ω σ) (dst : ByteArray)
    (h : (d.round dst).isRight = true) : d.round dst = .inr (d.outcome dst) := by
  obtain ⟨answer, hanswer⟩ := Sum.isRight_iff.mp h
  rw [outcome, hanswer]
  rfl

end Decompressor

namespace AsyncDecompressor

theorem readSome_rounds {token : Token}
    {motive : Decompressor ω σ → ByteArray → Cancelled →
      Outcome Nat × ByteArray × Decompressor ω σ × Cancelled → Prop}
    (answers : ∀ d dst cancelled result dst' d', d.round dst = .inr (result, dst', d') →
      motive d dst cancelled (.returned result, dst', d', cancelled))
    (fails : ∀ d dst cancelled dst' decoded e filled cancelled', d.round dst = .inl (dst', decoded) →
      fill token decoded cancelled = (.returned (.error e), filled, cancelled') →
      motive d dst cancelled (.returned (.error e), dst', filled, cancelled'))
    (abandons : ∀ d dst cancelled dst' decoded filled cancelled', d.round dst = .inl (dst', decoded) →
      fill token decoded cancelled = (.abandoned, filled, cancelled') →
      motive d dst cancelled (.abandoned, dst', filled, cancelled'))
    (pulls : ∀ d dst cancelled dst' decoded filled cancelled', d.round dst = .inl (dst', decoded) →
      fill token decoded cancelled = (.returned (.ok ()), filled, cancelled') →
      motive filled dst' cancelled' (readSome token filled dst' cancelled') →
      motive d dst cancelled (readSome token filled dst' cancelled'))
    (d : Decompressor ω σ) (dst : ByteArray) (cancelled : Cancelled) :
    motive d dst cancelled (readSome token d dst cancelled) := by
  fun_induction readSome token d dst cancelled with
  | case1 d dst cancelled err session w hrun =>
    exact answers d dst cancelled _ _ _ (by simp only [Decompressor.round, hrun])
  | case2 d dst cancelled session w decoded produced =>
    rename_i hrun
    exact answers d dst cancelled _ _ _ (by simp only [Decompressor.round, hrun, decoded, produced])
  | case3 d dst cancelled session w decoded produced =>
    rename_i hrun
    exact answers d dst cancelled _ _ _ (by simp only [Decompressor.round, hrun, decoded, produced])
  | case4 d dst cancelled session w decoded hrun =>
    exact answers d dst cancelled _ _ _ (by simp only [Decompressor.round, hrun, decoded])
  | case5 d dst cancelled session w decoded produced hmore =>
    rename_i hrun
    refine answers d dst cancelled _ _ _ ?_
    simp only [Decompressor.round, hrun]
    rw [if_pos hmore]
  | case6 d dst cancelled session w decoded produced hnone hended =>
    rename_i hrun
    refine answers d dst cancelled _ _ _ ?_
    simp only [Decompressor.round, hrun]
    rw [if_neg hnone, if_pos hended]
  | case7 d dst cancelled session w decoded produced hnone hended filled cancelled' hfill hrun =>
    rename_i ih
    refine pulls d dst cancelled w.dst.storage decoded filled cancelled' ?_ hfill ih
    simp only [Decompressor.round, hrun]
    rw [if_neg hnone, if_neg hended]
  | case8 d dst cancelled session w decoded produced hnone hended err filled cancelled' hfill =>
    rename_i hrun
    refine fails d dst cancelled w.dst.storage decoded err filled cancelled' ?_ hfill
    simp only [Decompressor.round, hrun]
    rw [if_neg hnone, if_neg hended]
  | case9 d dst cancelled session w decoded produced hnone hended filled cancelled' hfill =>
    rename_i hrun
    refine abandons d dst cancelled w.dst.storage decoded filled cancelled' ?_ hfill
    simp only [Decompressor.round, hrun]
    rw [if_neg hnone, if_neg hended]

section Equations

variable {d decoded : Decompressor ω σ} {dst dst' : ByteArray}

theorem readSome_of_answer {result : Except CodecError Nat} {d' : Decompressor ω σ}
    (h : d.round dst = .inr (result, dst', d')) (token : Token) (cancelled : Cancelled) :
    readSome token d dst cancelled = (.returned result, dst', d', cancelled) := by
  induction d, dst, cancelled using readSome_rounds with
  | answers _ _ _ _ _ _ h' =>
    cases h'.symm.trans h
    rfl
  | fails _ _ _ _ _ _ _ _ h' => cases h'.symm.trans h
  | abandons _ _ _ _ _ _ _ h' => cases h'.symm.trans h
  | pulls _ _ _ _ _ _ _ h' => cases h'.symm.trans h

theorem readSome_of_ask (h : d.round dst = .inl (dst', decoded)) (token : Token)
    (cancelled : Cancelled) :
    readSome token d dst cancelled =
      match fill token decoded cancelled with
      | (.returned (.ok ()), filled, cancelled) => readSome token filled dst' cancelled
      | (.returned (.error e), filled, cancelled) => (.returned (.error e), dst', filled, cancelled)
      | (.abandoned, filled, cancelled) => (.abandoned, dst', filled, cancelled) := by
  induction d, dst, cancelled using readSome_rounds with
  | answers _ _ _ _ _ _ h' => cases h'.symm.trans h
  | fails _ _ _ _ _ _ _ _ h' hfill =>
    cases h'.symm.trans h
    rw [hfill]
  | abandons _ _ _ _ _ _ _ h' hfill =>
    cases h'.symm.trans h
    rw [hfill]
  | pulls _ _ _ _ _ _ _ h' hfill =>
    cases h'.symm.trans h
    rw [hfill]

end Equations

end AsyncDecompressor

end StreamCodec
