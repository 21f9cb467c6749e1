import StreamCodec.Proofs.SourceFailures

/-!
# Persistent reading

Whoever gets a failure of the source, or gave up waiting for it, may read again,
into the same destination as the failed read left it: an engine may go by the
size of its room and by what stands there. `Persists` is such reading, whatever
the kind of the decompressor. Over a conforming engine its answers depend on what
the source holds but for its failures, and on nothing else.

Both kinds of decompressor read in turns, and differ in how they pull. `Row` is
persistent reading turn by turn. A turn whose pull fails leaves the decompressor
where the same turn can be gone through again, so two rows can be compared with
such turns skipped on either side.
-/
namespace StreamCodec

/-- Reading into destinations one after the other; a read that meets a passing failure is made again. -/
inductive Persists {D : Type}
    (Reads : D → ByteArray → Except CodecError Nat → ByteArray → D → Prop) :
    D → List ByteArray → List (Except CodecError Nat × ByteArray) → Prop
  | nil (d : D) : Persists Reads d [] []
  | answered {d d' : D} {dst dst' : ByteArray} {dsts : List ByteArray}
      {result : Except CodecError Nat} {answers : List (Except CodecError Nat × ByteArray)}
      (read : Reads d dst result dst' d') (kept : ∀ e, result = .error e → ¬e.Passing)
      (later : Persists Reads d' dsts answers) :
      Persists Reads d (dst :: dsts) ((result, dst') :: answers)
  | again {d d' : D} {dst dst' : ByteArray} {dsts : List ByteArray} {e : CodecError}
      {answers : List (Except CodecError Nat × ByteArray)}
      (read : Reads d dst (.error e) dst' d') (passing : e.Passing)
      (later : Persists Reads d' (dst' :: dsts) answers) : Persists Reads d (dst :: dsts) answers

/-- None of the answers is a passing failure. -/
def Smooth (answers : List (Except CodecError Nat × ByteArray)) : Prop :=
  ∀ answer ∈ answers, ∀ e, answer.1 = .error e → ¬e.Passing

namespace Decompressor

variable {ω σ : Type}

/-- The decompressor behind another source. -/
def behind (d : Decompressor ω σ) (s : Source) : Decompressor ω σ := { d with source := s }

/-- A turn of a read, whatever the room: an answer, or a request for another piece. -/
def turn (d : Decompressor ω σ) (dst : ByteArray) :
    (ByteArray × Decompressor ω σ) ⊕ (Except CodecError Nat × ByteArray × Decompressor ω σ) :=
  if dst.size = 0 then
    if d.hasBufferedInput then .inr (.ok 0, dst, d) else .inl (dst, d)
  else d.round dst

/-- The room that a turn offers to the source. -/
def offer (d : Decompressor ω σ) (dst : ByteArray) : Nat :=
  if dst.size = 0 then 0 else d.input.availableWrite

variable {Pulls : Nat → Source → Except CodecError Delivery → Source → Prop}

/-- One read, turn by turn. The source is kept apart from the decompressor. -/
inductive Attempts (Pulls : Nat → Source → Except CodecError Delivery → Source → Prop) :
    Decompressor ω σ → Source → ByteArray → Except CodecError Nat → ByteArray → Decompressor ω σ →
      Source → Prop
  | answered {d d' : Decompressor ω σ} {s : Source} {dst dst' : ByteArray}
      {result : Except CodecError Nat} (turn : d.turn dst = .inr (result, dst', d')) :
      Attempts Pulls d s dst result dst' d' s
  | failed {d decoded : Decompressor ω σ} {s s' : Source} {dst dst' : ByteArray} {e : CodecError}
      (turn : d.turn dst = .inl (dst', decoded)) (pull : Pulls (decoded.offer dst') s (.error e) s') :
      Attempts Pulls d s dst (.error e) dst' decoded s'
  | nothing {d : Decompressor ω σ} {s s' : Source} {dst : ByteArray} {delivery : Delivery}
      (room : dst.size = 0) (turn : d.turn dst = .inl (dst, d)) (pull : Pulls 0 s (.ok delivery) s') :
      Attempts Pulls d s dst (.ok 0) dst d s'
  | pulled {d decoded d' : Decompressor ω σ} {s s' s'' : Source} {dst dst' dst'' : ByteArray}
      {delivery : Delivery} {result : Except CodecError Nat} (room : dst.size ≠ 0)
      (turn : d.turn dst = .inl (dst', decoded))
      (pull : Pulls (decoded.offer dst') s (.ok delivery) s')
      (rest : Attempts Pulls (decoded.accept delivery decoded.source) s' dst' result dst'' d' s'') :
      Attempts Pulls d s dst result dst'' d' s''

/-- Persistent reading, turn by turn. -/
inductive Row (Pulls : Nat → Source → Except CodecError Delivery → Source → Prop) :
    Decompressor ω σ → Source → List ByteArray → List (Except CodecError Nat × ByteArray) → Prop
  | nil (d : Decompressor ω σ) (s : Source) : Row Pulls d s [] []
  | answered {d d' : Decompressor ω σ} {s : Source} {dst dst' : ByteArray} {dsts : List ByteArray}
      {result : Except CodecError Nat} {answers : List (Except CodecError Nat × ByteArray)}
      (turn : d.turn dst = .inr (result, dst', d')) (later : Row Pulls d' s dsts answers) :
      Row Pulls d s (dst :: dsts) ((result, dst') :: answers)
  | failed {d decoded : Decompressor ω σ} {s s' : Source} {dst dst' : ByteArray}
      {dsts : List ByteArray} {e : CodecError} {answers : List (Except CodecError Nat × ByteArray)}
      (turn : d.turn dst = .inl (dst', decoded)) (pull : Pulls (decoded.offer dst') s (.error e) s')
      (later : Row Pulls decoded s' (dst' :: dsts) answers) : Row Pulls d s (dst :: dsts) answers
  | nothing {d : Decompressor ω σ} {s s' : Source} {dst : ByteArray} {dsts : List ByteArray}
      {delivery : Delivery} {answers : List (Except CodecError Nat × ByteArray)}
      (room : dst.size = 0) (turn : d.turn dst = .inl (dst, d)) (pull : Pulls 0 s (.ok delivery) s')
      (later : Row Pulls d s' dsts answers) : Row Pulls d s (dst :: dsts) ((.ok 0, dst) :: answers)
  | pulled {d decoded : Decompressor ω σ} {s s' : Source} {dst dst' : ByteArray}
      {dsts : List ByteArray} {delivery : Delivery}
      {answers : List (Except CodecError Nat × ByteArray)} (room : dst.size ≠ 0)
      (turn : d.turn dst = .inl (dst', decoded))
      (pull : Pulls (decoded.offer dst') s (.ok delivery) s')
      (later : Row Pulls (decoded.accept delivery decoded.source) s' (dst' :: dsts) answers) :
      Row Pulls d s (dst :: dsts) answers

section Turns

variable {engine : DecoderEngine ω σ} {parameters : List Parameter} {Live : σ → ω → Prop}
  {d decoded : Decompressor ω σ} {dst dst' : ByteArray}

theorem turn_of_room (h : dst.size ≠ 0) : d.turn dst = d.round dst := if_neg h

theorem turn_of_none (h : dst.size = 0) :
    d.turn dst = if d.hasBufferedInput then .inr (.ok 0, dst, d) else .inl (dst, d) := if_pos h

theorem turn_asks_nothing (hdst : dst.size = 0) (h : d.turn dst = .inl (dst', decoded)) :
    dst' = dst ∧ decoded = d := by
  rw [turn_of_none hdst] at h
  split at h
  · cases h
  · obtain ⟨rfl, rfl⟩ := Prod.mk.inj (Sum.inl.inj h)
    exact ⟨rfl, rfl⟩

theorem Stays.turn_answer (hc : engine.Conforms parameters Live) (hd : d.Stays engine Live)
    {result : Except CodecError Nat} {d' : Decompressor ω σ}
    (h : d.turn dst = .inr (result, dst', d')) :
    d'.Stays engine Live ∧ ∀ e, result = .error e → ¬e.Passing := by
  by_cases hdst : dst.size = 0
  · rw [turn_of_none hdst] at h
    split at h
    · obtain ⟨rfl, rfl, rfl⟩ := by simpa using h
      exact ⟨hd, nofun⟩
    · cases h
  · rw [turn_of_room hdst] at h
    obtain ⟨hstays, -, hkept⟩ := hd.answer hc h
    exact ⟨hstays, hkept⟩

theorem Stays.turn_ask (hc : engine.Conforms parameters Live) (hd : d.Stays engine Live)
    (h : d.turn dst = .inl (dst', decoded)) :
    decoded.Stays engine Live ∧ dst'.size = dst.size ∧ (dst.size ≠ 0 → decoded.Waits) := by
  by_cases hdst : dst.size = 0
  · obtain ⟨rfl, rfl⟩ := turn_asks_nothing hdst h
    exact ⟨hd, rfl, fun h => absurd hdst h⟩
  · rw [turn_of_room hdst] at h
    obtain ⟨hstays, hwaits, -, hsize⟩ := hd.ask hc h
    exact ⟨hstays, hsize, fun _ => hwaits⟩

theorem Finished.accept (h : d.Finished) (delivery : Delivery) (s : Source) :
    (d.accept delivery s).Finished := by
  unfold Decompressor.accept
  split <;> exact h

theorem Stays.accept (hd : d.Stays engine Live) (hw : d.Waits) (delivery : Delivery) (s : Source) :
    (d.accept delivery s).Stays engine Live := by
  unfold Decompressor.accept
  split
  · exact ⟨hd.session, hd.capacity, hd.tidy⟩
  · refine ⟨hd.session, ?_, CursorBuffer.tidy_of_pos (hd.tidy hw.input)⟩
    rw [CursorBuffer.capacity_commit, CursorBuffer.capacity_poke]
    exact hd.capacity

theorem turn_again (hc : engine.Conforms parameters Live) (hd : d.Stays engine Live)
    (h : d.turn dst = .inl (dst', decoded)) (hunfinished : dst.size ≠ 0 → ¬decoded.Finished) :
    decoded.turn dst' = .inl (dst', decoded) := by
  by_cases hdst : dst.size = 0
  · obtain ⟨rfl, rfl⟩ := turn_asks_nothing hdst h
    exact h
  · obtain ⟨hstays, hsize, hwaits⟩ := hd.turn_ask hc h
    have hroom : dst'.size ≠ 0 := by rwa [hsize]
    rw [turn_of_room hroom]
    exact round_again hc hstays (hwaits hdst) (hunfinished hdst) (Nat.pos_of_ne_zero hroom)

end Turns

section Rows

variable {engine : DecoderEngine ω σ} {parameters : List Parameter} {Live : σ → ω → Prop}
  {fault : SourceAnswer → Bool} {lie : Nat → Nat → Delivery}
  {d decoded : Decompressor ω σ} {s : Source} {dst dst' : ByteArray} {dsts : List ByteArray}
  {answers : List (Except CodecError Nat × ByteArray)}

theorem Row.finished (hd : d.Stays engine Live) (hfinished : d.Finished)
    (h : Row Pulls d s dsts answers) : answers = dsts.map fun dst => (.ok 0, dst) := by
  induction h with
  | nil => rfl
  | @answered d d' s dst dst' dsts result answers turn later ih =>
    have hsame : d.turn dst = .inr (.ok 0, dst, d) ∨ ∃ asks, d.turn dst = .inl asks := by
      by_cases hdst : dst.size = 0
      · rw [turn_of_none hdst]
        split
        · exact .inl rfl
        · exact .inr ⟨_, rfl⟩
      · exact .inl ((turn_of_room hdst).trans (round_finished hd hfinished dst))
    rcases hsame with hzero | ⟨asks, hasks⟩
    · obtain ⟨rfl, rfl, rfl⟩ : result = .ok 0 ∧ dst' = dst ∧ d' = d := by
        simpa using turn.symm.trans hzero
      rw [ih hd hfinished, List.map_cons]
    · cases turn.symm.trans hasks
  | @failed d decoded s s' dst dst' dsts e answers turn pull later ih =>
    by_cases hdst : dst.size = 0
    · obtain ⟨rfl, rfl⟩ := turn_asks_nothing hdst turn
      exact ih hd hfinished
    · rw [turn_of_room hdst, round_finished hd hfinished] at turn
      cases turn
  | nothing room turn pull later ih => rw [ih hd hfinished, List.map_cons]
  | @pulled d decoded s s' dst dst' dsts delivery answers room turn pull later ih =>
    rw [turn_of_room room, round_finished hd hfinished] at turn
    cases turn

/-- A turn that asks although the engine has just finished is the last that matters. -/
theorem Row.of_finished (hc : engine.Conforms parameters Live) (hd : d.Stays engine Live)
    (hdst : dst.size ≠ 0) (hturn : d.turn dst = .inl (dst', decoded)) (hfinished : decoded.Finished)
    (h : Row Pulls d s (dst :: dsts) answers) :
    answers = (dst' :: dsts).map fun dst => (.ok 0, dst) := by
  obtain ⟨hstays, -, hwaits⟩ := hd.turn_ask hc hturn
  cases h with
  | answered turn => cases hturn.symm.trans turn
  | failed turn pull later =>
    obtain ⟨rfl, rfl⟩ := Prod.mk.inj (Sum.inl.inj (hturn.symm.trans turn))
    exact later.finished hstays hfinished
  | nothing room => exact absurd room hdst
  | pulled room turn pull later =>
    obtain ⟨rfl, rfl⟩ := Prod.mk.inj (Sum.inl.inj (hturn.symm.trans turn))
    exact later.finished (hstays.accept (hwaits hdst) _ _) (hfinished.accept _ _)

theorem Row.reroot (hc : engine.Conforms parameters Live) (hd : d.Stays engine Live)
    (hturn : d.turn dst = .inl (dst', decoded)) (hunfinished : dst.size ≠ 0 → ¬decoded.Finished)
    (h : Row Pulls d s (dst :: dsts) answers) : Row Pulls decoded s (dst' :: dsts) answers := by
  have hagain := turn_again hc hd hturn hunfinished
  have hsize := (hd.turn_ask hc hturn).2.1
  cases h with
  | answered turn => cases hturn.symm.trans turn
  | failed turn pull later =>
    obtain ⟨rfl, rfl⟩ := Prod.mk.inj (Sum.inl.inj (hturn.symm.trans turn))
    exact .failed hagain pull later
  | nothing room turn pull later =>
    obtain ⟨rfl, rfl⟩ := Prod.mk.inj (Sum.inl.inj (hturn.symm.trans turn))
    exact .nothing room turn pull later
  | pulled room turn pull later =>
    obtain ⟨rfl, rfl⟩ := Prod.mk.inj (Sum.inl.inj (hturn.symm.trans turn))
    exact .pulled (by rwa [hsize]) hagain pull later

theorem Row.skip_nothing
    (hfares : ∀ room s result s', Pulls room s result s' → s.Fares fault (lie room) room result s')
    (hdst : dst.size = 0) (hturn : d.turn dst = .inl (dst, d))
    (h : Row Pulls d s (dst :: dsts) answers) :
    ∃ s' s'' delivery later, s'.without fault = s.without fault ∧ Pulls 0 s' (.ok delivery) s'' ∧
      answers = (.ok 0, dst) :: later ∧ Row Pulls d s'' dsts later := by
  generalize hrow : dst :: dsts = row at h
  induction h with
  | nil => cases hrow
  | answered turn =>
    obtain ⟨rfl, rfl⟩ := List.cons.inj hrow
    cases hturn.symm.trans turn
  | failed turn pull later ih =>
    obtain ⟨rfl, rfl⟩ := List.cons.inj hrow
    obtain ⟨rfl, rfl⟩ := Prod.mk.inj (Sum.inl.inj (hturn.symm.trans turn))
    obtain ⟨s', s'', delivery, rest, hheld, hpull⟩ := ih hturn rfl
    exact ⟨s', s'', delivery, rest, hheld.trans (hfares _ _ _ _ pull).2, hpull⟩
  | nothing room turn pull later =>
    obtain ⟨rfl, rfl⟩ := List.cons.inj hrow
    exact ⟨_, _, _, _, rfl, pull, rfl, later⟩
  | pulled room =>
    obtain ⟨rfl, rfl⟩ := List.cons.inj hrow
    exact absurd hdst room

theorem Row.skip (hc : engine.Conforms parameters Live) (hd : d.Stays engine Live)
    (hfares : ∀ room s result s', Pulls room s result s' → s.Fares fault (lie room) room result s')
    (hdst : dst.size ≠ 0) (hturn : d.turn dst = .inl (dst', decoded))
    (hunfinished : ¬decoded.Finished) (h : Row Pulls d s (dst :: dsts) answers) :
    ∃ s' s'' delivery, s'.without fault = s.without fault ∧
      Pulls (decoded.offer dst') s' (.ok delivery) s'' ∧
      Row Pulls (decoded.accept delivery decoded.source) s'' (dst' :: dsts) answers := by
  generalize hrow : dst :: dsts = row at h
  induction h generalizing dst with
  | nil => cases hrow
  | answered turn =>
    obtain ⟨rfl, rfl⟩ := List.cons.inj hrow
    cases hturn.symm.trans turn
  | failed turn pull later ih =>
    obtain ⟨rfl, rfl⟩ := List.cons.inj hrow
    obtain ⟨rfl, rfl⟩ := Prod.mk.inj (Sum.inl.inj (hturn.symm.trans turn))
    obtain ⟨hstays, hsize, -⟩ := hd.turn_ask hc hturn
    have hagain := turn_again hc hd hturn fun _ => hunfinished
    obtain ⟨s', s'', delivery, hheld, hpull⟩ := ih hstays (by rwa [hsize]) hagain rfl
    exact ⟨s', s'', delivery, hheld.trans (hfares _ _ _ _ pull).2, hpull⟩
  | nothing room =>
    obtain ⟨rfl, rfl⟩ := List.cons.inj hrow
    exact absurd room hdst
  | pulled room turn pull later =>
    obtain ⟨rfl, rfl⟩ := List.cons.inj hrow
    obtain ⟨rfl, rfl⟩ := Prod.mk.inj (Sum.inl.inj (hturn.symm.trans turn))
    exact ⟨_, _, _, rfl, pull, later⟩

/-- Pulls that succeed on sources that hold the same but for their failures get the same. -/
theorem pulls_same
    (hfares : ∀ room s result s', Pulls room s result s' → s.Fares fault (lie room) room result s')
    {s₁ s₁' s₂ s₂' : Source} {room : Nat} {delivery₁ delivery₂ : Delivery}
    (hheld : s₁.without fault = s₂.without fault) (h₁ : Pulls room s₁ (.ok delivery₁) s₁')
    (h₂ : Pulls room s₂ (.ok delivery₂) s₂') :
    delivery₁ = delivery₂ ∧ s₁'.without fault = s₂'.without fault := by
  have hfirst : Source.next _ _ _ = _ := hfares _ _ _ _ h₁
  have hsecond : Source.next _ _ _ = _ := hfares _ _ _ _ h₂
  rw [hheld, hsecond] at hfirst
  obtain ⟨hdelivery, hrest⟩ := Prod.mk.inj hfirst
  exact ⟨hdelivery.symm, hrest.symm⟩

/-- Rows behind sources that hold the same but for their failures answer the same. The induction is
on one of them; of the other, turns that fail are skipped where a piece is wanted. -/
theorem Row.unique (hc : engine.Conforms parameters Live) (hd : d.Stays engine Live)
    (hfares : ∀ room s result s', Pulls room s result s' → s.Fares fault (lie room) room result s')
    {s₁ s₂ : Source} (hheld : s₁.without fault = s₂.without fault)
    {answers₁ answers₂ : List (Except CodecError Nat × ByteArray)}
    (h₁ : Row Pulls d s₁ dsts answers₁) (h₂ : Row Pulls d s₂ dsts answers₂) :
    answers₁ = answers₂ := by
  induction h₁ generalizing s₂ answers₂ with
  | nil =>
    cases h₂
    rfl
  | answered turn later ih =>
    have hnext := (hd.turn_answer hc turn).1
    cases h₂ with
    | answered turn₂ later₂ =>
      obtain ⟨rfl, hrest⟩ := Prod.mk.inj (Sum.inr.inj (turn.symm.trans turn₂))
      obtain ⟨rfl, rfl⟩ := Prod.mk.inj hrest
      rw [ih hnext hheld later₂]
    | failed turn₂ | nothing _ turn₂ | pulled _ turn₂ => cases turn.symm.trans turn₂
  | @failed d decoded s s' dst dst' dsts e answers turn pull later ih =>
    obtain ⟨hstays, hsize, -⟩ := hd.turn_ask hc turn
    by_cases hunfinished : dst.size ≠ 0 → ¬decoded.Finished
    · exact ih hstays ((hfares _ _ _ _ pull).2.trans hheld) (h₂.reroot hc hd turn hunfinished)
    · obtain ⟨hdst, hfinished⟩ := Classical.not_imp.mp hunfinished
      rw [not_not] at hfinished
      rw [h₂.of_finished hc hd hdst turn hfinished]
      exact later.finished hstays hfinished
  | @nothing d s s' dst dsts delivery answers room turn pull later ih =>
    obtain ⟨t, t', delivery₂, later₂, hskip, hpull, rfl, hlater⟩ := h₂.skip_nothing hfares room turn
    obtain ⟨-, hrest⟩ := pulls_same hfares (hheld.trans hskip.symm) pull hpull
    rw [ih hd hrest hlater]
  | @pulled d decoded s s' dst dst' dsts delivery answers room turn pull later ih =>
    obtain ⟨hstays, -, hwaits⟩ := hd.turn_ask hc turn
    have hnext := hstays.accept (hwaits room) delivery decoded.source
    by_cases hfinished : decoded.Finished
    · rw [h₂.of_finished hc hd room turn hfinished]
      exact later.finished hnext (hfinished.accept _ _)
    · obtain ⟨t, t', delivery₂, hskip, hpull, hlater⟩ := h₂.skip hc hd hfares room turn hfinished
      obtain ⟨rfl, hrest⟩ := pulls_same hfares (hheld.trans hskip.symm) pull hpull
      exact ih hnext hrest hlater

theorem Attempts.stays (hc : engine.Conforms parameters Live) {s s' : Source} {d' : Decompressor ω σ}
    {result : Except CodecError Nat} (h : Attempts Pulls d s dst result dst' d' s')
    (hd : d.Stays engine Live) : d'.Stays engine Live := by
  induction h with
  | answered turn => exact (hd.turn_answer hc turn).1
  | failed turn => exact (hd.turn_ask hc turn).1
  | nothing => exact hd
  | pulled room turn pull rest ih =>
    obtain ⟨hstays, -, hwaits⟩ := hd.turn_ask hc turn
    exact ih (hstays.accept (hwaits room) _ _)

theorem Attempts.costs (hc : engine.Conforms parameters Live)
    (hcosts : ∀ room s result s', Pulls room s result s' → s.Costs fault result s')
    {s s' : Source} {d' : Decompressor ω σ} {result : Except CodecError Nat}
    (h : Attempts Pulls d s dst result dst' d' s') (hd : d.Stays engine Live) :
    s'.faults fault ≤ s.faults fault ∧
      ∀ e, result = .error e → e.Passing → s'.faults fault < s.faults fault := by
  induction h with
  | answered turn =>
    have hkept := (hd.turn_answer hc turn).2
    exact ⟨Nat.le_refl _, fun e he hpassing => absurd hpassing (hkept e he)⟩
  | failed turn pull =>
    have hless := hcosts _ _ _ _ pull
    exact ⟨Nat.le_of_lt hless, fun _ _ _ => hless⟩
  | nothing room turn pull => exact ⟨hcosts _ _ _ _ pull, nofun⟩
  | pulled room turn pull rest ih =>
    obtain ⟨hstays, -, hwaits⟩ := hd.turn_ask hc turn
    obtain ⟨hle, hless⟩ := ih (hstays.accept (hwaits room) _ _)
    have hfirst := hcosts _ _ _ _ pull
    exact ⟨Nat.le_trans hle hfirst, fun e he hpassing => Nat.lt_of_lt_of_le (hless e he hpassing) hfirst⟩

/-- What every pull does to the source a read does to it. -/
theorem Attempts.related {R : Source → Source → Prop} (hrefl : ∀ s, R s s)
    (htrans : ∀ {s s' s''}, R s s' → R s' s'' → R s s'')
    (hpulls : ∀ room s result s', Pulls room s result s' → R s s') {s s' : Source}
    {d' : Decompressor ω σ} {result : Except CodecError Nat}
    (h : Attempts Pulls d s dst result dst' d' s') : R s s' := by
  induction h with
  | answered => exact hrefl _
  | failed _ pull => exact hpulls _ _ _ _ pull
  | nothing _ _ pull => exact hpulls _ _ _ _ pull
  | pulled _ _ pull _ ih => exact htrans (hpulls _ _ _ _ pull) ih

theorem Row.of_answer (hfares : ∀ room s result s', Pulls room s result s' →
      s.Fares fault (lie room) room result s')
    {s s' : Source} {d' : Decompressor ω σ} {result : Except CodecError Nat}
    (h : Attempts Pulls d s dst result dst' d' s') (hkept : ∀ e, result = .error e → ¬e.Passing)
    (later : Row Pulls d' s' dsts answers) :
    Row Pulls d s (dst :: dsts) ((result, dst') :: answers) := by
  induction h with
  | answered turn => exact .answered turn later
  | failed turn pull => exact absurd (hfares _ _ _ _ pull).1 (hkept _ rfl)
  | nothing room turn pull => exact .nothing room turn pull later
  | pulled room turn pull rest ih => exact .pulled room turn pull (ih hkept later)

theorem Row.of_failure (hc : engine.Conforms parameters Live) (hd : d.Stays engine Live)
    {s s' : Source} {d' : Decompressor ω σ} {e : CodecError}
    (h : Attempts Pulls d s dst (.error e) dst' d' s') (hpassing : e.Passing)
    (later : Row Pulls d' s' (dst' :: dsts) answers) : Row Pulls d s (dst :: dsts) answers := by
  generalize hresult : Except.error e = result at h
  induction h with
  | answered turn => exact absurd hpassing ((hd.turn_answer hc turn).2 e hresult.symm)
  | failed turn pull => exact .failed turn pull later
  | nothing => cases hresult
  | pulled room turn pull rest ih =>
    obtain ⟨hstays, -, hwaits⟩ := hd.turn_ask hc turn
    exact .pulled room turn pull (ih (hstays.accept (hwaits room) _ _) later hresult)

end Rows

end Decompressor

section Persists

variable {ω σ D : Type} {Reads : D → ByteArray → Except CodecError Nat → ByteArray → D → Prop}

/-- Where every read can be made, and uses up something where it fails, persistent reading comes to
an end. -/
theorem persists_exists (Good : D → Prop) (measure : D → Nat)
    (hread : ∀ d dst, Good d → ∃ result dst' d', Reads d dst result dst' d' ∧ Good d' ∧
      ∀ e, result = .error e → e.Passing → measure d' < measure d)
    (dsts : List ByteArray) {d : D} (hd : Good d) : ∃ answers, Persists Reads d dsts answers := by
  induction dsts generalizing d with
  | nil => exact ⟨[], .nil d⟩
  | cons dst dsts ih =>
    induction hm : measure d using Nat.strong_induction_on generalizing d dst with
    | _ m again =>
      obtain ⟨result, dst', d', hreads, hd', hless⟩ := hread d dst hd
      by_cases hpassing : ∃ e, result = .error e ∧ e.Passing
      · obtain ⟨e, rfl, hpassing⟩ := hpassing
        obtain ⟨answers, hlater⟩ := again _ (hm ▸ hless e rfl hpassing) dst' hd' rfl
        exact ⟨answers, .again hreads hpassing hlater⟩
      · obtain ⟨answers, hlater⟩ := ih hd'
        exact ⟨_, .answered hreads (fun e he h => hpassing ⟨e, he, h⟩) hlater⟩

variable {engine : DecoderEngine ω σ} {parameters : List Parameter} {Live : σ → ω → Prop}
  {fault : SourceAnswer → Bool} {lie : Nat → Nat → Delivery}
  {Pulls : Nat → Source → Except CodecError Delivery → Source → Prop}

theorem row_of_persists (hc : engine.Conforms parameters Live)
    (hfares : ∀ room s result s', Pulls room s result s' → s.Fares fault (lie room) room result s')
    (Good : D → Prop) (view : D → Decompressor ω σ) (source : D → Source)
    (hgood : ∀ d, Good d → (view d).Stays engine Live)
    (hreads : ∀ d dst result dst' d', Good d → Reads d dst result dst' d' → Good d' ∧
      (Decompressor.Attempts Pulls (view d) (source d) dst result dst' (view d') (source d') ∨
        (∃ e, result = .error e ∧ e.Passing) ∧ dst' = dst ∧ d' = d))
    {d : D} {dsts : List ByteArray} {answers : List (Except CodecError Nat × ByteArray)}
    (hd : Good d) (h : Persists Reads d dsts answers) :
    Decompressor.Row Pulls (view d) (source d) dsts answers := by
  induction h with
  | nil => exact .nil ..
  | answered read kept later ih =>
    obtain ⟨hd', hattempts | ⟨⟨e, he, hpassing⟩, -⟩⟩ := hreads _ _ _ _ _ hd read
    · exact .of_answer hfares hattempts kept (ih hd')
    · exact absurd hpassing (kept e he)
  | again read passing later ih =>
    obtain ⟨hd', hattempts | ⟨-, rfl, rfl⟩⟩ := hreads _ _ _ _ _ hd read
    · exact .of_failure hc (hgood _ hd) hattempts passing (ih hd')
    · exact ih hd

end Persists

end StreamCodec
