import StreamCodec.Proofs.Ledger

/-!
# Drives of a decoder session

A drive of a decoder session over a recording engine is a row of engine calls
too: the ledger grows by them, the totals by what they moved, and the buffers
move as `Moved` says, whatever the engine answers.
-/
namespace StreamCodec

variable {ω σ : Type}

/-- The engine, with every call entered into a ledger. -/
def DecoderEngine.recording (engine : DecoderEngine ω σ) : DecoderEngine (ω × Ledger) σ where
  create world :=
    let (result, library) := engine.create world.1
    (result, library, world.2)
  setParameter p handle world :=
    let (accepted, handle, library) := engine.setParameter p handle world.1
    (accepted, handle, library, world.2)
  decompress input room handle world :=
    let (reply, handle, library) := engine.decompress input room handle world.1
    (reply, handle, library, world.2 ++ [⟨.decode, input, room, reply⟩])
  hasMoreOutput := engine.hasMoreOutput
  isFinished := engine.isFinished

theorem DecoderEngine.decompress_recording (engine : DecoderEngine ω σ) (input room : ByteArray)
    (handle : σ) (world : ω × Ledger) {reply : Reply} {handle' : σ} {world' : ω × Ledger}
    (h : engine.recording.decompress input room handle world = (reply, handle', world')) :
    world'.2 = world.2 ++ [⟨.decode, input, room, reply⟩] := by
  simp only [recording, Prod.mk.injEq] at h
  obtain ⟨rfl, rfl, rfl⟩ := h
  rfl

namespace DecoderSession

/-- A round of a drive whose call neither fails nor ends the stream. -/
theorem drive_round {s : DecoderSession ω σ} {handle handle' : σ} {w : Windows} {reply : Reply}
    {world : ω} (hroom : ¬w.dst.availableWrite = 0)
    (hcall : s.engine.decompress w.src.unread w.dst.unwritten handle s.world =
      (reply, handle', world))
    (hfails : ∀ detail, reply.code = .error detail → False) (hends : reply.code = .streamEnd → False)
    (stalled : Nat) :
    drive s handle w stalled =
      let s' := s.record w reply handle' world
      let w' := w.settle reply
      let pending := s.engine.hasMoreOutput handle'
      if w'.dst.availableWrite = 0 then (.destinationTooSmall, s', w')
      else if w'.src.isEmpty && !pending then (.needMoreData, s', w')
      else if w.consumed reply = 0 ∧ w.produced reply = 0 then
        if !pending then (.needMoreData, s', w')
        else if maxStalledCalls ≤ stalled + 1 then (.invalidData, s'.fail s'.noProgress, w')
        else drive s' handle' w' (stalled + 1)
      else drive s' handle' w' 0 := by
  rw [drive, if_neg hroom, hcall]
  dsimp only
  split
  · next h => exact (hfails _ h).elim
  · next h => exact (hends h).elim
  · rfl

/-- What a row of calls does to a session and its buffers. -/
structure Runs (s : DecoderSession (ω × Ledger) σ) (w : Windows) (calls : Ledger)
    (s' : DecoderSession (ω × Ledger) σ) (w' : Windows) : Prop where
  engine : s'.engine = s.engine
  isDisposed : s'.isDisposed = s.isDisposed
  handle : s.handle.isSome → s'.handle.isSome
  ledger : s'.world.2 = s.world.2 ++ calls
  totalIn : s'.totalIn = s.totalIn + (Ledger.consumed calls).length
  totalOut : s'.totalOut = s.totalOut + (Ledger.produced calls).length
  moved : Moved calls w w'

namespace Runs

variable {s s' s'' : DecoderSession (ω × Ledger) σ} {w w' w'' : Windows} {a b : Ledger}

theorem refl (s : DecoderSession (ω × Ledger) σ) (w : Windows) : Runs s w [] s w :=
  ⟨rfl, rfl, id, (List.append_nil _).symm, rfl, rfl, .refl w⟩

theorem trans (first : Runs s w a s' w') (second : Runs s' w' b s'' w'') :
    Runs s w (a ++ b) s'' w'' where
  engine := second.engine.trans first.engine
  isDisposed := second.isDisposed.trans first.isDisposed
  handle := fun h => second.handle (first.handle h)
  ledger := by rw [second.ledger, first.ledger, List.append_assoc]
  totalIn := by
    rw [second.totalIn, first.totalIn, Ledger.consumed_append, List.length_append, Nat.add_assoc]
  totalOut := by
    rw [second.totalOut, first.totalOut, Ledger.produced_append, List.length_append, Nat.add_assoc]
  moved := first.moved.trans second.moved

theorem fail (h : Runs s w a s' w') (detail : String) : Runs s w a (s'.fail detail) w' :=
  ⟨h.engine, h.isDisposed, h.handle, h.ledger, h.totalIn, h.totalOut, h.moved⟩

end Runs

/-- One engine call is one entry, and the counts of the totals are those of the entry. -/
theorem runs_record {engine : DecoderEngine ω σ} {s : DecoderSession (ω × Ledger) σ}
    (he : s.engine = engine.recording) (handle : σ) (w : Windows) {reply : Reply} {handle' : σ}
    {world' : ω × Ledger}
    (hcall : s.engine.decompress w.src.unread w.dst.unwritten handle s.world =
      (reply, handle', world')) :
    Runs s w [⟨.decode, w.src.unread, w.dst.unwritten, reply⟩] (s.record w reply handle' world')
      (w.settle reply) where
  engine := rfl
  isDisposed := rfl
  handle := fun _ => rfl
  ledger := by
    rw [he] at hcall
    exact engine.decompress_recording _ _ handle s.world hcall
  totalIn := by rw [Ledger.consumed_singleton, Windows.length_consumed]; rfl
  totalOut := by rw [Ledger.produced_singleton, Windows.length_produced]; rfl
  moved := .settle _ w reply

theorem drive_runs {engine : DecoderEngine ω σ} (s : DecoderSession (ω × Ledger) σ)
    (he : s.engine = engine.recording) (handle : σ) (w : Windows) (stalled : Nat) :
    ∃ calls, Runs s w calls (drive s handle w stalled).2.1 (drive s handle w stalled).2.2 := by
  fun_induction drive s handle w stalled with
  | case1 s handle w stalled => exact ⟨[], .refl s w⟩
  | case2 s handle w stalled hroom reply handle' world hcall s' w' detail hcode =>
    exact ⟨_, (runs_record he handle w hcall).fail detail⟩
  | case3 s handle w stalled hroom reply handle' world hcall =>
    exact ⟨_, runs_record he handle w hcall⟩
  | case4 s handle w stalled hroom reply handle' world hcall =>
    exact ⟨_, runs_record he handle w hcall⟩
  | case5 s handle w stalled hroom reply handle' world hcall =>
    exact ⟨_, runs_record he handle w hcall⟩
  | case6 s handle w stalled hroom reply handle' world hcall =>
    exact ⟨_, runs_record he handle w hcall⟩
  | case7 s handle w stalled hroom reply handle' world hcall =>
    exact ⟨_, (runs_record he handle w hcall).fail _⟩
  | case8 s handle w stalled hroom reply handle' world hcall s' w' =>
    rename_i ih
    obtain ⟨calls, h⟩ := ih he
    exact ⟨_, (runs_record he handle w hcall).trans h⟩
  | case9 s handle w stalled hroom reply handle' world hcall s' w' =>
    rename_i ih
    obtain ⟨calls, h⟩ := ih he
    exact ⟨_, (runs_record he handle w hcall).trans h⟩

theorem opened_of_isDisposed {s : DecoderSession ω σ} (h : s.isDisposed = true) :
    s.opened = (.error .disposed, s) := by
  simp [opened, h]

theorem opened_of_handle {s : DecoderSession ω σ} {handle : σ} (h : s.isDisposed = false)
    (hh : s.handle = some handle) : s.opened = (.ok handle, s) := by
  simp [opened, h, hh]

theorem decompress_of_isFinished {s : DecoderSession ω σ} (hd : s.isDisposed = false)
    (hfinished : s.isFinished = true) (w : Windows) : s.decompress w = (.ok .done, s, w) := by
  cases hh : s.handle with
  | none =>
    rw [isFinished, hh] at hfinished
    cases hfinished
  | some handle =>
    rw [isFinished, hh, Option.any_some] at hfinished
    rw [decompress, opened_of_handle hd hh]
    exact if_pos hfinished

/-- An operation on an open session succeeds as such, and is a row of calls. -/
theorem decompress_runs {engine : DecoderEngine ω σ} (s : DecoderSession (ω × Ledger) σ)
    (he : s.engine = engine.recording) (hd : s.isDisposed = false) (hh : s.handle.isSome)
    (w : Windows) :
    ∃ status s' w' calls, s.decompress w = (.ok status, s', w') ∧ Runs s w calls s' w' := by
  obtain ⟨handle, hh⟩ := Option.isSome_iff_exists.mp hh
  simp only [decompress, opened_of_handle hd hh]
  split
  · exact ⟨_, _, _, [], rfl, .refl s w⟩
  · split
    · exact ⟨_, _, _, [], rfl, .refl s w⟩
    · obtain ⟨calls, h⟩ := drive_runs s he handle w 0
      exact ⟨_, _, _, calls, rfl, h⟩

end DecoderSession

end StreamCodec
