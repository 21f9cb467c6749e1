import StreamCodec.Proofs.DecoderOutcome
import StreamCodec.Proofs.EncoderOutcome

/-!
# How often a drive calls its engine

A drive comes back from any engine, and the bytes that it could move bound how
often it calls: between two calls that move a byte there is room for one that
moves nothing, and a second one in a row is the last of the drive.

`Ledger.Paced` is that rhythm. A row of calls in it is never longer than what it
moved allows, and a row of calls moves no more than the buffers have to offer.
-/
namespace StreamCodec

def EngineCall.Idle (call : EngineCall) : Prop := call.consumed = [] ∧ call.produced = []

namespace Ledger

/-- How many bytes a row of calls moved. -/
def moved (calls : Ledger) : Nat := calls.consumed.length + calls.produced.length

theorem moved_cons (call : EngineCall) (calls : Ledger) :
    moved (call :: calls) = moved [call] + moved calls := by
  have happend : call :: calls = [call] ++ calls := rfl
  simp only [moved, happend, consumed_append, produced_append, List.length_append]
  omega

theorem moved_pos {call : EngineCall} (h : ¬call.Idle) : 0 < moved [call] := by
  rw [moved, consumed_singleton, produced_singleton]
  by_contra hnone
  have hzero : call.consumed.length = 0 ∧ call.produced.length = 0 := by omega
  exact h ⟨List.length_eq_zero_iff.mp hzero.1, List.length_eq_zero_iff.mp hzero.2⟩

/-- A row of calls that goes on behind idle calls only as long as these are fewer than too many.
The number is that of the idle calls just before the row. -/
inductive Paced : Nat → Ledger → Prop
  | nil {stalled : Nat} : Paced stalled []
  | last {stalled : Nat} (call : EngineCall) : Paced stalled [call]
  | moved {stalled : Nat} {call : EngineCall} {calls : Ledger} (moves : ¬call.Idle)
      (rest : Paced 0 calls) : Paced stalled (call :: calls)
  | stalled {stalled : Nat} {call : EngineCall} {calls : Ledger}
      (patient : stalled + 1 < maxStalledCalls) (rest : Paced (stalled + 1) calls) :
      Paced stalled (call :: calls)

/-- Two idle calls in a row are the last two. -/
def StopsIdle (calls : Ledger) : Prop :=
  ∀ before first second after, calls = before ++ first :: second :: after → first.Idle →
    second.Idle → after = []

namespace Paced

variable {stalled : Nat} {calls : Ledger}

/-- Every byte moved allows for as many calls as are too many idle ones. -/
theorem length_le (h : Paced stalled calls) (hpatient : stalled < maxStalledCalls) :
    calls.length ≤ maxStalledCalls * calls.moved + (maxStalledCalls - stalled) := by
  induction h with
  | nil => exact Nat.zero_le _
  | last call =>
    rw [List.length_singleton]
    omega
  | @moved stalled call calls moves rest ih =>
    have hrest := ih (by decide)
    have hmore : maxStalledCalls * Ledger.moved [call] ≥ maxStalledCalls * 1 :=
      Nat.mul_le_mul_left _ (moved_pos moves)
    rw [List.length_cons, moved_cons, Nat.mul_add]
    omega
  | stalled patient rest ih =>
    have hrest := ih patient
    rw [List.length_cons, moved_cons, Nat.mul_add]
    omega

/-- By induction on what stands before the two idle calls. -/
theorem stopsIdle (h : Paced stalled calls) : calls.StopsIdle := by
  intro before first second after hcalls hfirst hsecond
  induction before generalizing stalled calls with
  | nil =>
    subst hcalls
    cases h with
    | moved moves => exact absurd hfirst moves
    | stalled patient rest =>
      cases rest with
      | last => rfl
      | moved moves => exact absurd hsecond moves
      | stalled patient' =>
        unfold maxStalledCalls at patient'
        omega
  | cons call before ih =>
    subst hcalls
    rw [List.cons_append] at h
    generalize hrest : before ++ first :: second :: after = rest at h
    cases h with
    | last => simp at hrest
    | moved _ rest => exact ih rest hrest.symm
    | stalled _ rest => exact ih rest hrest.symm

end Paced

/-- The ledger grows by a row of calls in that rhythm. -/
def Grows (stalled : Nat) (before after : Ledger) : Prop :=
  ∃ calls, after = before ++ calls ∧ Paced stalled calls

namespace Grows

variable {stalled : Nat} {before after later : Ledger} {call : EngineCall}

theorem none (ledger : Ledger) : Grows stalled ledger ledger :=
  ⟨[], (List.append_nil _).symm, .nil⟩

theorem once (h : after = before ++ [call]) : Grows stalled before after := ⟨[call], h, .last call⟩

theorem moved (h : after = before ++ [call]) (hmoves : ¬call.Idle) (hrest : Grows 0 after later) :
    Grows stalled before later := by
  obtain ⟨calls, rfl, hpaced⟩ := hrest
  refine ⟨call :: calls, ?_, .moved hmoves hpaced⟩
  rw [h, List.append_assoc, List.singleton_append]

theorem waits (h : after = before ++ [call]) (hpatient : stalled + 1 < maxStalledCalls)
    (hrest : Grows (stalled + 1) after later) : Grows stalled before later := by
  obtain ⟨calls, rfl, hpaced⟩ := hrest
  refine ⟨call :: calls, ?_, .stalled hpatient hpaced⟩
  rw [h, List.append_assoc, List.singleton_append]

end Grows

end Ledger

/-- A call that a session counts as moving something does. -/
theorem Windows.not_idle (task : Task) {w : Windows} {reply : Reply}
    (h : ¬(w.consumed reply = 0 ∧ w.produced reply = 0)) :
    ¬EngineCall.Idle ⟨task, w.src.unread, w.dst.unwritten, reply⟩ := by
  rintro ⟨hconsumed, hproduced⟩
  refine h ⟨?_, ?_⟩
  · rw [← w.length_consumed task, hconsumed, List.length_nil]
  · rw [← w.length_produced task, hproduced, List.length_nil]

theorem Moved.moved_le {calls : Ledger} {w w' : Windows} (h : Moved calls w w') :
    calls.moved ≤ w.budget := by
  have hsrc := congrArg List.length h.src
  have hdst := congrArg List.length h.dst
  rw [List.length_append, CursorBuffer.length_octets_unread, CursorBuffer.length_octets_unread] at hsrc hdst
  have hpos := h.pos
  have hcapacity := h.capacity
  have := w.dst.pos_le_size
  have := w'.dst.pos_le_size
  have := w'.dst.size_le_capacity
  simp only [Ledger.moved, Windows.budget, CursorBuffer.availableRead, CursorBuffer.availableWrite,
    CursorBuffer.capacity] at *
  omega

/-- The calls of one operation on these buffers. -/
structure Ledger.Bounded (calls : Ledger) (w : Windows) : Prop where
  length : calls.length ≤ 2 * (w.src.availableRead + w.dst.availableWrite) + 2
  stops : calls.StopsIdle

namespace Ledger.Bounded

theorem none (w : Windows) : Bounded [] w := ⟨Nat.zero_le _, (Paced.nil : Paced 0 []).stopsIdle⟩

theorem of_paced {calls : Ledger} {w w' : Windows} (hpaced : Paced 0 calls) (hmoved : Moved calls w w') :
    Bounded calls w := by
  refine ⟨?_, hpaced.stopsIdle⟩
  have hlength := hpaced.length_le (by decide)
  have hbudget := hmoved.moved_le
  unfold maxStalledCalls at hlength
  unfold Windows.budget at hbudget
  omega

end Ledger.Bounded

variable {ω σ : Type}

/-- The drive of an encoder session. The induction is on the drive's own recursion: each of its
ends is behind one call, and a round that goes on has moved something or has patience left. -/
theorem EncoderSession.drive_grows {engine : EncoderEngine ω σ} (op : FlushOp)
    (s : EncoderSession (ω × Ledger) σ) (he : s.engine = engine.recording) (handle : σ) (w : Windows)
    (stalled : Nat) :
    Ledger.Grows stalled s.world.2 (drive op s handle w stalled).2.1.world.2 := by
  fun_induction drive op s handle w stalled with
  | case1 s => exact .none _
  | case2 s handle w stalled hroom reply handle' world hcall
  | case4 s handle w stalled hroom reply handle' world hcall
  | case5 s handle w stalled hroom reply handle' world hcall
  | case6 s handle w stalled hroom reply handle' world hcall =>
    exact .once (charged_record he op handle w hcall).ledger
  | case3 s handle w stalled hroom reply handle' world hcall =>
    exact .once ((charged_record he op handle w hcall).settled op).ledger
  | case7 s handle w stalled hroom reply handle' world hcall s' w' hdone hfull hstall pending hp hs
      hcode ih =>
    refine .waits (charged_record he op handle w hcall).ledger ?_ (ih he)
    simp only [Bool.or_eq_true, decide_eq_true_eq, not_or] at hs
    omega
  | case8 s handle w stalled hroom reply handle' world hcall s' w' hdone hfull hmoved hcode ih =>
    exact .moved (charged_record he op handle w hcall).ledger (Windows.not_idle _ hmoved) (ih he)

theorem DecoderSession.drive_grows {engine : DecoderEngine ω σ} (s : DecoderSession (ω × Ledger) σ)
    (he : s.engine = engine.recording) (handle : σ) (w : Windows) (stalled : Nat) :
    Ledger.Grows stalled s.world.2 (drive s handle w stalled).2.1.world.2 := by
  fun_induction drive s handle w stalled with
  | case1 s => exact .none _
  | case2 s handle w stalled hroom reply handle' world hcall
  | case3 s handle w stalled hroom reply handle' world hcall
  | case4 s handle w stalled hroom reply handle' world hcall
  | case5 s handle w stalled hroom reply handle' world hcall
  | case6 s handle w stalled hroom reply handle' world hcall
  | case7 s handle w stalled hroom reply handle' world hcall =>
    exact .once (runs_record he handle w hcall).ledger
  | case8 s handle w stalled hroom reply handle' world hcall s' w' pending hfull hempty hstall hnone
      hlast hfails hends ih =>
    refine .waits (runs_record he handle w hcall).ledger ?_ (ih he)
    omega
  | case9 s handle w stalled hroom reply handle' world hcall s' w' pending hfull hempty hmoved hfails
      hends ih =>
    exact .moved (runs_record he handle w hcall).ledger (Windows.not_idle _ hmoved) (ih he)

theorem EncoderSession.calls_bounded (op : FlushOp) (s : EncoderSession ω σ) (w : Windows) :
    (s.calls op w).Bounded w := by
  rcases hopened : s.opened with ⟨e | handle, s'⟩
  · have hcalls : s.calls op w = [] := by
      simp only [calls, compress, recorded_opened, hopened]
      rfl
    rw [hcalls]
    exact .none w
  · have hcalls := congrArg Prod.snd (compress_opened op hopened w)
    dsimp only at hcalls
    split at hcalls
    · rw [hcalls]
      exact .none w
    · split at hcalls
      · rw [hcalls]
        exact .none w
      · have he : (s'.recorded []).engine = s'.engine.recording := rfl
        obtain ⟨_, hends⟩ := drive_ends op (s'.recorded []) he handle w 0
        obtain ⟨_, hledger, hpaced⟩ := drive_grows op (s'.recorded []) he handle w 0
        obtain rfl := List.append_cancel_left (hends.charged.ledger.symm.trans hledger)
        rw [hcalls, hledger]
        exact .of_paced hpaced hends.moved

theorem DecoderSession.calls_bounded (s : DecoderSession ω σ) (w : Windows) :
    (s.calls w).Bounded w := by
  rcases hopened : s.opened with ⟨e | handle, s'⟩
  · have hcalls : s.calls w = [] := by
      simp only [calls, decompress, recorded_opened, hopened]
      rfl
    rw [hcalls]
    exact .none w
  · have hcalls := congrArg Prod.snd (decompress_opened hopened w)
    dsimp only at hcalls
    split at hcalls
    · rw [hcalls]
      exact .none w
    · split at hcalls
      · rw [hcalls]
        exact .none w
      · have he : (s'.recorded []).engine = s'.engine.recording := rfl
        obtain ⟨_, hruns⟩ := drive_runs (s'.recorded []) he handle w 0
        obtain ⟨_, hledger, hpaced⟩ := drive_grows (s'.recorded []) he handle w 0
        obtain rfl := List.append_cancel_left (hruns.ledger.symm.trans hledger)
        rw [hcalls, hledger]
        exact .of_paced hpaced hruns.moved

/-- Whatever an engine answers, one operation of a session calls it at most twice for each byte that
the buffers have to offer and twice more, and two idle calls in a row are the operation's last. -/
theorem drives_stop {ε δ : Type} :
    (∀ (s : EncoderSession ω ε) (op : FlushOp) (w : Windows), (s.calls op w).Bounded w) ∧
      ∀ (s : DecoderSession ω δ) (w : Windows), (s.calls w).Bounded w := by
  constructor
  · intro s op w
    exact s.calls_bounded op w
  · intro s w
    exact s.calls_bounded w

end StreamCodec
