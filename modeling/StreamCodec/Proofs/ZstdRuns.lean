import StreamCodec.Proofs.EncoderDrive
import StreamCodec.Proofs.GuardedEngines
import Mathlib.Order.WellFounded

/-!
# How often the Zstandard encoder runs its library

A call of the encoder runs the library while both input and room remain, and a
session calls the encoder while bytes move. Every run that moves a byte uses up
some of the windows, and a run that fails is the last of the operation, so both
loops together run the library at most once for each byte on offer and once more.
Nothing limits the runs in between that succeed although they move nothing: they
come on top, one by one. Where there is no end of them the call does not come
back, and the session, which counts the stalled calls, is not asked.

The runs are counted by the library itself, which keeps a `Tally` beside its state.
-/
namespace StreamCodec

namespace Zstd

variable {ω : Type}

/-- The run succeeded and moved nothing. -/
def Run.isIdle (run : Run) : Bool := run.used == 0 && run.produced == 0 && run.result.isOk

/-- How many runs there were, and how many of them were idle. -/
structure Tally where
  runs : Nat := 0
  idle : Nat := 0

namespace Tally

def count (tally : Tally) (run : Run) : Tally where
  runs := tally.runs + 1
  idle := tally.idle + run.isIdle.toNat

/-- From one tally to a later one there is a run for each unit that was paid, and the idle runs. -/
def Pays (paid : Nat) (before after : Tally) : Prop :=
  after.runs + before.idle ≤ before.runs + after.idle + paid

theorem Pays.refl (tally : Tally) : Pays 0 tally tally := Nat.le_refl _

theorem Pays.mono {paid more : Nat} {before after : Tally} (h : Pays paid before after)
    (hle : paid ≤ more) : Pays more before after := by
  unfold Pays at *
  omega

theorem Pays.trans {first second : Nat} {before between after : Tally}
    (h : Pays first before between) (h' : Pays second between after) :
    Pays (first + second) before after := by
  unfold Pays at *
  omega

end Tally

namespace Backend

/-- A call that is not counted. -/
def uncounted {α : Type} (call : ω → α × ω) (world : ω × Tally) : α × ω × Tally :=
  ((call world.1).1, (call world.1).2, world.2)

/-- The library with a tally of its runs. -/
def tallied (backend : Backend ω) : Backend (ω × Tally) where
  newEncoder := uncounted backend.newEncoder
  setLevel level := uncounted (backend.setLevel level)
  setWindow log := uncounted (backend.setWindow log)
  run input room world :=
    let (run, after) := backend.run input room world.1
    (run, after, world.2.count run)
  flush room := uncounted (backend.flush room)
  finish room := uncounted (backend.finish room)
  newDecoder := uncounted backend.newDecoder
  setWindowMax log := uncounted (backend.setWindowMax log)
  decode input room := uncounted (backend.decode input room)

end Backend

/-- How much a run moves on what is left of the windows. -/
def Progress.moves (p : Progress) (offered : Nat) (run : Run) : Nat :=
  min run.used (offered - p.used) + min run.produced (p.room.size - p.produced)

theorem Progress.advance_moves (p : Progress) (offered : Nat) (run : Run) :
    (p.advance offered run).used + (p.advance offered run).produced =
      p.used + p.produced + p.moves offered run := by
  simp only [advance, moves]
  omega

/-- One failure ends an operation. -/
def failures {α : Type} : Except String α → Nat
  | .ok _ => 0
  | .error _ => 1

/-- A run that succeeds pays with the bytes that it moves, unless it is idle. -/
theorem Tally.pays_count (tally : Tally) {p : Progress} {offered : Nat} (run : Run)
    (hused : p.used < offered) (hproduced : p.produced < p.room.size) :
    Pays (p.moves offered run + failures run.result) tally (tally.count run) := by
  unfold Pays count
  dsimp only
  cases hresult : run.result with
  | error detail =>
    rw [failures]
    omega
  | ok n =>
    have hidle : run.isIdle = (run.used == 0 && run.produced == 0) := by
      rw [Run.isIdle, hresult]
      exact Bool.and_true _
    unfold Progress.moves
    by_cases hnone : run.used = 0 ∧ run.produced = 0
    · rw [hidle, hnone.1, hnone.2, failures]
      simp
      omega
    · rw [failures]
      omega

section Runs

variable {backend : Backend ω} {input room : ByteArray}

/-- What one more run comes to. -/
inductive Ran (backend : Backend ω) (input : ByteArray) (p : Progress) (world : ω) :
    (Progress × ω) ⊕ (Except String Unit × Progress × ω) → Prop
  | rests (rest : ¬(p.used < input.size ∧ p.produced < p.room.size)) :
      Ran backend input p world (.inr (.ok (), p, world))
  | succeeds {run : Run} {after : ω} {left : Nat} (used : p.used < input.size)
      (produced : p.produced < p.room.size)
      (runs : backend.run (input.extract p.used input.size) p.rest world = (run, after))
      (result : run.result = .ok left) :
      Ran backend input p world (.inl (p.advance input.size run, after))
  | fails {run : Run} {after : ω} {detail : String} (used : p.used < input.size)
      (produced : p.produced < p.room.size)
      (runs : backend.run (input.extract p.used input.size) p.rest world = (run, after))
      (result : run.result = .error detail) :
      Ran backend input p world (.inr (.error detail, p.advance input.size run, after))

theorem runOnce_ran (backend : Backend ω) (input : ByteArray) (p : Progress) (world : ω) :
    Ran backend input p world (runOnce backend input (p, world)) := by
  unfold runOnce
  dsimp only
  split
  case isTrue hmore =>
    cases hresult : (backend.run (input.extract p.used input.size) p.rest world).1.result with
    | ok left => exact .succeeds hmore.1 hmore.2 rfl hresult
    | error detail => exact .fails hmore.1 hmore.2 rfl hresult
  case isFalse hrest => exact .rests hrest

theorem runs_pay {world after : ω × Tally} {p : Progress} {run : Run}
    (hused : p.used < input.size) (hproduced : p.produced < p.room.size)
    (hrun : backend.tallied.run (input.extract p.used input.size) p.rest world = (run, after)) :
    world.2.Pays (p.moves input.size run + failures run.result) after.2 := by
  obtain ⟨rfl, rfl⟩ := Prod.mk.inj hrun
  exact world.2.pays_count _ hused hproduced

/-- The runs of a call stay within its windows and are paid for by what they moved. The invariant
is that of every round. -/
theorem runAll_pays (backend : Backend ω) (input room : ByteArray) (world : ω × Tally) :
    (runAll backend.tallied input ⟨0, 0, room⟩ world).2.1.Inside input.size room.size ∧
      world.2.Pays ((runAll backend.tallied input ⟨0, 0, room⟩ world).2.1.used +
          (runAll backend.tallied input ⟨0, 0, room⟩ world).2.1.produced +
          failures (runAll backend.tallied input ⟨0, 0, room⟩ world).1)
        (runAll backend.tallied input ⟨0, 0, room⟩ world).2.2.2 := by
  have hstart : (Progress.mk 0 0 room).Inside input.size room.size :=
    ⟨Nat.zero_le _, Nat.zero_le _, rfl⟩
  unfold runAll
  cases hloop : loop (runOnce backend.tallied input) (⟨0, 0, room⟩, world) with
  | none => exact ⟨hstart, (Tally.Pays.refl _).mono (Nat.zero_le _)⟩
  | some result =>
    obtain ⟨⟨p, reached⟩, ⟨hp, hpaid⟩, hlast⟩ := loop_invariant
      (fun x => x.1.Inside input.size room.size ∧ world.2.Pays (x.1.used + x.1.produced) x.2.2)
      (fun ⟨p, reached⟩ x' hx hgoes => by
        obtain ⟨hp, hpaid⟩ := hx
        have hran := runOnce_ran backend.tallied input p reached
        rw [hgoes] at hran
        cases hran with
        | @succeeds run _ _ used produced runs result =>
          refine ⟨hp.advance run, (hpaid.trans (runs_pay used produced runs)).mono ?_⟩
          rw [p.advance_moves, result, failures, Nat.add_zero])
      ⟨hstart, Tally.Pays.refl _⟩ hloop
    have hran := runOnce_ran backend.tallied input p reached
    rw [hlast] at hran
    cases hran with
    | rests => exact ⟨hp, hpaid⟩
    | @fails run _ detail used produced runs result =>
      refine ⟨hp.advance run, (hpaid.trans (runs_pay used produced runs)).mono ?_⟩
      rw [Option.getD_some, p.advance_moves, result, failures, failures]
      exact Nat.le_refl _

def codeFailures : CallCode → Nat
  | .error _ => 1
  | _ => 0

theorem codeFailures_le (code : CallCode) : codeFailures code ≤ 1 := by
  cases code <;> simp [codeFailures]

theorem codeFailures_of_ne {code : CallCode} (h : ∀ detail, code = .error detail → False) :
    codeFailures code = 0 := by
  cases code with
  | error detail => exact (h detail rfl).elim
  | _ => rfl

theorem reply_pays {p : Progress} (hp : p.Inside input.size room.size) {before after : Tally}
    {failed : Nat} (h : before.Pays (p.used + p.produced + failed) after) {code : CallCode}
    (hcode : failed ≤ codeFailures code) :
    before.Pays (input.size - (p.reply input.size code).leftIn +
      (room.size - (p.reply input.size code).leftOut) + codeFailures (p.reply input.size code).code)
      after := by
  have hused := hp.used
  have hproduced := hp.produced
  refine h.mono ?_
  simp only [Progress.reply, hp.room]
  omega

/-- What the library emits behind the runs is not counted. -/
theorem advance_pays {p : Progress} (hp : p.Inside input.size room.size) {before after : Tally}
    (h : before.Pays (p.used + p.produced + 0) after) (run : Run) (code : CallCode) :
    before.Pays (input.size - ((p.advance input.size run).reply input.size code).leftIn +
      (room.size - ((p.advance input.size run).reply input.size code).leftOut) +
      codeFailures ((p.advance input.size run).reply input.size code).code) after := by
  refine reply_pays (hp.advance run) (h.mono ?_) (Nat.zero_le _)
  rw [p.advance_moves]
  omega

theorem compress_pays (op : FlushOp) (handle : Handle) (world : ω × Tally) {reply : Reply}
    {handle' : Handle} {after : ω × Tally}
    (hcall : (encoder backend.tallied).compress op input room handle world = (reply, handle', after)) :
    world.2.Pays (input.size - reply.leftIn + (room.size - reply.leftOut) + codeFailures reply.code)
      after.2 := by
  obtain ⟨hp, hpaid⟩ := runAll_pays backend input room world
  rcases hruns : runAll backend.tallied input ⟨0, 0, room⟩ world with ⟨detail | ⟨⟩, p, reached⟩
  all_goals
    rw [hruns] at hp hpaid
    simp only [encoder, hruns] at hcall
  · cases hcall
    exact reply_pays hp hpaid (Nat.le_refl _)
  · split at hcall
    · cases hcall
      exact reply_pays hp hpaid (Nat.le_refl _)
    · cases op with
      | process =>
        cases hcall
        exact reply_pays hp hpaid (Nat.le_refl _)
      | flush | finish =>
        dsimp only at hcall
        split at hcall
        all_goals
          cases hcall
          exact advance_pays hp hpaid _ _

/-- The tally is kept beside the runs, and changes none of them. -/
theorem runOnce_tallied (backend : Backend ω) (input : ByteArray) (x : Progress × ω × Tally) :
    runOnce backend input (x.1, x.2.1) = (runOnce backend.tallied input x).map
      (fun x => (x.1, x.2.1)) (fun y => (y.1, y.2.1, y.2.2.1)) := by
  obtain ⟨p, world, tally⟩ := x
  unfold runOnce
  dsimp only
  split
  case isTrue =>
    rw [Backend.tallied]
    dsimp only
    cases (backend.run (input.extract p.used input.size) p.rest world).1.result <;> rfl
  case isFalse => rfl

theorem runAll_tallied (backend : Backend ω) (input : ByteArray) (p : Progress) (world : ω × Tally) :
    runAll backend input p world.1 =
      ((runAll backend.tallied input p world).1, (runAll backend.tallied input p world).2.1,
        (runAll backend.tallied input p world).2.2.1) := by
  have hmirrors := loop_map (fun x : Progress × ω × Tally => (x.1, x.2.1))
    (fun y : Except String Unit × Progress × ω × Tally => (y.1, y.2.1, y.2.2.1))
    (runOnce_tallied backend input) (p, world)
  dsimp only at hmirrors
  rw [runAll, hmirrors, runAll]
  cases loop (runOnce backend.tallied input) (p, world) <;> rfl

theorem compress_tallied (backend : Backend ω) (op : FlushOp) (input room : ByteArray)
    (handle : Handle) (world : ω × Tally) :
    (encoder backend).compress op input room handle world.1 =
      (((encoder backend.tallied).compress op input room handle world).1,
        ((encoder backend.tallied).compress op input room handle world).2.1,
        ((encoder backend.tallied).compress op input room handle world).2.2.1) := by
  have hruns := runAll_tallied backend input ⟨0, 0, room⟩ world
  rcases htallied : runAll backend.tallied input ⟨0, 0, room⟩ world with ⟨_ | ⟨⟩, p, reached⟩
  all_goals
    rw [htallied] at hruns
    simp only [encoder, hruns, htallied]
  split
  · rfl
  · cases op with
    | process => rfl
    | flush =>
      simp only [Backend.tallied, Backend.uncounted]
      rcases (backend.flush p.rest reached.1).1.result with _ | _ <;> rfl
    | finish =>
      simp only [Backend.tallied, Backend.uncounted]
      rcases (backend.finish p.rest reached.1).1.result with _ | _ | _ <;> rfl

/-- From some run on every run succeeds and moves nothing, for ever. -/
def Wedged (backend : Backend ω) (input room : ByteArray) (world : ω) : Prop :=
  ∃ x : Nat → Progress × ω, x 0 = (⟨0, 0, room⟩, world) ∧
    (∀ n, runOnce backend input (x n) = .inl (x (n + 1))) ∧
    ∃ start, ∀ n, start ≤ n → (x n).1.used = (x start).1.used ∧
      (x n).1.produced = (x start).1.produced

theorem advanced_of_goes {x x' : Progress × ω} (h : runOnce backend input x = .inl x') :
    ∃ run, x'.1 = x.1.advance input.size run := by
  have hran := runOnce_ran backend input x.1 x.2
  rw [h] at hran
  cases hran with
  | @succeeds run => exact ⟨run, rfl⟩

/-- What never comes to rest is wedged: the windows have only so many bytes to move. -/
theorem runs_endless_iff (backend : Backend ω) (input room : ByteArray) (world : ω) :
    loop (runOnce backend input) (⟨0, 0, room⟩, world) = none ↔ Wedged backend input room world := by
  rw [loop_eq_none]
  constructor
  · rintro ⟨x, hzero, hgoes⟩
    -- The positions never fall, and they stay inside the windows.
    have hinside (n : Nat) : (x n).1.Inside input.size room.size := by
      induction n with
      | zero =>
        rw [hzero]
        exact ⟨Nat.zero_le _, Nat.zero_le _, rfl⟩
      | succ n ih =>
        obtain ⟨run, hrun⟩ := advanced_of_goes (hgoes n)
        rw [hrun]
        exact ih.advance run
    have hrises {m n : Nat} (h : m ≤ n) : (x m).1.used ≤ (x n).1.used ∧
        (x m).1.produced ≤ (x n).1.produced := by
      induction h with
      | refl => exact ⟨Nat.le_refl _, Nat.le_refl _⟩
      | step _ ih =>
        obtain ⟨run, hrun⟩ := advanced_of_goes (hgoes _)
        rw [Nat.succ_eq_add_one, hrun]
        exact ⟨ih.1.trans (Nat.le_add_right ..), ih.2.trans (Nat.le_add_right ..)⟩
    let left (n : Nat) : Nat := input.size - (x n).1.used + (room.size - (x n).1.produced)
    obtain ⟨start, hleast⟩ : ∃ start, ∀ n, left start ≤ left n :=
      ⟨Function.argmin left, fun n => Function.argmin_le left n⟩
    refine ⟨x, hzero, hgoes, start, fun n hn => ?_⟩
    have hleft : left start ≤ left n := hleast n
    have hrisen := hrises hn
    have hused := (hinside n).used
    have hproduced := (hinside n).produced
    dsimp only [left] at hleft
    omega
  · rintro ⟨x, hzero, hgoes, -⟩
    exact ⟨x, hzero, hgoes⟩

end Runs

end Zstd

namespace EncoderSession

open Zstd (Handle Tally codeFailures)

variable {ω : Type} {backend : Zstd.Backend ω}

theorem round_pays {op : FlushOp} {s : EncoderSession (ω × Tally) Handle}
    (he : s.engine = Zstd.encoder backend.tallied) {handle handle' : Handle} {w : Windows}
    {reply : Reply} {world : ω × Tally}
    (hcall : s.engine.compress op w.src.unread w.dst.unwritten handle s.world =
      (reply, handle', world)) :
    s.world.2.Pays (w.consumed reply + w.produced reply + codeFailures reply.code) world.2 := by
  rw [he] at hcall
  refine (Zstd.compress_pays op handle s.world hcall).mono ?_
  rw [CursorBuffer.size_unread, CursorBuffer.size_unwritten, Windows.consumed, Windows.produced]
  omega

/-- The runs of a drive are paid for by what the drive moves, and one may fail. -/
theorem drive_pays (op : FlushOp) (s : EncoderSession (ω × Tally) Handle)
    (he : s.engine = Zstd.encoder backend.tallied) (handle : Handle) (w : Windows) (stalled : Nat) :
    s.world.2.Pays (w.budget + 1) (drive op s handle w stalled).2.1.world.2 := by
  have hround {s : EncoderSession (ω × Tally) Handle} {handle handle' : Handle} {w : Windows}
      {reply : Reply} {world : ω × Tally} (he : s.engine = Zstd.encoder backend.tallied)
      (hcall : s.engine.compress op w.src.unread w.dst.unwritten handle s.world =
        (reply, handle', world)) : s.world.2.Pays (w.budget + 1) world.2 := by
    refine (round_pays he hcall).mono ?_
    have := w.consumed_le reply
    have := w.produced_le reply
    have := Zstd.codeFailures_le reply.code
    unfold Windows.budget
    omega
  have hagain {s : EncoderSession (ω × Tally) Handle} {handle handle' : Handle} {w : Windows}
      {reply : Reply} {world : ω × Tally} {last : Tally}
      (he : s.engine = Zstd.encoder backend.tallied)
      (hcall : s.engine.compress op w.src.unread w.dst.unwritten handle s.world =
        (reply, handle', world)) (hcode : ∀ detail, reply.code = .error detail → False)
      (hrest : world.2.Pays ((w.settle reply).budget + 1) last) :
      s.world.2.Pays (w.budget + 1) last := by
    refine ((round_pays he hcall).trans hrest).mono ?_
    have := w.consumed_le reply
    have := w.produced_le reply
    rw [Zstd.codeFailures_of_ne hcode, w.budget_settle]
    unfold Windows.budget
    omega
  fun_induction drive op s handle w stalled with
  | case1 s => exact (Tally.Pays.refl _).mono (Nat.zero_le _)
  | case2 s handle w stalled hroom reply handle' world hcall
  | case4 s handle w stalled hroom reply handle' world hcall
  | case5 s handle w stalled hroom reply handle' world hcall
  | case6 s handle w stalled hroom reply handle' world hcall =>
    exact hround he hcall
  | case3 s handle w stalled hroom reply handle' world hcall =>
    unfold settled
    split <;> exact hround he hcall
  | case7 s handle w stalled hroom reply handle' world hcall s' w' hdone hfull hstall pending hp hs
      hcode ih =>
    exact hagain he hcall hcode (ih he)
  | case8 s handle w stalled hroom reply handle' world hcall s' w' hdone hfull hmoved hcode ih =>
    exact hagain he hcall hcode (ih he)

theorem configure_tally (parameters : List Parameter) (handle : Handle) (world : ω × Tally) :
    ((Zstd.encoder backend.tallied).configure parameters handle world).2.2 = world.2 := by
  induction parameters generalizing handle world with
  | nil => rfl
  | cons p rest ih =>
    have hset : ((Zstd.encoder backend.tallied).setParameter p handle world).2.2.2 = world.2 := by
      cases p <;> rfl
    rw [EncoderEngine.configure]
    rcases hp : (Zstd.encoder backend.tallied).setParameter p handle world with ⟨_ | _, handle', after⟩
    all_goals rw [hp] at hset
    · exact hset
    · exact (ih handle' after).trans hset

theorem opened_tally {s : EncoderSession (ω × Tally) Handle}
    (he : s.engine = Zstd.encoder backend.tallied) :
    s.opened.2.engine = Zstd.encoder backend.tallied ∧ s.opened.2.world.2 = s.world.2 := by
  unfold opened
  split
  · exact ⟨he, rfl⟩
  · split
    · exact ⟨he, rfl⟩
    · have hcreate : (s.engine.create s.world).2.2 = s.world.2 := by
        rw [he, Zstd.encoder]
        dsimp only
        split
        · next hnew => exact (congrArg (fun y => y.2.2) hnew).symm
        · next hnew => exact (congrArg (fun y => y.2.2) hnew).symm
      split
      · next hnew =>
        rw [hnew] at hcreate
        exact ⟨he, hcreate⟩
      · next handle world hnew =>
        rw [hnew] at hcreate
        have hconfigure :=
          @configure_tally ω backend s.options.encoderParameters handle world
        rw [← he] at hconfigure
        split
        all_goals
          next hconf =>
          rw [hconf] at hconfigure
          exact ⟨he, hconfigure.trans hcreate⟩

theorem compress_pays (op : FlushOp) (s : EncoderSession (ω × Tally) Handle)
    (he : s.engine = Zstd.encoder backend.tallied) (w : Windows) :
    s.world.2.Pays (w.budget + 1) (s.compress op w).2.1.world.2 := by
  obtain ⟨hengine, htally⟩ := opened_tally he
  have hnone : s.world.2.Pays (w.budget + 1) s.opened.2.world.2 := by
    rw [htally]
    exact (Tally.Pays.refl _).mono (Nat.zero_le _)
  unfold compress
  split
  · next hopened =>
    rw [hopened] at hnone
    exact hnone
  · next handle s' hopened =>
    rw [hopened] at hnone hengine htally
    split
    · split <;> exact hnone
    · split
      · exact hnone
      · rw [← htally]
        exact drive_pays op s' hengine handle w 0

end EncoderSession

namespace Zstd

variable {ω : Type}

/-- How a call runs its library. -/
structure Paced (backend : Backend ω) (op : FlushOp) (input room : ByteArray) (handle : Handle)
    (world : ω) : Prop where
  /-- To count the runs changes nothing. -/
  same : ∀ tally, (encoder backend).compress op input room handle world =
    (((encoder backend.tallied).compress op input room handle (world, tally)).1,
      ((encoder backend.tallied).compress op input room handle (world, tally)).2.1,
      ((encoder backend.tallied).compress op input room handle (world, tally)).2.2.1)
  /-- Idle ones aside, there are no more runs than bytes that could be moved, and one more. -/
  runs : ((encoder backend.tallied).compress op input room handle (world, {})).2.2.2.runs ≤
    input.size + room.size + 1 +
      ((encoder backend.tallied).compress op input room handle (world, {})).2.2.2.idle
  /-- The call comes back, unless its runs are idle for ever. -/
  endless : loop (runOnce backend input) (⟨0, 0, room⟩, world) = none ↔
    Wedged backend input room world

/-- Whatever the library does, and however an operation drives the encoder: only idle runs can
exceed what the windows allow for, in one call and in a whole operation of a session. -/
theorem runs_paced (backend : Backend ω) :
    (∀ op input room handle world, Paced backend op input room handle world) ∧
      ∀ (s : EncoderSession (ω × Tally) Handle) op w,
        s.world.2.Pays (w.src.availableRead + w.dst.availableWrite + 1)
          (({ s with engine := encoder backend.tallied } : EncoderSession _ _).compress op w).2.1.world.2 := by
  refine ⟨fun op input room handle world => ⟨fun tally => ?_, ?_, ?_⟩, fun s op w => ?_⟩
  · exact compress_tallied backend op input room handle (world, tally)
  · rcases hcall : (encoder backend.tallied).compress op input room handle (world, {}) with
      ⟨reply, handle', after⟩
    have hpays := compress_pays op handle (world, {}) hcall
    have hcode := codeFailures_le reply.code
    unfold Tally.Pays at hpays
    dsimp only at hpays ⊢
    omega
  · exact runs_endless_iff backend input room world
  · exact EncoderSession.compress_pays op { s with engine := encoder backend.tallied } rfl w

/-- A library that is idle in the runs that are named, and else takes all that is offered. Its state
is the number of runs so far. -/
def lazy (idles : Nat → Bool) : Backend Nat where
  newEncoder n := (.ok (), n)
  setLevel _ n := (true, n)
  setWindow _ n := (true, n)
  run input room n := (⟨if idles n then 0 else input.size, 0, room, .ok 1⟩, n + 1)
  flush room n := (⟨0, 0, room, .ok 0⟩, n)
  finish room n := (⟨0, 0, room, .ok 0⟩, n)
  newDecoder n := (.ok (), n)
  setWindowMax _ n := (true, n)
  decode input room n := (⟨input.size, 0, room, .ok 0⟩, n)

/-- Nothing was moved yet, and there is room for one byte. -/
def outset : Progress := ⟨0, 0, ⟨#[0]⟩⟩

section Lazy

variable {idles : Nat → Bool} {n : Nat}

theorem runOnce_idle (h : idles n = true) (tally : Tally) :
    runOnce (lazy idles).tallied ⟨#[1]⟩ (outset, n, tally) =
      .inl (outset, n + 1, ⟨tally.runs + 1, tally.idle + 1⟩) := by
  have hrun : runOnce (lazy idles).tallied ⟨#[1]⟩ (outset, n, tally) =
      .inl (outset.advance 1 ⟨if idles n then 0 else 1, 0, outset.rest, .ok 1⟩, n + 1,
        tally.count ⟨if idles n then 0 else 1, 0, outset.rest, .ok 1⟩) := rfl
  rw [hrun, if_pos h]
  rfl

theorem runOnce_busy (h : idles n = false) (tally : Tally) :
    runOnce (lazy idles).tallied ⟨#[1]⟩ (outset, n, tally) =
      .inl ({ outset with used := 1 }, n + 1, ⟨tally.runs + 1, tally.idle⟩) := by
  have hrun : runOnce (lazy idles).tallied ⟨#[1]⟩ (outset, n, tally) =
      .inl (outset.advance 1 ⟨if idles n then 0 else 1, 0, outset.rest, .ok 1⟩, n + 1,
        tally.count ⟨if idles n then 0 else 1, 0, outset.rest, .ok 1⟩) := rfl
  rw [hrun, if_neg (ne_true_of_eq_false h)]
  rfl

/-- However often the library is idle before it takes the byte, all of these runs are made. -/
theorem yields_lazy (limit : Nat) (tally : Tally) (idle : Nat) (h : n + idle = limit) :
    Yields (runOnce (lazy fun n => n < limit).tallied ⟨#[1]⟩) (outset, n, tally)
      (.ok (), { outset with used := 1 }, limit + 1,
        ⟨tally.runs + idle + 1, tally.idle + idle⟩) := by
  induction idle generalizing n tally with
  | zero =>
    obtain rfl : n = limit := h
    exact .again (runOnce_busy (by simp) tally) (.last rfl)
  | succ idle ih =>
    have hrest := ih (n := n + 1) ⟨tally.runs + 1, tally.idle + 1⟩ (by omega)
    refine .again (runOnce_idle (by simp; omega) tally) ?_
    simpa only [Nat.add_assoc, Nat.add_comm 1 idle] using hrest

theorem runs_lazy (limit : Nat) :
    ((encoder (lazy fun n => n < limit).tallied).compress .process ⟨#[1]⟩ ⟨#[0]⟩ {} (0, {})).2.2.2 =
      ⟨limit + 1, limit⟩ := by
  have hruns : runAll (lazy fun n => n < limit).tallied ⟨#[1]⟩ ⟨0, 0, ⟨#[0]⟩⟩ (0, {}) =
      (.ok (), { outset with used := 1 }, limit + 1, ⟨limit + 1, limit⟩) := by
    have hyields := yields_lazy limit {} limit (Nat.zero_add limit)
    rw [Nat.zero_add] at hyields
    rw [runAll, show (⟨0, 0, ⟨#[0]⟩⟩ : Progress) = outset from rfl, loop_eq_some.mpr hyields]
    rfl
  simp only [encoder, hruns]
  rfl

end Lazy

/-- One byte in and room for one, and a library that is idle six times and then takes the byte. A
library that is idle for ever keeps the call from coming back. -/
theorem idle_runs_exceed :
    (⟨#[1]⟩ : ByteArray).size + (⟨#[0]⟩ : ByteArray).size + 1 <
        ((encoder (lazy fun n => n < 6).tallied).compress .process ⟨#[1]⟩ ⟨#[0]⟩ {}
          (0, {})).2.2.2.runs ∧
      loop (runOnce (lazy fun _ => true) ⟨#[1]⟩) (⟨0, 0, ⟨#[0]⟩⟩, 0) = none := by
  refine ⟨?_, ?_⟩
  · rw [runs_lazy]
    decide
  · rw [runs_endless_iff]
    refine ⟨fun n => (outset, n), rfl, fun n => ?_, 0, fun _ _ => ⟨rfl, rfl⟩⟩
    rw [runOnce_tallied (lazy fun _ => true) ⟨#[1]⟩ (outset, n, {}), runOnce_idle rfl]
    rfl

end Zstd

end StreamCodec
