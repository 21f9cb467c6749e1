import StreamCodec.Proofs.BlockEncoding
import StreamCodec.Proofs.DecoderOutcome
import StreamCodec.Proofs.ParameterRanges

/-!
# Openings of sessions

A session over options in range, used in any way, opens unless it was disposed of or
the library under it says no: it creates no engine, or it refuses a parameter that it
was asked for with the very value of the options; if it opens, the library accepted
every value. Where the adapter keeps the parameters to itself none is ever refused. An
opening that fails leaves no engine behind and takes nothing back: the session is again
the one that is made over the library as it stands then, so the next operation starts
with a new engine.
-/
namespace StreamCodec

variable {ω : Type}

theorem Backend.exists_factory (backend : Backend ω) {codec : Codec}
    (h : codec.isStreaming = true) : ∃ factory, backend.registry.factory codec = .ok factory := by
  cases codec with
  | lz4 => cases h
  | _ => exact ⟨_, rfl⟩

theorem Codec.ne_lz4 {codec : Codec} (h : codec.isStreaming = true) : codec ≠ .lz4 := by
  rintro rfl
  cases h

namespace EncoderSession

/-- What a caller asks of a session. -/
inductive Use where
  | openNow
  | compress (op : FlushOp) (w : Windows)
  | dispose

def serve {σ : Type} (s : EncoderSession ω σ) : Use → EncoderSession ω σ
  | .openNow => s.openNow.2
  | .compress op w => (s.compress op w).2.1
  | .dispose => s.dispose

def serveAll {σ : Type} (s : EncoderSession ω σ) (uses : List Use) : EncoderSession ω σ :=
  uses.foldl serve s

/-- Why a session did not open, and what is left of it. -/
inductive Failure (backend : Backend ω) (o : CodecOptions) (s s' : EncoderSession ω EncoderHandle) :
    CodecError → Prop
  | disposed (gone : s.isDisposed = true) (unopened : s.handle = none) (same : s' = s) :
      Failure backend o s s' .disposed
  | creation {detail : String}
      (fails : s.engine.create s.world = (.error (.engineCreation o.codec detail), s'.world))
      (again : EncoderSession.new backend.registry s'.world o = .ok s') :
      Failure backend o s s' (.engineCreation o.codec detail)
  | parameter {handle : EncoderHandle} {world : ω} {p : Parameter}
      (created : s.engine.create s.world = (.ok handle, world))
      (refused : Asked (backend.EncoderAnswers o.codec) o.encoderParameters world
        (.error p, s'.world))
      (again : EncoderSession.new backend.registry s'.world o = .ok s') :
      Failure backend o s s' (p.rejected o.codec)

/-- How a session over options opens, at whatever operation, and what its engine holds once it is
open. -/
structure Opens (backend : Backend ω) (o : CodecOptions) (s : EncoderSession ω EncoderHandle) :
    Prop where
  engine : backend.encoder o.codec = some s.engine
  /-- A session that opens has had every parameter accepted. -/
  opening : s.handle = none → ∀ s', s.openNow = (.ok (), s') →
    ∃ handle world, s.engine.create s.world = (.ok handle, world) ∧
      Asked (backend.EncoderAnswers o.codec) o.encoderParameters world (.ok (), s'.world)
  openNow : ∀ e s', s.openNow = (.error e, s') → Failure backend o s s' e
  compress : ∀ op w e s' w', s.compress op w = (.error e, s', w') →
    e = .completed ∨ (Failure backend o s s' e ∧ w' = w)
  carries : ∀ handle, s.handle = some handle → handle.Carries o
  /-- No parameter is refused where the library is built late. -/
  spared : o.codec ∈ Codec.lateBuilt → ∀ codec name value,
    s.openNow.1 ≠ .error (.invalidParameter codec name value) ∧
      ∀ op w, (s.compress op w).1 ≠ .error (.invalidParameter codec name value)

/-- What every use of a session keeps up. -/
structure Kept (backend : Backend ω) (o : CodecOptions) (s : EncoderSession ω EncoderHandle) :
    Prop where
  options : s.options = o
  engine : backend.encoder o.codec = some s.engine
  unopened : s.isDisposed = false → s.handle = none → ∀ world,
    EncoderSession.new backend.registry world o = .ok { s with world }
  released : s.isDisposed = true → s.handle = none
  carries : ∀ handle, s.handle = some handle → handle.Carries o

variable {backend : Backend ω} {o : CodecOptions}

theorem Kept.record {s : EncoderSession ω EncoderHandle} (h : Kept backend o s)
    (hd : s.isDisposed = false) {handle : EncoderHandle} (hcarries : handle.Carries o) (w : Windows)
    (reply : Reply) (world : ω) : Kept backend o (s.record w reply handle world) where
  options := h.options
  engine := h.engine
  unopened _ hh := by cases hh
  released hdisposed := absurd hdisposed (ne_true_of_eq_false hd)
  carries := by
    rintro _ ⟨⟩
    exact hcarries

theorem Kept.fail {s : EncoderSession ω EncoderHandle} (h : Kept backend o s)
    (hopen : s.handle ≠ none) (detail : String) : Kept backend o (s.fail detail) where
  options := h.options
  engine := h.engine
  unopened _ hh := absurd hh hopen
  released := h.released
  carries := h.carries

theorem Kept.settled {s : EncoderSession ω EncoderHandle} (h : Kept backend o s)
    (hopen : s.handle ≠ none) (op : FlushOp) : Kept backend o (s.settled op) := by
  unfold EncoderSession.settled
  split
  · exact h
  · exact ⟨h.options, h.engine, fun _ hh => absurd hh hopen, h.released, h.carries⟩

/-- A drive calls an engine that keeps its numbers, over and over. -/
theorem Kept.drive {op : FlushOp} {s : EncoderSession ω EncoderHandle} (h : Kept backend o s)
    (hd : s.isDisposed = false) {handle : EncoderHandle} (hcarries : handle.Carries o) (w : Windows)
    (stalled : Nat) : Kept backend o (EncoderSession.drive op s handle w stalled).2.1 := by
  have hcalled {s : EncoderSession ω EncoderHandle} (h : Kept backend o s) {handle : EncoderHandle}
      (hcarries : handle.Carries o) {w : Windows} {reply : Reply} {handle' : EncoderHandle} {world : ω}
      (hcall : s.engine.compress op w.src.unread w.dst.unwritten handle s.world =
        (reply, handle', world)) : handle'.Carries o := by
    have hafter := Carries.compress h.engine hcarries op w.src.unread w.dst.unwritten s.world
    rw [hcall] at hafter
    exact hafter
  fun_induction EncoderSession.drive op s handle w stalled with
  | case1 => exact h
  | case2 s handle w stalled hroom reply handle' world hcall
  | case6 s handle w stalled hroom reply handle' world hcall =>
    exact (h.record hd (hcalled h hcarries hcall) w reply world).fail (Option.some_ne_none _) _
  | case3 s handle w stalled hroom reply handle' world hcall =>
    exact (h.record hd (hcalled h hcarries hcall) w reply world).settled (Option.some_ne_none _) op
  | case4 s handle w stalled hroom reply handle' world hcall
  | case5 s handle w stalled hroom reply handle' world hcall =>
    exact h.record hd (hcalled h hcarries hcall) w reply world
  | case7 s handle w stalled hroom reply handle' world hcall s' w' _ _ _ _ _ _ _ ih =>
    exact ih (h.record hd (hcalled h hcarries hcall) w reply world) hd (hcalled h hcarries hcall)
  | case8 s handle w stalled hroom reply handle' world hcall s' w' _ _ _ _ ih =>
    exact ih (h.record hd (hcalled h hcarries hcall) w reply world) hd (hcalled h hcarries hcall)

theorem Kept.dispose {s : EncoderSession ω EncoderHandle} (h : Kept backend o s) :
    Kept backend o s.dispose :=
  ⟨h.options, h.engine, nofun, fun _ => rfl, nofun⟩

/-- A parameter that is refused was refused by a library that was asked. -/
theorem Failure.not_invalidParameter {s s' : EncoderSession ω EncoderHandle}
    (hlate : o.codec ∈ Codec.lateBuilt) {codec : Codec} {name : ParameterName} {value : Int}
    (h : Failure backend o s s' (.invalidParameter codec name value)) : False := by
  generalize he : CodecError.invalidParameter codec name value = e at h
  cases h with
  | disposed | creation => cases he
  | parameter created refused again =>
    obtain ⟨_, _, hanswer⟩ := refused.exists_refusal
    exact hanswer.not_lateBuilt rfl hlate

section Valid

variable (hrange : ∀ p ∈ o.encoderParameters, p.isInRange o.codec = true)

include hrange

/-- Opening keeps all that up, and fails for a reason. -/
theorem Kept.opened {s s' : EncoderSession ω EncoderHandle} {result : Except CodecError EncoderHandle}
    (h : Kept backend o s) (hopened : s.opened = (result, s')) :
    Kept backend o s' ∧
      (∀ handle, result = .ok handle → s'.isDisposed = false ∧ s'.handle = some handle) ∧
      ∀ e, result = .error e → Failure backend o s s' e := by
  unfold EncoderSession.opened at hopened
  split at hopened
  · next hd =>
    cases hopened
    exact ⟨h, nofun, by rintro _ ⟨⟩; exact .disposed hd (h.released hd) rfl⟩
  · next hd =>
    rw [Bool.not_eq_true] at hd
    split at hopened
    · next handle hh =>
      cases hopened
      exact ⟨h, by rintro _ ⟨⟩; exact ⟨hd, hh⟩, nofun⟩
    · next hh =>
      -- A session that fails here is new but for the library.
      have hagain := h.unopened hd hh
      have hkept (world : ω) : Kept backend o { s with world } :=
        ⟨h.options, h.engine, fun _ _ => hagain, h.released, h.carries⟩
      split at hopened
      · next e world hcreate =>
        cases hopened
        refine ⟨hkept world, nofun, ?_⟩
        rintro _ ⟨⟩
        obtain ⟨detail, rfl⟩ := engineCreation_of_create h.engine hcreate
        exact .creation hcreate (hagain world)
      · next handle world hcreate =>
        split at hopened
        · next p world' hconfigure =>
          cases hopened
          refine ⟨hkept world', nofun, ?_⟩
          rintro _ ⟨⟩
          have hfresh := fresh_of_create h.engine hcreate
          have hcodec : s.codec = o.codec := congrArg CodecOptions.codec h.options
          rw [h.options] at hconfigure
          rw [hcodec]
          exact .parameter hcreate (asked_of_configure h.engine hfresh hrange hconfigure)
            (hagain world')
        · next handle' world' hconfigure =>
          cases hopened
          rw [h.options] at hconfigure
          have hcarries := carries_of_configure h.engine rfl hrange hcreate hconfigure
          refine ⟨⟨h.options, h.engine, nofun, ?_, ?_⟩, ?_, nofun⟩
          · intro hdisposed
            rw [hd] at hdisposed
            cases hdisposed
          · rintro _ ⟨⟩
            exact hcarries
          · rintro _ ⟨⟩
            exact ⟨hd, rfl⟩

/-- A session that opens has had every parameter accepted. -/
theorem Kept.asked {s s' : EncoderSession ω EncoderHandle} (h : Kept backend o s) (hh : s.handle = none)
    (hopens : s.openNow = (.ok (), s')) :
    ∃ handle world, s.engine.create s.world = (.ok handle, world) ∧
      Asked (backend.EncoderAnswers o.codec) o.encoderParameters world (.ok (), s'.world) := by
  unfold EncoderSession.openNow at hopens
  rcases hopened : s.opened with ⟨_ | handle, s₁⟩ <;> rw [hopened] at hopens <;> cases hopens
  have hd : s.isDisposed = false := by
    by_contra hdisposed
    rw [EncoderSession.opened, if_pos (eq_true_of_ne_false hdisposed)] at hopened
    cases hopened
  obtain ⟨first, world, world', hcreate, hconfigure, rfl⟩ := opened_fresh hd hh hopened
  rw [h.options] at hconfigure
  exact ⟨first, world, hcreate,
    asked_of_configure h.engine (fresh_of_create h.engine hcreate) hrange hconfigure⟩

theorem Kept.compress {s : EncoderSession ω EncoderHandle} (h : Kept backend o s) (op : FlushOp)
    (w : Windows) : Kept backend o (s.compress op w).2.1 := by
  unfold EncoderSession.compress
  rcases hopened : s.opened with ⟨e | handle, s'⟩
  · exact (h.opened hrange hopened).1
  · obtain ⟨hkept, hopens, -⟩ := h.opened hrange hopened
    obtain ⟨hd, hh⟩ := hopens handle rfl
    dsimp only
    split
    · split <;> exact hkept
    · split
      · exact hkept
      · exact hkept.drive hd (hkept.carries handle hh) w 0

theorem Kept.serve {s : EncoderSession ω EncoderHandle} (h : Kept backend o s) (use : Use) :
    Kept backend o (s.serve use) := by
  cases use with
  | openNow =>
    rw [EncoderSession.serve, EncoderSession.openNow]
    rcases hopened : s.opened with ⟨_ | handle, s'⟩ <;> exact (h.opened hrange hopened).1
  | compress op w => exact h.compress hrange op w
  | dispose => exact h.dispose

theorem Kept.serveAll {s : EncoderSession ω EncoderHandle} (h : Kept backend o s) (uses : List Use) :
    Kept backend o (s.serveAll uses) := by
  induction uses generalizing s with
  | nil => exact h
  | cons use uses ih => exact ih (h.serve hrange use)

theorem Kept.opens {s : EncoderSession ω EncoderHandle} (h : Kept backend o s) : Opens backend o s := by
  have hopen (e : CodecError) (s' : EncoderSession ω EncoderHandle)
      (hfails : s.openNow = (.error e, s')) : Failure backend o s s' e := by
    unfold EncoderSession.openNow at hfails
    rcases hopened : s.opened with ⟨_ | handle, s₁⟩ <;> rw [hopened] at hfails <;> cases hfails
    exact (h.opened hrange hopened).2.2 e rfl
  have hcompress (op : FlushOp) (w : Windows) (e : CodecError) (s' : EncoderSession ω EncoderHandle)
      (w' : Windows) (hfails : s.compress op w = (.error e, s', w')) :
      e = .completed ∨ (Failure backend o s s' e ∧ w' = w) := by
    unfold EncoderSession.compress at hfails
    rcases hopened : s.opened with ⟨e' | handle, s₁⟩
    · rw [hopened] at hfails
      cases hfails
      exact .inr ⟨(h.opened hrange hopened).2.2 e rfl, rfl⟩
    · rw [hopened] at hfails
      dsimp only at hfails
      split at hfails
      · split at hfails <;> cases hfails
        exact .inl rfl
      · split at hfails <;> cases hfails
  refine ⟨h.engine, fun hh _ => h.asked hrange hh, hopen, hcompress, h.carries, ?_⟩
  intro hlate codec name value
  constructor
  · intro hfails
    exact (hopen _ _ (Prod.ext hfails rfl)).not_invalidParameter hlate
  · intro op w hfails
    rcases hcompress op w _ _ _ (Prod.ext hfails rfl) with hcompleted | ⟨hfailure, -⟩
    · cases hcompleted
    · exact hfailure.not_invalidParameter hlate

end Valid

/-- Options in range make a session that keeps all that up, over any library. -/
theorem kept_new (backend : Backend ω) (hvalid : o.validate = .ok ())
    (hstreaming : o.codec.isStreaming = true) (world : ω) :
    ∃ s, EncoderSession.new backend.registry world o = .ok s ∧ Kept backend o s := by
  obtain ⟨factory, hfactory⟩ := backend.exists_factory hstreaming
  have hnew (world : ω) := new_of_factory world (Codec.ne_lz4 hstreaming) hvalid hfactory
  exact ⟨_, hnew world, rfl, (backend.engines_of_factory hfactory).1, fun _ _ => hnew, nofun, nofun⟩

end EncoderSession

namespace DecoderSession

/-- Why a session did not open, and what is left of it. -/
inductive Failure (backend : Backend ω) (o : CodecOptions) (s s' : DecoderSession ω DecoderHandle) :
    CodecError → Prop
  | disposed (gone : s.isDisposed = true) (unopened : s.handle = none) (same : s' = s) :
      Failure backend o s s' .disposed
  | creation {detail : String}
      (fails : s.engine.create s.world = (.error (.engineCreation o.codec detail), s'.world))
      (again : DecoderSession.new backend.registry s'.world o = .ok s') :
      Failure backend o s s' (.engineCreation o.codec detail)
  | parameter {handle : DecoderHandle} {world : ω} {p : Parameter}
      (created : s.engine.create s.world = (.ok handle, world))
      (refused : Asked (backend.DecoderAnswers o.codec) o.decoderParameters world
        (.error p, s'.world))
      (again : DecoderSession.new backend.registry s'.world o = .ok s') :
      Failure backend o s s' (p.rejected o.codec)

/-- How a session over options opens, at whatever operation. -/
structure Opens (backend : Backend ω) (o : CodecOptions) (s : DecoderSession ω DecoderHandle) :
    Prop where
  engine : backend.decoder o.codec = some s.engine
  /-- A session that opens has had its window accepted. -/
  opening : s.handle = none → ∀ s', s.openNow = (.ok (), s') →
    ∃ handle world, s.engine.create s.world = (.ok handle, world) ∧
      Asked (backend.DecoderAnswers o.codec) o.decoderParameters world (.ok (), s'.world)
  openNow : ∀ e s', s.openNow = (.error e, s') → Failure backend o s s' e
  decompress : ∀ w e s' w', s.decompress w = (.error e, s', w') →
    Failure backend o s s' e ∧ w' = w
  /-- Only the library of zstd is asked for a parameter. -/
  spared : o.codec ≠ .zstd → ∀ codec name value,
    s.openNow.1 ≠ .error (.invalidParameter codec name value) ∧
      ∀ w, (s.decompress w).1 ≠ .error (.invalidParameter codec name value)

/-- What every use of a session keeps up. -/
structure Kept (backend : Backend ω) (o : CodecOptions) (s : DecoderSession ω DecoderHandle) :
    Prop where
  options : s.options = o
  engine : backend.decoder o.codec = some s.engine
  unopened : s.isDisposed = false → s.handle = none → ∀ world,
    DecoderSession.new backend.registry world o = .ok { s with world }
  released : s.isDisposed = true → s.handle = none

variable {backend : Backend ω} {o : CodecOptions}

theorem Kept.record {s : DecoderSession ω DecoderHandle} (h : Kept backend o s)
    (hd : s.isDisposed = false) (w : Windows) (reply : Reply) (handle : DecoderHandle) (world : ω) :
    Kept backend o (s.record w reply handle world) where
  options := h.options
  engine := h.engine
  unopened _ hh := by cases hh
  released hdisposed := absurd hdisposed (ne_true_of_eq_false hd)

theorem Kept.fail {s : DecoderSession ω DecoderHandle} (h : Kept backend o s)
    (hopen : s.handle ≠ none) (detail : String) : Kept backend o (s.fail detail) where
  options := h.options
  engine := h.engine
  unopened _ hh := absurd hh hopen
  released := h.released

theorem Kept.drive {s : DecoderSession ω DecoderHandle} (h : Kept backend o s)
    (hd : s.isDisposed = false) (handle : DecoderHandle) (w : Windows) (stalled : Nat) :
    Kept backend o (s.drive handle w stalled).2.1 := by
  fun_induction DecoderSession.drive s handle w stalled with
  | case1 => exact h
  | case2 | case7 => exact (h.record hd ..).fail (Option.some_ne_none _) _
  | case3 | case4 | case5 | case6 => exact h.record hd ..
  | case8 | case9 =>
    rename_i ih
    exact ih (h.record hd ..) hd

theorem Kept.dispose {s : DecoderSession ω DecoderHandle} (h : Kept backend o s) :
    Kept backend o s.dispose :=
  ⟨h.options, h.engine, nofun, fun _ => rfl⟩

theorem Failure.not_invalidParameter {s s' : DecoderSession ω DecoderHandle}
    (hcodec : o.codec ≠ .zstd) {codec : Codec} {name : ParameterName} {value : Int}
    (h : Failure backend o s s' (.invalidParameter codec name value)) : False := by
  generalize he : CodecError.invalidParameter codec name value = e at h
  cases h with
  | disposed | creation => cases he
  | parameter created refused again =>
    obtain ⟨_, _, hanswer⟩ := refused.exists_refusal
    exact hcodec (hanswer.eq_zstd rfl)

section Valid

variable (hrange : ∀ p ∈ o.decoderParameters, p.isInRange o.codec = true)

include hrange

theorem Kept.opened {s s' : DecoderSession ω DecoderHandle} {result : Except CodecError DecoderHandle}
    (h : Kept backend o s) (hopened : s.opened = (result, s')) :
    Kept backend o s' ∧ (∀ handle, result = .ok handle → s'.isDisposed = false) ∧
      ∀ e, result = .error e → Failure backend o s s' e := by
  unfold DecoderSession.opened at hopened
  split at hopened
  · next hd =>
    cases hopened
    exact ⟨h, nofun, by rintro _ ⟨⟩; exact .disposed hd (h.released hd) rfl⟩
  · next hd =>
    rw [Bool.not_eq_true] at hd
    split at hopened
    · cases hopened
      exact ⟨h, fun _ _ => hd, nofun⟩
    · next hh =>
      -- A session that fails here is new but for the library.
      have hagain := h.unopened hd hh
      have hkept (world : ω) : Kept backend o { s with world } :=
        ⟨h.options, h.engine, fun _ _ => hagain, h.released⟩
      split at hopened
      · next e world hcreate =>
        cases hopened
        refine ⟨hkept world, nofun, ?_⟩
        rintro _ ⟨⟩
        obtain ⟨detail, rfl⟩ := engineCreation_of_create_decoder h.engine hcreate
        exact .creation hcreate (hagain world)
      · next handle world hcreate =>
        split at hopened
        · next p world' hconfigure =>
          cases hopened
          refine ⟨hkept world', nofun, ?_⟩
          rintro _ ⟨⟩
          have hbelongs := belongs_of_create h.engine hcreate
          have hcodec : s.codec = o.codec := congrArg CodecOptions.codec h.options
          rw [h.options] at hconfigure
          rw [hcodec]
          exact .parameter hcreate
            (asked_of_configure_decoder h.engine hbelongs hrange hconfigure) (hagain world')
        · cases hopened
          refine ⟨⟨h.options, h.engine, nofun, ?_⟩, fun _ _ => hd, nofun⟩
          intro hdisposed
          rw [hd] at hdisposed
          cases hdisposed

theorem Kept.asked {s s' : DecoderSession ω DecoderHandle} (h : Kept backend o s) (hh : s.handle = none)
    (hopens : s.openNow = (.ok (), s')) :
    ∃ handle world, s.engine.create s.world = (.ok handle, world) ∧
      Asked (backend.DecoderAnswers o.codec) o.decoderParameters world (.ok (), s'.world) := by
  unfold DecoderSession.openNow at hopens
  rcases hopened : s.opened with ⟨_ | handle, s₁⟩ <;> rw [hopened] at hopens <;> cases hopens
  have hd : s.isDisposed = false := by
    by_contra hdisposed
    rw [DecoderSession.opened, if_pos (eq_true_of_ne_false hdisposed)] at hopened
    cases hopened
  obtain ⟨first, world, world', hcreate, hconfigure, rfl⟩ := opened_fresh hd hh hopened
  rw [h.options] at hconfigure
  exact ⟨first, world, hcreate,
    asked_of_configure_decoder h.engine (belongs_of_create h.engine hcreate) hrange hconfigure⟩

theorem Kept.decompress {s : DecoderSession ω DecoderHandle} (h : Kept backend o s) (w : Windows) :
    Kept backend o (s.decompress w).2.1 := by
  unfold DecoderSession.decompress
  rcases hopened : s.opened with ⟨e | handle, s'⟩
  · exact (h.opened hrange hopened).1
  · obtain ⟨hkept, hopens, -⟩ := h.opened hrange hopened
    dsimp only
    split
    · exact hkept
    · split
      · exact hkept
      · exact hkept.drive (hopens handle rfl) handle w 0

theorem Kept.serve {s : DecoderSession ω DecoderHandle} (h : Kept backend o s) (use : Use) :
    Kept backend o (s.serve use) := by
  cases use with
  | openNow =>
    rw [DecoderSession.serve, DecoderSession.openNow]
    rcases hopened : s.opened with ⟨_ | handle, s'⟩ <;> exact (h.opened hrange hopened).1
  | decompress w => exact h.decompress hrange w
  | dispose => exact h.dispose

theorem Kept.serveAll {s : DecoderSession ω DecoderHandle} (h : Kept backend o s) (uses : List Use) :
    Kept backend o (s.serveAll uses) := by
  induction uses generalizing s with
  | nil => exact h
  | cons use uses ih => exact ih (h.serve hrange use)

theorem Kept.opens {s : DecoderSession ω DecoderHandle} (h : Kept backend o s) : Opens backend o s := by
  have hopen (e : CodecError) (s' : DecoderSession ω DecoderHandle)
      (hfails : s.openNow = (.error e, s')) : Failure backend o s s' e := by
    unfold DecoderSession.openNow at hfails
    rcases hopened : s.opened with ⟨_ | handle, s₁⟩ <;> rw [hopened] at hfails <;> cases hfails
    exact (h.opened hrange hopened).2.2 e rfl
  have hdecompress (w : Windows) (e : CodecError) (s' : DecoderSession ω DecoderHandle) (w' : Windows)
      (hfails : s.decompress w = (.error e, s', w')) : Failure backend o s s' e ∧ w' = w := by
    unfold DecoderSession.decompress at hfails
    rcases hopened : s.opened with ⟨e' | handle, s₁⟩
    · rw [hopened] at hfails
      cases hfails
      exact ⟨(h.opened hrange hopened).2.2 e rfl, rfl⟩
    · rw [hopened] at hfails
      dsimp only at hfails
      split at hfails
      · cases hfails
      · split at hfails <;> cases hfails
  refine ⟨h.engine, fun hh _ => h.asked hrange hh, hopen, hdecompress, ?_⟩
  intro hcodec codec name value
  constructor
  · intro hfails
    exact (hopen _ _ (Prod.ext hfails rfl)).not_invalidParameter hcodec
  · intro w hfails
    exact (hdecompress w _ _ _ (Prod.ext hfails rfl)).1.not_invalidParameter hcodec

end Valid

theorem new_of_factory {σ ε : Type} {registry : Registry ω ε σ} {factory : Factory ω ε σ}
    (world : ω) (hstreaming : o.codec.isStreaming = true) (hvalid : o.validate = .ok ())
    (hfactory : registry.factory o.codec = .ok factory) :
    DecoderSession.new registry world o =
      .ok { options := o, version := factory.version, engine := factory.decoder, world } := by
  rw [DecoderSession.new, hvalid]
  simp only [hstreaming, hfactory, Bool.not_true, Bool.false_eq_true, ↓reduceIte]

theorem kept_new (backend : Backend ω) (hvalid : o.validate = .ok ())
    (hstreaming : o.codec.isStreaming = true) (world : ω) :
    ∃ s, DecoderSession.new backend.registry world o = .ok s ∧ Kept backend o s := by
  obtain ⟨factory, hfactory⟩ := backend.exists_factory hstreaming
  have hnew (world : ω) := new_of_factory world hstreaming hvalid hfactory
  exact ⟨_, hnew world, rfl, (backend.engines_of_factory hfactory).2, fun _ _ => hnew, nofun⟩

end DecoderSession

/-- The encoders whose library is built late can be created over any library. -/
theorem Backend.exists_lateBuilt (backend : Backend ω) {codec : Codec}
    (hlate : codec ∈ Codec.lateBuilt) (world : ω) :
    ∃ engine handle, backend.encoder codec = some engine ∧
      engine.create world = (.ok handle, world) ∧ handle.IsFresh codec := by
  cases codec with
  | brotli | zstd | lz4 => simp [Codec.lateBuilt] at hlate
  | deflate | zlib | xz | lzma => exact ⟨_, _, rfl, rfl, rfl⟩

/-- The check of the options and the adapters agree over any libraries. Options in range make sessions
of both roles that open, whatever they were used for, as `Opens` says: no parameter is refused where
the adapter decides, and elsewhere only by the library, asked for the very value. Conversely an
encoder that decides itself takes, as long as it was not called, exactly the qualities and windows
that the check lets through. -/
theorem checks_coincide (backend : Backend ω) (world : ω) :
    (∀ o : CodecOptions, o.codec.isStreaming = true → o.validate = .ok () →
      (∃ s, EncoderSession.new backend.registry world o = .ok s ∧
        ∀ uses, (s.serveAll uses).Opens backend o) ∧
      ∃ s, DecoderSession.new backend.registry world o = .ok s ∧
        ∀ uses, (s.serveAll uses).Opens backend o) ∧
    ∀ codec ∈ Codec.lateBuilt, ∃ engine handle, backend.encoder codec = some engine ∧
      engine.create world = (.ok handle, world) ∧
      ∀ tried value log, ∃ handle' world', engine.attempt tried (handle, world) = (handle', world') ∧
        ((engine.setParameter (.quality value) handle' world').1 = true ↔
          ({ codec, level := .custom value } : CodecOptions).validate = .ok ()) ∧
        ((engine.setParameter (.windowLog log) handle' world').1 = true ↔
          ({ codec, windowLog := some log } : CodecOptions).validate = .ok ()) := by
  constructor
  · intro o hstreaming hvalid
    have hrange := (CodecOptions.validate_eq_ok_iff (Codec.ne_lz4 hstreaming)).mp hvalid
    have hwindow : ∀ p ∈ o.decoderParameters, p.isInRange o.codec = true :=
      fun p hp => hrange p (CodecOptions.mem_encoderParameters hp)
    obtain ⟨s, hnew, hkept⟩ := EncoderSession.kept_new backend hvalid hstreaming world
    obtain ⟨t, hnew', hkept'⟩ := DecoderSession.kept_new backend hvalid hstreaming world
    exact ⟨⟨s, hnew, fun uses => (hkept.serveAll hrange uses).opens hrange⟩,
      t, hnew', fun uses => (hkept'.serveAll hwindow uses).opens hwindow⟩
  · intro codec hlate
    obtain ⟨engine, handle, hengine, hcreate, hfresh⟩ := backend.exists_lateBuilt hlate world
    refine ⟨engine, handle, hengine, hcreate, fun tried value log => ?_⟩
    have hfresh' := fresh_attempt hengine hfresh tried world
    exact ⟨_, _, rfl, setParameter_iff_validate hengine hlate hfresh' value log _⟩

/-- A scripted library takes the highest level of zstd and refuses the widest window. LZMA opens with
that window, and a dictionary of the size it names; one window further its encoder says no. -/
theorem checks_coincide_scripted :
    (let o : CodecOptions := { codec := .zstd, level := .custom 22, windowLog := some 30 }
      let refusal : CodecError := .invalidParameter .zstd .windowLog 30
      ∃ s, EncoderSession.new Script.backend.registry { parameters := [true, false] } o = .ok s ∧
        s.openNow.1 = .error refusal ∧
        EncoderSession.Failure Script.backend o s s.openNow.2 refusal) ∧
    (let o : CodecOptions := { codec := .xz, level := .custom 9, windowLog := some 30 }
      ∃ s handle, EncoderSession.new Script.backend.registry {} o = .ok s ∧
        s.openNow.2.handle = some (.lzma handle) ∧ handle.preset = 9 ∧
        handle.dictionary.map UInt32.toNat = some (2 ^ 30)) ∧
    ∃ engine handle, Script.backend.encoder .xz = some engine ∧
      (engine.create {}).1 = .ok handle ∧
      (engine.setParameter (.windowLog 31) handle {}).1 = false := by
  refine ⟨?_, ?_, ?_⟩
  · intro o refusal
    obtain ⟨⟨s, hnew, hopens⟩, -⟩ :=
      (checks_coincide Script.backend { parameters := [true, false] }).1 o rfl rfl
    cases hnew
    exact ⟨_, rfl, rfl, (hopens []).openNow _ _ rfl⟩
  · intro o
    obtain ⟨⟨s, hnew, hopens⟩, -⟩ := (checks_coincide Script.backend {}).1 o rfl rfl
    cases hnew
    obtain ⟨hpreset, hdictionary⟩ := (hopens [.openNow]).carries _ rfl
    exact ⟨_, _, rfl, rfl, Int.ofNat_inj.mp hpreset, hdictionary⟩
  · obtain ⟨engine, handle, hengine, hcreate, htakes⟩ :=
      (checks_coincide Script.backend {}).2 .xz (by decide)
    obtain ⟨_, _, hattempt, -, hwindow⟩ := htakes [] 9 31
    cases hattempt
    refine ⟨engine, handle, hengine, congrArg Prod.fst hcreate, ?_⟩
    exact Bool.eq_false_iff.mpr (mt hwindow.mp (by decide))

end StreamCodec
