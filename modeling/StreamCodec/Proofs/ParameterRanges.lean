import Mathlib.Algebra.Group.Nat.Defs
import Mathlib.Data.Nat.Basic
import StreamCodec.Engine.Codecs

/-!
# Parameters within the ranges

The ranges of a codec's parameters stand in the options, and once more in each
adapter. The encoders of deflate and LZMA keep a parameter until their library's
encoder is built, and up to then take exactly those that are in range, as they are:
no number changes its value and no dictionary is shifted out of its word. The other
encoders, and the decoder of zstd, hand a parameter that is in range to their library
with its value, and refuse it only if the library does. The other decoders take every
window that is in range.
-/
namespace StreamCodec

variable {ω : Type}

theorem toNat_toUInt32 {value : Int32} (h : 0 ≤ value) : (value.toUInt32.toNat : Int) = value.toInt := by
  have hpos : 0 ≤ value.toInt := Int32.le_iff_toInt_le.mp h
  have hint : value.toInt = value.toBitVec.toInt := rfl
  have hnat : value.toUInt32.toNat = value.toBitVec.toNat := rfl
  have hcases := BitVec.toInt_eq_toNat_cond value.toBitVec
  have hlt := value.toBitVec.isLt
  omega

theorem toNat_one_shiftLeft {log : UInt32} (h : log.toNat < 32) :
    ((1 : UInt32) <<< log).toNat = 2 ^ log.toNat := by
  have hone : (1 : UInt32).toNat = 1 := rfl
  rw [UInt32.toNat_shiftLeft, hone, Nat.mod_eq_of_lt h, Nat.one_shiftLeft]
  exact Nat.mod_eq_of_lt (Nat.pow_lt_pow_right (by decide) h)

/-- Whether the codec's range holds the parameter. -/
def Parameter.isInRange (codec : Codec) : Parameter → Bool
  | .quality value =>
    decide (codec.qualityRange.1 ≤ value) && decide (value ≤ codec.qualityRange.2)
  | .windowLog log =>
    codec.windowLogRange.any fun range => decide (range.1 ≤ log) && decide (log ≤ range.2)

namespace Parameter

theorem isInRange_quality_iff {codec : Codec} {value : Int32} :
    (quality value).isInRange codec = true ↔
      codec.qualityRange.1 ≤ value ∧ value ≤ codec.qualityRange.2 := by
  rw [isInRange, Bool.and_eq_true, decide_eq_true_eq, decide_eq_true_eq]

theorem toNat_of_isInRange {codec : Codec} {value : Int32} (hlow : codec.qualityRange.1 = 0)
    (h : (quality value).isInRange codec = true) : (value.toInt.toNat : Int) = value.toInt := by
  have hpos := (isInRange_quality_iff.mp h).1
  rw [hlow] at hpos
  exact Int.toNat_of_nonneg (Int32.le_iff_toInt_le.mp hpos)

theorem isInRange_windowLog_iff {codec : Codec} {log low high : UInt32}
    (h : codec.windowLogRange = some (low, high)) :
    (windowLog log).isInRange codec = true ↔ low ≤ log ∧ log ≤ high := by
  rw [isInRange, h, Option.any_some, Bool.and_eq_true, decide_eq_true_eq, decide_eq_true_eq]

end Parameter

namespace CodecOptions

theorem qualityInRange_eq {o : CodecOptions} (h : o.codec ≠ .lz4) :
    o.qualityInRange = (Parameter.quality o.quality).isInRange o.codec := by
  simp only [qualityInRange, h, decide_false, Bool.false_or, Parameter.isInRange]

theorem windowInRange_eq (o : CodecOptions) :
    o.windowInRange = o.decoderParameters.all (Parameter.isInRange o.codec) := by
  unfold windowInRange decoderParameters
  cases o.windowLog with
  | none => rfl
  | some log =>
    cases hrange : o.codec.windowLogRange <;> simp [Parameter.isInRange, hrange]

/-- The check is that every parameter of an encoder is in range. -/
theorem validate_eq_ok_iff {o : CodecOptions} (h : o.codec ≠ .lz4) :
    o.validate = .ok () ↔ ∀ p ∈ o.encoderParameters, p.isInRange o.codec = true := by
  have hall : (∀ p ∈ o.encoderParameters, p.isInRange o.codec = true) ↔
      o.qualityInRange = true ∧ o.windowInRange = true := by
    rw [qualityInRange_eq h, windowInRange_eq, List.all_eq_true]
    exact List.forall_mem_cons
  rw [hall]
  unfold validate
  cases o.qualityInRange <;> cases o.windowInRange <;> simp

/-- A decoder is given no parameter that an encoder is not. -/
theorem mem_encoderParameters {o : CodecOptions} {p : Parameter} (h : p ∈ o.decoderParameters) :
    p ∈ o.encoderParameters :=
  List.mem_cons_of_mem _ h

end CodecOptions

/-- The codecs whose encoders keep their parameters until their library's encoder is built. -/
def Codec.lateBuilt : List Codec := [.deflate, .zlib, .xz, .lzma]

/-- What is asked for the parameters in turn accepts them all, or refuses one and is not asked any
further. `Answers` says what the answer to a parameter is, and what the library has become then. -/
inductive Asked (Answers : Parameter → ω → Bool × ω → Prop) :
    List Parameter → ω → Except Parameter Unit × ω → Prop
  | done (world : ω) : Asked Answers [] world (.ok (), world)
  | refused {p : Parameter} {rest : List Parameter} {world world' : ω}
      (answer : Answers p world (false, world')) :
      Asked Answers (p :: rest) world (.error p, world')
  | accepted {p : Parameter} {rest : List Parameter} {world world' : ω}
      {outcome : Except Parameter Unit × ω} (answer : Answers p world (true, world'))
      (further : Asked Answers rest world' outcome) : Asked Answers (p :: rest) world outcome

/-- The answer of an encoder to a parameter. Where the library is built late it is a yes that nobody
else is asked for, elsewhere that of the library to the very value. -/
inductive Backend.EncoderAnswers (backend : Backend ω) : Codec → Parameter → ω → Bool × ω → Prop
  | kept {codec : Codec} (late : codec ∈ Codec.lateBuilt) (p : Parameter) (world : ω) :
      EncoderAnswers backend codec p world (true, world)
  | brotliQuality {value : Int32} {number : UInt32} (same : (number.toNat : Int) = value.toInt)
      (world : ω) :
      EncoderAnswers backend .brotli (.quality value) world (backend.brotli.setQuality number world)
  | brotliWindow (log : UInt32) (world : ω) :
      EncoderAnswers backend .brotli (.windowLog log) world (backend.brotli.setWindow log world)
  | zstdLevel (value : Int32) (world : ω) :
      EncoderAnswers backend .zstd (.quality value) world (backend.zstd.setLevel value world)
  | zstdWindow (log : UInt32) (world : ω) :
      EncoderAnswers backend .zstd (.windowLog log) world (backend.zstd.setWindow log world)

/-- The answer of a decoder to a window: that of the library of zstd to the very value, and a yes of
every other. -/
inductive Backend.DecoderAnswers (backend : Backend ω) : Codec → Parameter → ω → Bool × ω → Prop
  | known {codec : Codec} (other : codec ≠ .zstd) (p : Parameter) (world : ω) :
      DecoderAnswers backend codec p world (true, world)
  | zstdWindow (log : UInt32) (world : ω) :
      DecoderAnswers backend .zstd (.windowLog log) world (backend.zstd.setWindowMax log world)

theorem Asked.exists_refusal {Answers : Parameter → ω → Bool × ω → Prop}
    {parameters : List Parameter} {world world' : ω} {p : Parameter}
    (h : Asked Answers parameters world (.error p, world')) :
    ∃ world₁ world₂, Answers p world₁ (false, world₂) := by
  generalize houtcome : (Except.error p, world') = outcome at h
  induction h with
  | done => cases houtcome
  | refused answer =>
    cases houtcome
    exact ⟨_, _, answer⟩
  | accepted _ _ ih => exact ih houtcome

theorem Backend.EncoderAnswers.not_lateBuilt {backend : Backend ω} {codec : Codec} {p : Parameter}
    {world : ω} {answer : Bool × ω} (h : backend.EncoderAnswers codec p world answer)
    (hrefused : answer.1 = false) : codec ∉ Codec.lateBuilt := by
  cases h with
  | kept => cases hrefused
  | brotliQuality | brotliWindow | zstdLevel | zstdWindow => decide

theorem Backend.DecoderAnswers.eq_zstd {backend : Backend ω} {codec : Codec} {p : Parameter}
    {world : ω} {answer : Bool × ω} (h : backend.DecoderAnswers codec p world answer)
    (hrefused : answer.1 = false) : codec = .zstd := by
  cases h with
  | known => cases hrefused
  | zstdWindow => rfl

namespace Deflate

/-- The handle after a parameter was taken: the window is the only one there is. -/
def EncoderHandle.noted (h : EncoderHandle) : Parameter → EncoderHandle
  | .quality value => { h with level := value.toInt.toNat }
  | .windowLog _ => h

theorem isInRange_windowLog_iff {log : UInt32} :
    (Parameter.windowLog log).isInRange .deflate = true ↔ log = windowLog := by
  rw [Parameter.isInRange_windowLog_iff rfl]
  constructor
  · rintro ⟨hlow, hhigh⟩
    exact UInt32.le_antisymm hhigh hlow
  · rintro rfl
    decide

theorem setParameter_unbuilt (backend : Backend ω) (zlib : Bool) {h : EncoderHandle}
    (hunbuilt : h.isBuilt = false) (p : Parameter) (world : ω) :
    (encoder backend zlib).setParameter p h world =
      if p.isInRange .deflate then (true, h.noted p, world) else (false, h, world) := by
  have hopen : ¬h.isBuilt = true := by rw [hunbuilt]; exact Bool.false_ne_true
  cases p with
  | quality value =>
    have hrange : (Parameter.quality value).isInRange .deflate = true ↔ 0 ≤ value ∧ value ≤ 9 :=
      Parameter.isInRange_quality_iff
    simp only [encoder]
    rw [if_neg hopen]
    exact if_congr hrange.symm rfl rfl
  | windowLog log =>
    refine (if_neg hopen).trans ?_
    by_cases hlog : log = windowLog
    · rw [if_pos (isInRange_windowLog_iff.mpr hlog), decide_eq_true hlog]
      rfl
    · rw [if_neg (mt isInRange_windowLog_iff.mp hlog), decide_eq_false hlog]

theorem level_compress (backend : Backend ω) (zlib : Bool) (op : FlushOp) (input room : ByteArray)
    (h : EncoderHandle) (world : ω) :
    ((encoder backend zlib).compress op input room h world).2.1.level = h.level := by
  simp only [encoder]
  split <;> rfl

end Deflate

namespace Lzma

def EncoderHandle.noted (h : EncoderHandle) : Parameter → EncoderHandle
  | .quality value => { h with preset := value.toInt.toNat }
  | .windowLog log => { h with windowLog := some log }

theorem setParameter_unbuilt (backend : Backend ω) (container : Container) {h : EncoderHandle}
    (hunbuilt : h.isBuilt = false) (p : Parameter) (world : ω) :
    (encoder backend container).setParameter p h world =
      if p.isInRange .xz then (true, h.noted p, world) else (false, h, world) := by
  have hopen : ¬h.isBuilt = true := by rw [hunbuilt]; exact Bool.false_ne_true
  cases p with
  | quality value =>
    have hrange : (Parameter.quality value).isInRange .xz = true ↔ 0 ≤ value ∧ value ≤ 9 :=
      Parameter.isInRange_quality_iff
    simp only [encoder]
    rw [if_neg hopen]
    exact if_congr hrange.symm rfl rfl
  | windowLog log => exact if_neg hopen

/-- Nothing that a call does changes what the library's encoder is built from. -/
theorem settings_compress (backend : Backend ω) (container : Container) (op : FlushOp)
    (input room : ByteArray) (h : EncoderHandle) (world : ω) :
    ((encoder backend container).compress op input room h world).2.1.preset = h.preset ∧
      ((encoder backend container).compress op input room h world).2.1.windowLog = h.windowLog := by
  simp only [encoder, encode]
  repeat' split
  all_goals exact ⟨rfl, rfl⟩

end Lzma

namespace EncoderHandle

/-- A handle of the codec's encoder that was not called yet. -/
def IsFresh : Codec → EncoderHandle → Prop
  | .brotli, .brotli _ => True
  | .zstd, .zstd _ => True
  | .deflate, .deflate h => h.isBuilt = false
  | .zlib, .deflate h => h.isBuilt = false
  | .xz, .lzma h => h.isBuilt = false
  | .lzma, .lzma h => h.isBuilt = false
  | _, _ => False

def noted (handle : EncoderHandle) (p : Parameter) : EncoderHandle :=
  match handle with
  | .deflate h => .deflate (h.noted p)
  | .lzma h => .lzma (h.noted p)
  | handle => handle

theorem IsFresh.noted {codec : Codec} {handle : EncoderHandle} (h : handle.IsFresh codec)
    (p : Parameter) : (handle.noted p).IsFresh codec := by
  cases codec <;> cases handle <;> cases p <;> exact h

/-- The handle keeps the numbers of the options as they are, up to the size of the dictionary that
its library is to be given. -/
def Carries (o : CodecOptions) : EncoderHandle → Prop
  | .deflate h => (h.level : Int) = o.quality.toInt
  | .lzma h => (h.preset : Int) = o.quality.toInt ∧
      h.dictionary.map UInt32.toNat = o.windowLog.map fun log => 2 ^ log.toNat
  | _ => True

end EncoderHandle

theorem EncoderEngine.setParameter_within {σ τ : Type} (engine : EncoderEngine ω σ) {wrap : σ → τ}
    {unwrap : τ → Option σ} {inner : σ} (hwrap : unwrap (wrap inner) = some inner) (p : Parameter)
    (world : ω) :
    (engine.within wrap unwrap).setParameter p (wrap inner) world =
      ((engine.setParameter p inner world).1, wrap (engine.setParameter p inner world).2.1,
        (engine.setParameter p inner world).2.2) := by
  simp only [EncoderEngine.within, hwrap]

section Carries

variable {o : CodecOptions}

theorem carries_deflate (hrange : ∀ p ∈ o.encoderParameters, p.isInRange .deflate = true)
    (h : Deflate.EncoderHandle) :
    (o.encoderParameters.foldl EncoderHandle.noted (.deflate h)).Carries o := by
  have hlevel := Parameter.toNat_of_isInRange rfl (hrange _ List.mem_cons_self)
  unfold CodecOptions.encoderParameters
  cases o.windowLog <;> exact hlevel

theorem carries_lzma (hrange : ∀ p ∈ o.encoderParameters, p.isInRange .xz = true)
    {h : Lzma.EncoderHandle} (hblank : h.windowLog = none) :
    (o.encoderParameters.foldl EncoderHandle.noted (.lzma h)).Carries o := by
  have hpreset := Parameter.toNat_of_isInRange rfl (hrange _ List.mem_cons_self)
  unfold CodecOptions.encoderParameters at hrange ⊢
  cases hwindow : o.windowLog with
  | none =>
    refine ⟨hpreset, ?_⟩
    rw [hwindow]
    show (h.windowLog.map _).map _ = _
    rw [hblank]
    rfl
  | some log =>
    rw [hwindow] at hrange
    have hwidest : 12 ≤ log ∧ log ≤ 30 :=
      (Parameter.isInRange_windowLog_iff rfl).mp (hrange (.windowLog log) (by simp))
    have hlog : log.toNat ≤ 30 := UInt32.le_iff_toNat_le.mp hwidest.2
    refine ⟨hpreset, ?_⟩
    rw [hwindow]
    show some ((1 : UInt32) <<< log).toNat = some (2 ^ log.toNat)
    rw [toNat_one_shiftLeft (by omega)]

end Carries

/-- Tries one parameter after the other, whether it is taken or not. -/
def EncoderEngine.attempt {σ : Type} (engine : EncoderEngine ω σ) (parameters : List Parameter)
    (x : σ × ω) : σ × ω :=
  parameters.foldl (fun x p => (engine.setParameter p x.1 x.2).2) x

section Encoder

variable {backend : Backend ω} {codec : Codec} {engine : EncoderEngine ω EncoderHandle}
  (hengine : backend.encoder codec = some engine) {handle : EncoderHandle}

include hengine

theorem created_encoder {world world' : ω} {result : Except CodecError EncoderHandle}
    (h : engine.create world = (result, world')) :
    (∃ handle, result = .ok handle ∧ handle.IsFresh codec) ∨
      ∃ detail, result = .error (.engineCreation codec detail) := by
  cases codec <;> cases hengine
  case zstd =>
    simp only [EncoderEngine.within, Zstd.encoder] at h
    split at h
    · next hcreate =>
      split at hcreate <;> cases hcreate
      cases h
      exact .inl ⟨_, rfl, trivial⟩
    · next hcreate =>
      split at hcreate <;> cases hcreate
      cases h
      exact .inr ⟨_, rfl⟩
  all_goals
    cases h
    exact .inl ⟨_, rfl, by trivial⟩

theorem fresh_of_create {world world' : ω} (h : engine.create world = (.ok handle, world')) :
    handle.IsFresh codec := by
  obtain ⟨_, hok, hfresh⟩ | ⟨_, herror⟩ := created_encoder hengine h
  · cases hok
    exact hfresh
  · cases herror

theorem engineCreation_of_create {world world' : ω} {e : CodecError}
    (h : engine.create world = (.error e, world')) : ∃ detail, e = .engineCreation codec detail := by
  obtain ⟨_, hok, -⟩ | ⟨detail, herror⟩ := created_encoder hengine h
  · cases hok
  · cases herror
    exact ⟨detail, rfl⟩

/-- An encoder whose library is built late takes exactly what is in range, and asks nobody. -/
theorem setParameter_lateBuilt (hlate : codec ∈ Codec.lateBuilt) (hfresh : handle.IsFresh codec)
    (p : Parameter) (world : ω) :
    engine.setParameter p handle world =
      if p.isInRange codec then (true, handle.noted p, world) else (false, handle, world) := by
  have hdeflate (zlib : Bool) {h : Deflate.EncoderHandle} (hunbuilt : h.isBuilt = false) :
      (Backend.encoder.deflate backend zlib).setParameter p (.deflate h) world =
        if p.isInRange .deflate then (true, .deflate (h.noted p), world)
        else (false, .deflate h, world) := by
    refine (EncoderEngine.setParameter_within _ rfl p world).trans ?_
    rw [Deflate.setParameter_unbuilt _ zlib hunbuilt]
    split <;> rfl
  have hlzma (container : Lzma.Container) {h : Lzma.EncoderHandle} (hunbuilt : h.isBuilt = false) :
      (Backend.encoder.lzma backend container).setParameter p (.lzma h) world =
        if p.isInRange .xz then (true, .lzma (h.noted p), world)
        else (false, .lzma h, world) := by
    refine (EncoderEngine.setParameter_within _ rfl p world).trans ?_
    rw [Lzma.setParameter_unbuilt _ container hunbuilt]
    split <;> rfl
  cases codec with
  | brotli | zstd | lz4 => simp [Codec.lateBuilt] at hlate
  | deflate | zlib =>
    cases hengine
    cases handle with
    | deflate h => exact hdeflate _ hfresh
    | _ => exact hfresh.elim
  | xz | lzma =>
    cases hengine
    cases handle with
    | lzma h => exact hlzma _ hfresh
    | _ => exact hfresh.elim

theorem setParameter_iff_validate (hlate : codec ∈ Codec.lateBuilt) (hfresh : handle.IsFresh codec)
    (value : Int32) (log : UInt32) (world : ω) :
    ((engine.setParameter (.quality value) handle world).1 = true ↔
      ({ codec, level := .custom value } : CodecOptions).validate = .ok ()) ∧
    ((engine.setParameter (.windowLog log) handle world).1 = true ↔
      ({ codec, windowLog := some log } : CodecOptions).validate = .ok ()) := by
  have hstreaming : codec ≠ .lz4 := by
    rintro rfl
    simp [Codec.lateBuilt] at hlate
  have hdefault : (Parameter.quality codec.presets.2.1).isInRange codec = true := by
    cases codec <;> decide
  have htakes (p : Parameter) : (engine.setParameter p handle world).1 = p.isInRange codec := by
    rw [setParameter_lateBuilt hengine hlate hfresh]
    cases p.isInRange codec <;> rfl
  constructor
  · rw [htakes, CodecOptions.validate_eq_ok_iff hstreaming]
    simp [CodecOptions.encoderParameters, CodecOptions.quality, CompressionLevel.toNative]
  · rw [htakes, CodecOptions.validate_eq_ok_iff hstreaming]
    simp [CodecOptions.encoderParameters, CodecOptions.quality, CompressionLevel.toNative, hdefault]

/-- An encoder answers what is in range with its own yes, or as its library does. -/
theorem setParameter_answers (hfresh : handle.IsFresh codec) {p : Parameter}
    (hp : p.isInRange codec = true) {world world' : ω} {accepted : Bool} {handle' : EncoderHandle}
    (h : engine.setParameter p handle world = (accepted, handle', world')) :
    backend.EncoderAnswers codec p world (accepted, world') := by
  have hkept (hlate : codec ∈ Codec.lateBuilt) :
      backend.EncoderAnswers codec p world (accepted, world') := by
    rw [setParameter_lateBuilt hengine hlate hfresh, if_pos hp] at h
    cases h
    exact .kept hlate p world
  cases codec with
  | deflate | zlib | xz | lzma => exact hkept (by decide)
  | lz4 => cases hengine
  | brotli =>
    cases hengine
    cases handle with
    | brotli inner =>
      rw [EncoderEngine.setParameter_within _ rfl] at h
      cases p with
      | quality value =>
        have hpos : 0 ≤ value := (Parameter.isInRange_quality_iff.mp hp).1
        have hsigned : ¬value < 0 := Int32.not_lt.mpr hpos
        simp only [Brotli.encoder, if_neg hsigned] at h
        cases h
        exact .brotliQuality (toNat_toUInt32 hpos) world
      | windowLog log =>
        cases h
        exact .brotliWindow log world
    | _ => exact hfresh.elim
  | zstd =>
    cases hengine
    cases handle with
    | zstd inner =>
      rw [EncoderEngine.setParameter_within _ rfl] at h
      cases p <;> cases h
      · exact .zstdLevel _ world
      · exact .zstdWindow _ world
    | _ => exact hfresh.elim

theorem fresh_setParameter (hfresh : handle.IsFresh codec) (p : Parameter) (world : ω) :
    (engine.setParameter p handle world).2.1.IsFresh codec := by
  by_cases hlate : codec ∈ Codec.lateBuilt
  · rw [setParameter_lateBuilt hengine hlate hfresh]
    split
    · exact hfresh.noted p
    · exact hfresh
  · cases codec with
    | brotli =>
      cases hengine
      cases handle with
      | brotli inner =>
        rw [EncoderEngine.setParameter_within _ rfl]
        trivial
      | _ => exact hfresh.elim
    | zstd =>
      cases hengine
      cases handle with
      | zstd inner =>
        rw [EncoderEngine.setParameter_within _ rfl]
        trivial
      | _ => exact hfresh.elim
    | lz4 => cases hengine
    | deflate | zlib | xz | lzma => exact absurd (by decide) hlate

theorem fresh_attempt (hfresh : handle.IsFresh codec) (parameters : List Parameter) (world : ω) :
    (engine.attempt parameters (handle, world)).1.IsFresh codec := by
  induction parameters generalizing handle world with
  | nil => exact hfresh
  | cons p rest ih => exact ih (fresh_setParameter hengine hfresh p world) _

theorem fresh_configure (hfresh : handle.IsFresh codec) {parameters : List Parameter}
    {world world' : ω} {handle' : EncoderHandle}
    (h : engine.configure parameters handle world = (.ok handle', world')) :
    handle'.IsFresh codec := by
  induction parameters generalizing handle world with
  | nil =>
    cases h
    exact hfresh
  | cons p rest ih =>
    have hkept := fresh_setParameter hengine hfresh p world
    rw [EncoderEngine.configure] at h
    split at h
    · next handle₁ world₁ hset =>
      rw [hset] at hkept
      exact ih hkept h
    · cases h

section Configure

variable {parameters : List Parameter} (hfresh : handle.IsFresh codec)
  (hrange : ∀ p ∈ parameters, p.isInRange codec = true)

include hfresh hrange

/-- Set in a row, parameters that are in range are all noted where the library is built late. -/
theorem configure_lateBuilt (hlate : codec ∈ Codec.lateBuilt) (world : ω) :
    engine.configure parameters handle world =
      (.ok (parameters.foldl EncoderHandle.noted handle), world) := by
  induction parameters generalizing handle with
  | nil => rfl
  | cons p rest ih =>
    obtain ⟨hp, hrest⟩ := List.forall_mem_cons.mp hrange
    rw [EncoderEngine.configure, setParameter_lateBuilt hengine hlate hfresh, if_pos hp]
    exact ih (hfresh.noted p) hrest

/-- Set in a row, each gets its answer up to the first no. The induction is on the row. -/
theorem asked_of_configure {world world' : ω} {result : Except Parameter EncoderHandle}
    (h : engine.configure parameters handle world = (result, world')) :
    Asked (backend.EncoderAnswers codec) parameters world (result.map fun _ => (), world') := by
  induction parameters generalizing handle world with
  | nil =>
    cases h
    exact .done _
  | cons p rest ih =>
    obtain ⟨hp, hrest⟩ := List.forall_mem_cons.mp hrange
    have hkept := fresh_setParameter hengine hfresh p world
    rw [EncoderEngine.configure] at h
    split at h
    · next handle₁ world₁ hset =>
      rw [hset] at hkept
      exact .accepted (setParameter_answers hengine hfresh hp hset) (ih hkept hrest h)
    · next hset =>
      cases h
      exact .refused (setParameter_answers hengine hfresh hp hset)

end Configure

/-- An encoder that was given options in range keeps their numbers. -/
theorem carries_of_configure {o : CodecOptions} (hcodec : o.codec = codec)
    (hrange : ∀ p ∈ o.encoderParameters, p.isInRange codec = true) {world world₁ world₂ : ω}
    {handle' : EncoderHandle} (hcreate : engine.create world = (.ok handle, world₁))
    (hconfigure : engine.configure o.encoderParameters handle world₁ = (.ok handle', world₂)) :
    handle'.Carries o := by
  have hfresh := fresh_of_create hengine hcreate
  by_cases hlate : codec ∈ Codec.lateBuilt
  · rw [configure_lateBuilt hengine hfresh hrange hlate] at hconfigure
    cases hconfigure
    cases codec with
    | brotli | zstd | lz4 => simp [Codec.lateBuilt] at hlate
    | deflate | zlib =>
      cases hengine
      cases hcreate
      exact carries_deflate hrange _
    | xz | lzma =>
      cases hengine
      cases hcreate
      exact carries_lzma hrange rfl
  · have hfresh' := fresh_configure hengine hfresh hconfigure
    cases codec with
    | brotli | zstd =>
      cases handle' <;> trivial
    | lz4 => cases hengine
    | deflate | zlib | xz | lzma => exact absurd (by decide) hlate

theorem Carries.compress {o : CodecOptions} (h : handle.Carries o) (op : FlushOp)
    (input room : ByteArray) (world : ω) :
    (engine.compress op input room handle world).2.1.Carries o := by
  have hdeflate (zlib : Bool) {inner : Deflate.EncoderHandle}
      (h : (EncoderHandle.deflate inner).Carries o) :
      ((Backend.encoder.deflate backend zlib).compress op input room (.deflate inner)
        world).2.1.Carries o := by
    simp only [Backend.encoder.deflate, EncoderEngine.within]
    rw [EncoderHandle.Carries, Deflate.level_compress]
    exact h
  have hlzma (container : Lzma.Container) {inner : Lzma.EncoderHandle}
      (h : (EncoderHandle.lzma inner).Carries o) :
      ((Backend.encoder.lzma backend container).compress op input room (.lzma inner)
        world).2.1.Carries o := by
    obtain ⟨hpreset, hwindow⟩ :=
      Lzma.settings_compress backend.lzma container op input room inner world
    simp only [Backend.encoder.lzma, EncoderEngine.within]
    rw [EncoderHandle.Carries, Lzma.EncoderHandle.dictionary, hpreset, hwindow]
    exact h
  cases codec with
  | lz4 => cases hengine
  | brotli | zstd =>
    cases hengine
    cases handle <;> exact h
  | deflate | zlib =>
    cases hengine
    cases handle with
    | deflate inner => exact hdeflate _ h
    | _ => exact h
  | xz | lzma =>
    cases hengine
    cases handle with
    | lzma inner => exact hlzma _ h
    | _ => exact h

end Encoder

namespace DecoderHandle

/-- A handle of the codec's decoder. -/
def BelongsTo : Codec → DecoderHandle → Prop
  | .brotli, .brotli _ => True
  | .zstd, .zstd _ => True
  | .deflate, .deflate _ => True
  | .zlib, .deflate _ => True
  | .xz, .lzma _ => True
  | .lzma, .lzma _ => True
  | _, _ => False

end DecoderHandle

section Decoder

variable {backend : Backend ω} {codec : Codec} {engine : DecoderEngine ω DecoderHandle}
  (hengine : backend.decoder codec = some engine)

include hengine

theorem created_decoder {world world' : ω} {result : Except CodecError DecoderHandle}
    (h : engine.create world = (result, world')) :
    (∃ handle, result = .ok handle ∧ handle.BelongsTo codec) ∨
      ∃ detail, result = .error (.engineCreation codec detail) := by
  cases codec with
  | lz4 => cases hengine
  | brotli | deflate | zlib =>
    cases hengine
    cases h
    exact .inl ⟨_, rfl, trivial⟩
  | zstd | xz | lzma =>
    cases hengine
    simp only [Backend.decoder.lzma, DecoderEngine.within, Lzma.decoder, Zstd.decoder] at h
    split at h
    · next hcreate =>
      split at hcreate <;> cases hcreate
      cases h
      exact .inl ⟨_, rfl, trivial⟩
    · next hcreate =>
      split at hcreate <;> cases hcreate
      cases h
      exact .inr ⟨_, rfl⟩

theorem belongs_of_create {handle : DecoderHandle} {world world' : ω}
    (h : engine.create world = (.ok handle, world')) : handle.BelongsTo codec := by
  obtain ⟨_, hok, hbelongs⟩ | ⟨_, herror⟩ := created_decoder hengine h
  · cases hok
    exact hbelongs
  · cases herror

theorem engineCreation_of_create_decoder {world world' : ω} {e : CodecError}
    (h : engine.create world = (.error e, world')) : ∃ detail, e = .engineCreation codec detail := by
  obtain ⟨_, hok, -⟩ | ⟨detail, herror⟩ := created_decoder hengine h
  · cases hok
  · cases herror
    exact ⟨detail, rfl⟩

/-- Every decoder but that of zstd takes the windows that are in range, and asks nobody. -/
theorem setWindow_taken (hcodec : codec ≠ .zstd) {handle : DecoderHandle}
    (hbelongs : handle.BelongsTo codec) {log : UInt32}
    (hlog : (Parameter.windowLog log).isInRange codec = true) (world : ω) :
    engine.setParameter (.windowLog log) handle world = (true, handle, world) := by
  cases codec with
  | lz4 => cases hengine
  | zstd => exact absurd rfl hcodec
  | brotli =>
    cases hengine
    cases handle with
    | brotli inner =>
      have hstandard : Brotli.isStandardWindow log = true := hlog
      simp only [DecoderEngine.within, Brotli.decoder, hstandard]
    | _ => exact hbelongs.elim
  | deflate | zlib =>
    cases hengine
    cases handle with
    | deflate inner =>
      have honly : log = Deflate.windowLog := Deflate.isInRange_windowLog_iff.mp hlog
      simp only [Backend.decoder.deflate, DecoderEngine.within, Deflate.decoder, honly, decide_true]
    | _ => exact hbelongs.elim
  | xz | lzma =>
    cases hengine
    cases handle with
    | lzma inner =>
      have hwindow : Lzma.isWindow log = true := hlog
      simp only [Backend.decoder.lzma, DecoderEngine.within, Lzma.decoder, hwindow]
    | _ => exact hbelongs.elim

/-- A decoder answers a window that is in range with its own yes, or as the library of zstd does. -/
theorem setWindow_answers {handle : DecoderHandle} (hbelongs : handle.BelongsTo codec) {log : UInt32}
    (hlog : (Parameter.windowLog log).isInRange codec = true) {world world' : ω} {accepted : Bool}
    {handle' : DecoderHandle}
    (h : engine.setParameter (.windowLog log) handle world = (accepted, handle', world')) :
    backend.DecoderAnswers codec (.windowLog log) world (accepted, world') := by
  by_cases hcodec : codec = .zstd
  · subst hcodec
    cases hengine
    cases handle with
    | zstd inner =>
      simp only [DecoderEngine.within, Zstd.decoder] at h
      cases h
      exact .zstdWindow log world
    | _ => exact hbelongs.elim
  · rw [setWindow_taken hengine hcodec hbelongs hlog] at h
    cases h
    exact .known hcodec _ world

theorem asked_of_configure_decoder {o : CodecOptions} {handle : DecoderHandle}
    (hbelongs : handle.BelongsTo codec)
    (hrange : ∀ p ∈ o.decoderParameters, p.isInRange codec = true) {world world' : ω}
    {result : Except Parameter DecoderHandle}
    (h : engine.configure o.decoderParameters handle world = (result, world')) :
    Asked (backend.DecoderAnswers codec) o.decoderParameters world
      (result.map fun _ => (), world') := by
  unfold CodecOptions.decoderParameters at hrange h ⊢
  cases hwindow : o.windowLog with
  | none =>
    rw [hwindow] at h
    cases h
    exact .done world
  | some log =>
    rw [hwindow] at hrange h
    have hlog : (Parameter.windowLog log).isInRange codec = true := hrange _ List.mem_cons_self
    have hstep : engine.configure [.windowLog log] handle world = (result, world') := h
    rw [DecoderEngine.configure] at hstep
    split at hstep
    · next handle₁ world₁ hset =>
      cases hstep
      exact .accepted (setWindow_answers hengine hbelongs hlog hset) (.done _)
    · next hset =>
      cases hstep
      exact .refused (setWindow_answers hengine hbelongs hlog hset)

end Decoder

end StreamCodec
