import StreamCodec.Engine.Codecs

/-!
# Engines that announce the end

A call that ends the stream says so by its code, and an engine says whether it
is finished. The decoders of all six streaming codecs keep the two together,
whatever the libraries under them answer: a call that ends the stream leaves a
finished engine, and no other call does.
-/
namespace StreamCodec

variable {ω σ τ : Type}

/-- An engine that says that it is finished once a call of it ended the stream. -/
def DecoderEngine.Announces (engine : DecoderEngine ω σ) : Prop :=
  ∀ input room handle world,
    (engine.decompress input room handle world).1.code = .streamEnd →
      engine.isFinished (engine.decompress input room handle world).2.1 = true

/-- An engine that is not finished by a call that does not end the stream. -/
def DecoderEngine.GoesOn (engine : DecoderEngine ω σ) : Prop :=
  ∀ input room handle world, engine.isFinished handle = false →
    (engine.decompress input room handle world).1.code ≠ .streamEnd →
      engine.isFinished (engine.decompress input room handle world).2.1 = false

namespace DecoderEngine

theorem announces_brotli (backend : Brotli.Backend ω) : (Brotli.decoder backend).Announces := by
  intro input room handle world h
  simp only [Brotli.decoder] at h ⊢
  split at h <;> simp_all

theorem announces_zstd (backend : Zstd.Backend ω) : (Zstd.decoder backend).Announces := by
  intro input room handle world h
  simp only [Zstd.decoder] at h ⊢
  split at h
  · rfl
  · simp only [Zstd.Progress.reply] at h
    split at h <;> cases h
  · cases h

theorem announces_deflate (backend : Deflate.Backend ω) (zlib : Bool) :
    (Deflate.decoder backend zlib).Announces := by
  intro input room handle world h
  simp only [Deflate.decoder] at h ⊢
  split at h
  · rfl
  · dsimp only at h
    split at h <;> cases h
  · cases h

theorem announces_lzma (backend : Lzma.Backend ω) (container : Lzma.Container) :
    (Lzma.decoder backend container).Announces := by
  intro input room handle world h
  simp only [Lzma.decoder] at h ⊢
  split at h
  · rfl
  · dsimp only at h
    split at h <;> cases h
  · cases h

/-- Storing the handles in a larger type changes nothing, if they are found there again. -/
theorem Announces.within {engine : DecoderEngine ω σ} (h : engine.Announces) {wrap : σ → τ}
    {unwrap : τ → Option σ} (hwrap : ∀ inner, unwrap (wrap inner) = some inner) :
    (engine.within wrap unwrap).Announces := by
  intro input room handle world hend
  unfold DecoderEngine.within at hend ⊢
  dsimp only at hend ⊢
  cases hinner : unwrap handle with
  | none =>
    rw [hinner] at hend
    cases hend
  | some inner =>
    rw [hinner] at hend
    dsimp only at hend ⊢
    rw [hwrap]
    exact h input room inner world hend

theorem goesOn_brotli (backend : Brotli.Backend ω) : (Brotli.decoder backend).GoesOn := by
  intro input room handle world h hcode
  simp only [Brotli.decoder] at h hcode ⊢
  split at hcode <;> simp_all

theorem goesOn_zstd (backend : Zstd.Backend ω) : (Zstd.decoder backend).GoesOn := by
  intro input room handle world h hcode
  simp only [Zstd.decoder] at h hcode ⊢
  split at hcode
  · exact absurd rfl hcode
  · exact h
  · exact h

theorem goesOn_deflate (backend : Deflate.Backend ω) (zlib : Bool) :
    (Deflate.decoder backend zlib).GoesOn := by
  intro input room handle world h hcode
  simp only [Deflate.decoder] at h hcode ⊢
  split at hcode
  · exact absurd rfl hcode
  · exact h
  · exact h

theorem goesOn_lzma (backend : Lzma.Backend ω) (container : Lzma.Container) :
    (Lzma.decoder backend container).GoesOn := by
  intro input room handle world h hcode
  simp only [Lzma.decoder] at h hcode ⊢
  split at hcode
  · exact absurd rfl hcode
  · exact h
  · exact h

theorem GoesOn.within {engine : DecoderEngine ω σ} (h : engine.GoesOn) {wrap : σ → τ}
    {unwrap : τ → Option σ} (hwrap : ∀ inner, unwrap (wrap inner) = some inner) :
    (engine.within wrap unwrap).GoesOn := by
  intro input room handle world hopen hcode
  unfold DecoderEngine.within at hopen hcode ⊢
  dsimp only at hopen hcode ⊢
  cases hinner : unwrap handle with
  | none => rw [hinner]; rfl
  | some inner =>
    rw [hinner, Option.any_some] at hopen
    rw [hinner] at hcode
    dsimp only at hcode ⊢
    rw [hwrap]
    exact h input room inner world hopen hcode

end DecoderEngine

theorem Backend.announces (backend : Backend ω) {codec : Codec} {engine : DecoderEngine ω DecoderHandle}
    (h : backend.decoder codec = some engine) : engine.Announces := by
  cases codec <;> cases h
  · exact (DecoderEngine.announces_brotli _).within fun _ => rfl
  · exact (DecoderEngine.announces_zstd _).within fun _ => rfl
  · exact (DecoderEngine.announces_deflate _ _).within fun _ => rfl
  · exact (DecoderEngine.announces_deflate _ _).within fun _ => rfl
  · exact (DecoderEngine.announces_lzma _ _).within fun _ => rfl
  · exact (DecoderEngine.announces_lzma _ _).within fun _ => rfl

theorem Backend.goesOn (backend : Backend ω) {codec : Codec} {engine : DecoderEngine ω DecoderHandle}
    (h : backend.decoder codec = some engine) : engine.GoesOn := by
  cases codec <;> cases h
  · exact (DecoderEngine.goesOn_brotli _).within fun _ => rfl
  · exact (DecoderEngine.goesOn_zstd _).within fun _ => rfl
  · exact (DecoderEngine.goesOn_deflate _ _).within fun _ => rfl
  · exact (DecoderEngine.goesOn_deflate _ _).within fun _ => rfl
  · exact (DecoderEngine.goesOn_lzma _ _).within fun _ => rfl
  · exact (DecoderEngine.goesOn_lzma _ _).within fun _ => rfl

@[simp] theorem Codec.codec_version (codec : Codec) : codec.version.codec = codec := by
  cases codec <;> rfl

/-- What the registry has under a codec are the engines of that codec. -/
theorem Backend.engines_of_factory (backend : Backend ω) {codec : Codec}
    {factory : Factory ω EncoderHandle DecoderHandle}
    (h : backend.registry.factory codec = .ok factory) :
    backend.encoder codec = some factory.encoder ∧ backend.decoder codec = some factory.decoder := by
  unfold Registry.factory at h
  split at h
  · next found hfound =>
    cases h
    have hcodec : factory.version.codec = codec := by simpa using List.find?_some hfound
    have hmem := List.mem_of_find?_eq_some hfound
    obtain ⟨codec', -, hfactory⟩ := List.mem_filterMap.mp hmem
    split at hfactory
    · next hencoder hdecoder =>
      cases hfactory
      obtain rfl : codec' = codec := by simpa using hcodec
      exact ⟨hencoder, hdecoder⟩
    · cases hfactory
  · cases h

theorem Backend.registry_announces (backend : Backend ω) {codec : Codec}
    {factory : Factory ω EncoderHandle DecoderHandle}
    (h : backend.registry.factory codec = .ok factory) : factory.decoder.Announces :=
  backend.announces (backend.engines_of_factory h).2

theorem Backend.registry_goesOn (backend : Backend ω) {codec : Codec}
    {factory : Factory ω EncoderHandle DecoderHandle}
    (h : backend.registry.factory codec = .ok factory) : factory.decoder.GoesOn :=
  backend.goesOn (backend.engines_of_factory h).2

end StreamCodec
