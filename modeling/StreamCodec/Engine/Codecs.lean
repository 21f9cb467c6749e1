import StreamCodec.Engine.Brotli
import StreamCodec.Engine.Zstd
import StreamCodec.Engine.Deflate
import StreamCodec.Engine.Lzma

/-!
# The registered codecs

`registry` lists the engines of the six streaming codecs over one backend. A
handle of the registry is a handle of one of the four engine families.
-/
namespace StreamCodec

/-- The libraries under all engines, with one state for all, and the runtime. -/
structure Backend (ω : Type) where
  brotli : Brotli.Backend ω
  zstd : Zstd.Backend ω
  deflate : Deflate.Backend ω
  lzma : Lzma.Backend ω
  retriesWrites : Bool := false

/-- An encoder's handle, whatever its family. -/
inductive EncoderHandle where
  | brotli (handle : Brotli.Handle)
  | zstd (handle : Zstd.Handle)
  | deflate (handle : Deflate.EncoderHandle)
  | lzma (handle : Lzma.EncoderHandle)
deriving DecidableEq, Repr

inductive DecoderHandle where
  | brotli (handle : Brotli.Handle)
  | zstd (handle : Zstd.Handle)
  | deflate (handle : Deflate.DecoderHandle)
  | lzma (handle : Lzma.DecoderHandle)
deriving DecidableEq, Repr

variable {ω σ τ : Type}

/-- An engine whose handles are stored in a larger type; a foreign handle refuses everything. -/
def EncoderEngine.within (engine : EncoderEngine ω σ) (wrap : σ → τ) (unwrap : τ → Option σ) :
    EncoderEngine ω τ where
  create world :=
    match engine.create world with
    | (.ok handle, world) => (.ok (wrap handle), world)
    | (.error e, world) => (.error e, world)
  setParameter p handle world :=
    match unwrap handle with
    | some inner =>
      let (accepted, inner, world) := engine.setParameter p inner world
      (accepted, wrap inner, world)
    | none => (false, handle, world)
  compress op input room handle world :=
    match unwrap handle with
    | some inner =>
      let (reply, inner, world) := engine.compress op input room inner world
      (reply, wrap inner, world)
    | none => (⟨input.size, room.size, room, .error "foreign handle"⟩, handle, world)
  hasMoreOutput handle := (unwrap handle).any engine.hasMoreOutput
  isFinished handle := (unwrap handle).any engine.isFinished

@[inherit_doc EncoderEngine.within]
def DecoderEngine.within (engine : DecoderEngine ω σ) (wrap : σ → τ) (unwrap : τ → Option σ) :
    DecoderEngine ω τ where
  create world :=
    match engine.create world with
    | (.ok handle, world) => (.ok (wrap handle), world)
    | (.error e, world) => (.error e, world)
  setParameter p handle world :=
    match unwrap handle with
    | some inner =>
      let (accepted, inner, world) := engine.setParameter p inner world
      (accepted, wrap inner, world)
    | none => (false, handle, world)
  decompress input room handle world :=
    match unwrap handle with
    | some inner =>
      let (reply, inner, world) := engine.decompress input room inner world
      (reply, wrap inner, world)
    | none => (⟨input.size, room.size, room, .error "foreign handle"⟩, handle, world)
  hasMoreOutput handle := (unwrap handle).any engine.hasMoreOutput
  isFinished handle := (unwrap handle).any engine.isFinished

/-- The library of each codec and its version. -/
def Codec.version : Codec → EngineVersion
  | .brotli => ⟨.brotli, "brotli", "8"⟩
  | .zstd => ⟨.zstd, "libzstd", "1.5.7"⟩
  | .deflate => ⟨.deflate, "flate2", "1"⟩
  | .zlib => ⟨.zlib, "flate2", "1"⟩
  | .xz => ⟨.xz, "liblzma", "5"⟩
  | .lzma => ⟨.lzma, "liblzma", "5"⟩
  | .lz4 => ⟨.lz4, "lz4_flex", "0.11"⟩

namespace Backend

variable (backend : Backend ω)

def encoder : Codec → Option (EncoderEngine ω EncoderHandle)
  | .brotli => some ((Brotli.encoder backend.brotli).within .brotli fun
      | .brotli h => some h
      | _ => none)
  | .zstd => some ((Zstd.encoder backend.zstd).within .zstd fun
      | .zstd h => some h
      | _ => none)
  | .deflate => some (deflate false)
  | .zlib => some (deflate true)
  | .xz => some (lzma .xz)
  | .lzma => some (lzma .alone)
  | .lz4 => none
where
  deflate (zlib : Bool) : EncoderEngine ω EncoderHandle :=
    (Deflate.encoder backend.deflate zlib).within .deflate fun
      | .deflate h => some h
      | _ => none
  lzma (container : Lzma.Container) : EncoderEngine ω EncoderHandle :=
    (Lzma.encoder backend.lzma container).within .lzma fun
      | .lzma h => some h
      | _ => none

def decoder : Codec → Option (DecoderEngine ω DecoderHandle)
  | .brotli => some ((Brotli.decoder backend.brotli).within .brotli fun
      | .brotli h => some h
      | _ => none)
  | .zstd => some ((Zstd.decoder backend.zstd).within .zstd fun
      | .zstd h => some h
      | _ => none)
  | .deflate => some (deflate false)
  | .zlib => some (deflate true)
  | .xz => some (lzma .xz)
  | .lzma => some (lzma .alone)
  | .lz4 => none
where
  deflate (zlib : Bool) : DecoderEngine ω DecoderHandle :=
    (Deflate.decoder backend.deflate zlib).within .deflate fun
      | .deflate h => some h
      | _ => none
  lzma (container : Lzma.Container) : DecoderEngine ω DecoderHandle :=
    (Lzma.decoder backend.lzma container).within .lzma fun
      | .lzma h => some h
      | _ => none

/-- The engines of every streaming codec. -/
def registry : Registry ω EncoderHandle DecoderHandle where
  factories := Codec.all.filterMap fun codec =>
    match backend.encoder codec, backend.decoder codec with
    | some encoder, some decoder => some { version := codec.version, encoder, decoder }
    | _, _ => none
  retriesWrites := backend.retriesWrites

end Backend

end StreamCodec
