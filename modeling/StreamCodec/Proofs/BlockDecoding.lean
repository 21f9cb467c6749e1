import StreamCodec.Block.Basic
import StreamCodec.Format.Lz4
import StreamCodec.Proofs.Delivery
import StreamCodec.Proofs.Marked

/-!
# Decoding a block

Over an engine that decodes, decompressing a block answers exactly, whatever the
size of the destination: the plain length where the plain text fits, and else
whether the stream is cut off or the destination too small. A destination that is
full says nothing by itself; the call on the spare byte then has room, so the engine
has to tell the end of the stream, the end of the source and one more plain byte
apart.

`Stage` is what is known between the two calls, `Meets` what the status of either
says of the block.
-/
namespace StreamCodec.Block

open Decompressor (determinedBy determinedBy_whole determinedBy_part)

variable {ω ε δ : Type} {codec : Codec} {engine : DecoderEngine ω δ} {parameters : List Parameter}
  {compressed plain held : List UInt8} {out : Nat → Nat} {At : δ → ω → Nat → Nat → Prop}

/-- What the bytes held by a source come to in a destination of so many bytes. -/
def answer (codec : Codec) (compressed plain held : List UInt8) (out : Nat → Nat) (capacity : Nat) :
    Except CodecError Nat :=
  if capacity < determinedBy compressed held out then .error (.destinationTooSmall codec capacity)
  else if compressed.length ≤ held.length then .ok plain.length
  else .error (.truncated codec)

/-- A result that is the answer, with the plain text at the front of the destination if it is a
length. -/
structure Exact (codec : Codec) (compressed plain held : List UInt8) (out : Nat → Nat)
    (capacity : Nat) (result : Result ω) : Prop where
  answer : result.1 = answer codec compressed plain held out capacity
  bytes : ∀ n, result.1 = .ok n → (octets result.2.1).take plain.length = plain

/-- A session and its source with `c` of the bytes held consumed and `e` plain bytes emitted. -/
structure Stage (codec : Codec) (engine : DecoderEngine ω δ) (At : δ → ω → Nat → Nat → Prop)
    (compressed held : List UInt8) (out : Nat → Nat) (s : DecoderSession ω δ) (src : CursorBuffer)
    (c e : Nat) : Prop where
  stands : DecoderSession.Stands codec engine At s c e
  within : c ≤ compressed.length
  determined : e ≤ out c
  le : c ≤ held.length
  src : octets src.unread = held.drop c

/-- What a status says of the block, with `e` plain bytes emitted. -/
def Meets (compressed plain held : List UInt8) (out : Nat → Nat) (e : Nat) (dst : CursorBuffer) :
    Status → Prop
  | .done => compressed.length ≤ held.length ∧ e = plain.length
  | .destinationTooSmall => dst.availableWrite = 0
  | .needMoreData => held.length < compressed.length ∧ e = determinedBy compressed held out
  | .invalidData => False

namespace Stage

variable {s : DecoderSession ω δ} {src : CursorBuffer} {c e : Nat}

theorem le_determinedBy (hd : engine.Decodes parameters compressed plain out At)
    (h : Stage codec engine At compressed held out s src c e) :
    e ≤ determinedBy compressed held out :=
  Nat.le_trans h.determined (hd.mono _ _ (Nat.le_min.mpr ⟨h.within, h.le⟩))

/-- An operation into an empty destination. Of an empty source it does not say that it is cut off
if it is the whole of an empty stream, hence `hsome`. -/
theorem decompress (hd : engine.Decodes parameters compressed plain out At)
    (hheld : held.take compressed.length <+: compressed) (hsome : held ≠ [] ∨ compressed ≠ [])
    (h : Stage codec engine At compressed held out s src c e) (dst : ByteArray) :
    ∃ status s' w' c' e', s.decompress ⟨src, .empty dst⟩ = (.ok status, s', w') ∧
      Stage codec engine At compressed held out s' w'.src c' e' ∧ e ≤ e' ∧
      w'.dst.size = e' - e ∧ w'.dst.storage.size = dst.size ∧
      (octets w'.dst.storage).take (e' - e) = (plain.drop e).take (e' - e) ∧
      Meets compressed plain held out e' w'.dst status := by
  have hoffer : (octets src.unread).take (compressed.length - c) <+: compressed.drop c := by
    rw [h.src, ← List.drop_take]
    exact hheld.drop c
  obtain ⟨status, s', w', c', e', hrun, hstands, hdecoded, htells⟩ :=
    DecoderSession.decompress_decodes hd h.stands h.within h.determined (w := ⟨src, .empty dst⟩)
      hoffer
  obtain ⟨hsize, hstorage, hbytes⟩ := hdecoded.of_empty
  have hread : src.availableRead = held.length - c := by
    rw [← CursorBuffer.length_octets_unread, h.src, List.length_drop]
  have hoffered : c' - c ≤ src.availableRead := hdecoded.offered
  have hle : c' ≤ held.length := by
    have := h.le
    omega
  have hsrc : octets w'.src.unread = held.drop c' := by
    rw [hdecoded.src, h.src, List.drop_drop, Nat.add_sub_cancel' hdecoded.le]
  refine ⟨status, s', w', c', e', hrun, ⟨hstands, hdecoded.within, hdecoded.determined, hle, hsrc⟩,
    hdecoded.emitted, hsize, hstorage, hbytes, ?_⟩
  cases status with
  | done => exact ⟨htells.1 ▸ hle, htells.2⟩
  | destinationTooSmall => exact htells
  | invalidData => exact htells
  | needMoreData =>
    obtain ⟨hall, hemitted, hshort⟩ := htells
    have hend : c' = held.length := by
      have hall' : c' = c + src.availableRead := hall
      have := h.le
      omega
    have hpart : held.length < compressed.length := by
      rcases hshort with hshort | hzero
      · omega
      · have hnil : held = [] := List.length_eq_zero_iff.mp (hend ▸ hzero)
        rw [hnil]
        exact List.length_pos_iff.mpr (hsome.resolve_left (absurd hnil))
    exact ⟨hpart, by rw [determinedBy_part (Nat.le_of_lt hpart), hemitted, hend]⟩

end Stage

/-- The call on the spare byte, once the destination is full. -/
theorem decompressSpare_exact (hd : engine.Decodes parameters compressed plain out At)
    (hheld : held.take compressed.length <+: compressed) (hsome : held ≠ [] ∨ compressed ≠ [])
    {s : DecoderSession ω δ} {w : Windows} {c e : Nat}
    (h : Stage codec engine At compressed held out s w.src c e) (hfull : w.dst.size = e)
    (hcapacity : w.dst.capacity = e) (hbytes : (octets w.dst.storage).take e = plain.take e) :
    Exact codec compressed plain held out e (decompressSpare s w) := by
  obtain ⟨status, s', spill, c', e', hrun, h', hemitted, hsize, hroom, -, hmeets⟩ :=
    h.decompress hd hheld hsome ⟨Array.replicate 1 0⟩
  have hrun' : s.decompress ⟨w.src, spare⟩ = (.ok status, s', spill) := hrun
  have hcodec : s.codec = codec := h.stands.codec
  have hcodec' : s'.codec = codec := h'.stands.codec
  have hdetermined := h'.le_determinedBy hd
  unfold decompressSpare
  rw [hrun', hcodec, hcapacity, hfull]
  cases status with
  | done =>
    obtain ⟨hwhole, hend⟩ := hmeets
    have hall := determinedBy_whole hd hwhole
    dsimp only
    split
    · next hnone =>
      have heq : e = plain.length := by omega
      refine ⟨?_, fun _ _ => ?_⟩
      · rw [answer, hall, if_neg (by omega), if_pos hwhole, heq]
      · rw [← heq, hbytes, heq, List.take_length]
    · next hmore =>
      refine ⟨?_, nofun⟩
      rw [answer, hall, if_pos (by omega)]
  | destinationTooSmall =>
    have hspilled : spill.dst.storage.size - spill.dst.size = 0 := hmeets
    have hone : spill.dst.storage.size = 1 := hroom
    refine ⟨?_, nofun⟩
    rw [answer, if_pos (by omega)]
  | needMoreData =>
    obtain ⟨hpart, hend⟩ := hmeets
    dsimp only
    rw [hcodec']
    refine ⟨?_, nofun⟩
    split
    · next hnone => rw [answer, if_neg (by omega), if_neg (Nat.not_le_of_lt hpart)]
    · next hmore => rw [answer, if_pos (by omega)]
  | invalidData => exact hmeets.elim

def session (codec : Codec) (factory : Factory ω ε δ) (handle : δ) (world : ω) :
    DecoderSession ω δ where
  options := { codec }
  version := factory.version
  engine := factory.decoder
  world := world
  handle := some handle

def conclude (s : DecoderSession ω δ) (w : Windows) : Status → Result ω
  | .done => (.ok w.dst.size, w.dst.storage, s.world)
  | .destinationTooSmall => decompressSpare s w
  | .needMoreData => (.error (.truncated s.codec), w.dst.storage, s.world)
  | .invalidData => (.error (failure s.codec s.lastError), w.dst.storage, s.world)

section Block

variable (registry : Registry ω ε δ) (lz4 : BlockFormat) (world : ω) (src dst : ByteArray)
  {factory : Factory ω ε δ} {handle : δ} {world₁ : ω}

/-- Decompressing a block is an operation of an open session and what its status makes of it. -/
theorem decompress_of_run (hcodec : codec ≠ .lz4) (hfactory : registry.factory codec = .ok factory)
    (hcreate : factory.decoder.create world = (.ok handle, world₁)) {status : Status}
    {s : DecoderSession ω δ} {w : Windows}
    (hrun : (session codec factory handle world₁).decompress ⟨.filled src, .empty dst⟩ =
      (.ok status, s, w)) :
    decompress registry lz4 world codec src dst = conclude s w status := by
  have hvalid : CodecOptions.validate { codec } = .ok () := by cases codec <;> rfl
  have hstreaming : codec.isStreaming = true := decide_eq_true hcodec
  have hopened : DecoderSession.opened
      { options := { codec }, version := factory.version, engine := factory.decoder, world } =
        (.ok handle, session codec factory handle world₁) := by
    simp only [DecoderSession.opened, hcreate]
    rfl
  have hopen : (session codec factory handle world₁).opened =
      (.ok handle, session codec factory handle world₁) := rfl
  have hrun' : DecoderSession.decompress
      { options := { codec }, version := factory.version, engine := factory.decoder, world }
        ⟨.filled src, .empty dst⟩ = (.ok status, s, w) := by
    rw [DecoderSession.decompress, hopened]
    rw [DecoderSession.decompress, hopen] at hrun
    exact hrun
  rw [decompress, if_neg hcodec, DecoderSession.new, hvalid]
  simp only [hstreaming, hfactory, hrun', Bool.not_true, Bool.false_eq_true, ↓reduceIte]
  cases status <;> rfl

theorem decompress_answers (hcodec : codec ≠ .lz4) (hfactory : registry.factory codec = .ok factory)
    (hd : factory.decoder.Decodes [] compressed plain out At)
    (hcreate : factory.decoder.create world = (.ok handle, world₁))
    (hheld : (octets src).take compressed.length <+: compressed)
    (hsome : octets src ≠ [] ∨ compressed ≠ []) :
    Exact codec compressed plain (octets src) out dst.size
      (decompress registry lz4 world codec src dst) := by
  have hat : At handle world₁ 0 0 := hd.opens _ _ _ _ _ hcreate rfl
  have hstage : Stage codec factory.decoder At compressed (octets src) out
      (session codec factory handle world₁) (.filled src) 0 0 :=
    ⟨⟨rfl, rfl, rfl, ⟨handle, rfl, hat⟩, rfl⟩, Nat.zero_le _, Nat.zero_le _, Nat.zero_le _,
      CursorBuffer.octets_unread_filled src⟩
  obtain ⟨status, s, w, c, e, hrun, h, -, hsize, hstorage, hbytes, hmeets⟩ :=
    hstage.decompress hd hheld hsome dst
  have hscodec : s.codec = codec := h.stands.codec
  have hdetermined := h.le_determinedBy hd
  have hfit : w.dst.size ≤ w.dst.storage.size := w.dst.size_le_capacity
  rw [Nat.sub_zero] at hsize hbytes
  rw [List.drop_zero] at hbytes
  rw [decompress_of_run registry lz4 world src dst hcodec hfactory hcreate hrun]
  cases status with
  | done =>
    obtain ⟨hwhole, hend⟩ := hmeets
    rw [conclude]
    refine ⟨?_, fun _ _ => ?_⟩
    · rw [answer, determinedBy_whole hd hwhole, if_neg (by omega), if_pos hwhole, hsize, hend]
    · rw [← hend, hbytes, hend, List.take_length]
  | destinationTooSmall =>
    have hfull : w.dst.storage.size - w.dst.size = 0 := hmeets
    have heq : dst.size = e := by omega
    have hcapacity : w.dst.capacity = e := hstorage.trans heq
    rw [heq, conclude]
    exact decompressSpare_exact hd hheld hsome h hsize hcapacity hbytes
  | needMoreData =>
    obtain ⟨hpart, hend⟩ := hmeets
    rw [conclude, hscodec]
    refine ⟨?_, nofun⟩
    rw [answer, if_neg (by omega), if_neg (Nat.not_le_of_lt hpart)]
  | invalidData => exact hmeets.elim

/-- Nothing to decompress is a stream that is cut off, unless the engine is finished before it has
been called. -/
theorem decompress_nothing (hcodec : codec ≠ .lz4) (hfactory : registry.factory codec = .ok factory)
    (hcreate : factory.decoder.create world = (.ok handle, world₁)) (hsrc : src.size = 0)
    (hunfinished : factory.decoder.isFinished handle = false) :
    (decompress registry lz4 world codec src dst).1 = .error (.truncated codec) := by
  have hempty : (CursorBuffer.filled src).isEmpty = true := by
    rw [CursorBuffer.isEmpty_iff]
    exact hsrc
  have hrun : (session codec factory handle world₁).decompress ⟨.filled src, .empty dst⟩ =
      (.ok .needMoreData, session codec factory handle world₁, ⟨.filled src, .empty dst⟩) := by
    have hopened : (session codec factory handle world₁).opened =
        (.ok handle, session codec factory handle world₁) := rfl
    have hengine : (session codec factory handle world₁).engine = factory.decoder := rfl
    have hunseen : (session codec factory handle world₁).hasSeenInput = false := rfl
    simp only [DecoderSession.decompress, hopened, hengine, hunfinished, hempty, hunseen,
      Bool.false_eq_true, Bool.not_false, Bool.and_true, ↓reduceIte]
  rw [decompress_of_run registry lz4 world src dst hcodec hfactory hcreate hrun]
  rfl

/-- Decompressing a block is exact at every size of the destination. Where the source begins with
the whole stream the plain text is there, or does not fit. Where it holds a front part of the
stream, that part is cut off, or determines more than fits. An empty source is cut off, even if a
stream without a byte is what was meant. -/
theorem decompress_exact (hcodec : codec ≠ .lz4) (hfactory : registry.factory codec = .ok factory)
    (hd : factory.decoder.Decodes [] compressed plain out At)
    (hcreate : factory.decoder.create world = (.ok handle, world₁)) :
    (∀ trailing, octets src = compressed ++ trailing → src.size ≠ 0 →
      (plain.length ≤ dst.size →
        (decompress registry lz4 world codec src dst).1 = .ok plain.length ∧
          (octets (decompress registry lz4 world codec src dst).2.1).take plain.length = plain) ∧
      (dst.size < plain.length →
        (decompress registry lz4 world codec src dst).1 =
          .error (.destinationTooSmall codec dst.size))) ∧
      (∀ c, c < compressed.length → octets src = compressed.take c →
        (out c ≤ dst.size →
          (decompress registry lz4 world codec src dst).1 = .error (.truncated codec)) ∧
        (dst.size < out c →
          (decompress registry lz4 world codec src dst).1 =
            .error (.destinationTooSmall codec dst.size))) ∧
      (src.size = 0 → factory.decoder.isFinished handle = false →
        (decompress registry lz4 world codec src dst).1 = .error (.truncated codec)) := by
  refine ⟨?_, ?_, decompress_nothing registry lz4 world src dst hcodec hfactory hcreate⟩
  · intro trailing hsrc hne
    have hwhole : compressed.length ≤ (octets src).length := by
      rw [hsrc, List.length_append]
      exact Nat.le_add_right ..
    have hexact := decompress_answers registry lz4 world src dst hcodec hfactory hd hcreate
      (by rw [hsrc, List.take_left]) (.inl (mt (octets_eq_nil_iff src).mp hne))
    have hanswer := hexact.answer
    rw [answer, determinedBy_whole hd hwhole, if_pos hwhole] at hanswer
    constructor
    · intro hfits
      rw [if_neg (Nat.not_lt_of_le hfits)] at hanswer
      exact ⟨hanswer, hexact.bytes _ hanswer⟩
    · intro hlarge
      rw [hanswer, if_pos hlarge]
  · intro c hc hsrc
    have hlength : (octets src).length = c := by
      rw [hsrc, List.length_take]
      omega
    have hanswer := (decompress_answers registry lz4 world src dst hcodec hfactory hd hcreate
      (by rw [hsrc]; exact (List.take_prefix _ _).trans (List.take_prefix _ _))
      (.inr (List.length_pos_iff.mp (Nat.zero_lt_of_lt hc)))).answer
    rw [answer, determinedBy_part (by omega), hlength, if_neg (Nat.not_le_of_lt hc)] at hanswer
    rw [hanswer]
    exact ⟨fun hfits => if_neg (Nat.not_lt_of_le hfits), fun hlarge => if_pos hlarge⟩

/-- A stream of two bytes with a byte behind it, where both fit and where one does; the first three
of its five bytes, and none of them. -/
theorem decompress_exact_marked :
    let run (src dst : ByteArray) := decompress Marked.registry Format.Lz4.format () .brotli src dst
    ((run ⟨#[1, 97, 1, 98, 0, 7]⟩ ⟨#[0, 0]⟩).1 = .ok 2 ∧
        (octets (run ⟨#[1, 97, 1, 98, 0, 7]⟩ ⟨#[0, 0]⟩).2.1).take 2 = [97, 98]) ∧
      (run ⟨#[1, 97, 1, 98, 0, 7]⟩ ⟨#[0]⟩).1 = .error (.destinationTooSmall .brotli 1) ∧
      (run ⟨#[1, 97, 1]⟩ ⟨#[0]⟩).1 = .error (.truncated .brotli) ∧
      (run ⟨#[]⟩ ⟨#[]⟩).1 = .error (.truncated .brotli) := by
  intro run
  have hcodec : Codec.brotli ≠ .lz4 := by decide
  have hfactory : Marked.registry.factory .brotli = .ok Marked.factory := rfl
  have hexact (src dst : ByteArray) := decompress_exact Marked.registry Format.Lz4.format () src dst
    hcodec hfactory (Marked.Decoder.decodes [] [97, 98]) rfl
  have hwhole (dst : ByteArray) :=
    (hexact ⟨#[1, 97, 1, 98, 0, 7]⟩ dst).1 [7] rfl (by decide)
  exact ⟨(hwhole ⟨#[0, 0]⟩).1 (by decide), (hwhole ⟨#[0]⟩).2 (by decide),
    ((hexact ⟨#[1, 97, 1]⟩ ⟨#[0]⟩).2.1 3 (by decide) rfl).1 (by decide),
    (hexact ⟨#[]⟩ ⟨#[]⟩).2.2 rfl rfl⟩

end Block

end StreamCodec.Block
