import StreamCodec.Proofs.Ledger

/-!
# Decoder engines that decode

`DecoderEngine.Decodes` is the contract of a decoder engine for one compressed
stream. The first bytes of the stream determine some of the plain text, and a
call that leaves room has taken all it was offered and emitted all that is
determined by then; the end of the stream is reported when it is reached, or
one call later where the room was filled to the last byte.

A session over such an engine needs one engine call for each of its own.
-/
namespace StreamCodec

variable {ω σ : Type}

/-- The contract of one call, which takes the engine from `c` bytes consumed and `e` bytes emitted
to `c'` and `e'`. -/
structure DecoderEngine.CallDecodes (engine : DecoderEngine ω σ) (compressed plain : List UInt8)
    (out : Nat → Nat) (c e : Nat) (input room : ByteArray) (reply : Reply) (handle' : σ)
    (c' e' : Nat) : Prop where
  consumed : c' = c + (input.size - reply.leftIn)
  emitted : e' = e + (room.size - reply.leftOut)
  within : c' ≤ compressed.length
  determined : e' ≤ out c'
  bytes : (octets (overlay room 0 reply.room)).take (room.size - reply.leftOut) =
    (plain.drop e).take (room.size - reply.leftOut)
  succeeds : ∀ detail, reply.code ≠ .error detail
  roomLeft : room.size - reply.leftOut < room.size →
    c' = min compressed.length (c + input.size) ∧ e' = out c' ∧
      engine.hasMoreOutput handle' = false
  ended : reply.code = .streamEnd → c' = compressed.length ∧ e' = plain.length
  ends : c' = compressed.length → e' = plain.length → room.size - reply.leftOut < room.size →
    reply.code = .streamEnd

/-- The contract of a decoder engine for a compressed stream. `out c` plain bytes are determined by
the first `c` bytes of the stream; `At` relates the engine's state to what it has consumed and
emitted. What is offered may go on behind the end of the stream, and an engine that says it is
finished is not called again. -/
structure DecoderEngine.Decodes (engine : DecoderEngine ω σ) (parameters : List Parameter)
    (compressed plain : List UInt8) (out : Nat → Nat) (At : σ → ω → Nat → Nat → Prop) : Prop where
  mono : ∀ c c', c ≤ c' → out c ≤ out c'
  out_zero : out 0 = 0
  out_all : out compressed.length = plain.length
  opens : ∀ world handle world₁ handle' world', engine.create world = (.ok handle, world₁) →
    engine.configure parameters handle world₁ = (.ok handle', world') → At handle' world' 0 0
  finished : ∀ handle world c e, At handle world c e → engine.isFinished handle = true →
    c = compressed.length ∧ e = plain.length
  call : ∀ handle world c e input room, At handle world c e →
    engine.isFinished handle = false → 0 < room.size →
    (octets input).take (compressed.length - c) <+: compressed.drop c →
    ∃ reply handle' world' c' e', engine.decompress input room handle world =
        (reply, handle', world') ∧
      At handle' world' c' e' ∧
      engine.CallDecodes compressed plain out c e input room reply handle' c' e'

namespace DecoderSession

variable {codec : Codec} {engine : DecoderEngine ω σ} {parameters : List Parameter}
  {compressed plain : List UInt8} {out : Nat → Nat} {At : σ → ω → Nat → Nat → Prop}

theorem eq_of_new {ε : Type} {registry : Registry ω ε σ} {world : ω} {options : CodecOptions}
    {s : DecoderSession ω σ} (h : DecoderSession.new registry world options = .ok s) :
    ∃ factory, registry.factory options.codec = .ok factory ∧
      s = { options, version := factory.version, engine := factory.decoder, world } := by
  unfold DecoderSession.new at h
  split at h
  · cases h
  · split at h
    · cases h
    · split at h
      · cases h
      · next factory hfactory => exact ⟨factory, hfactory, (Except.ok.inj h).symm⟩

theorem opened_fresh {s s' : DecoderSession ω σ} {handle : σ} (hd : s.isDisposed = false)
    (hh : s.handle = none) (h : s.opened = (.ok handle, s')) :
    ∃ handle₁ world₁ world', s.engine.create s.world = (.ok handle₁, world₁) ∧
      s.engine.configure s.options.decoderParameters handle₁ world₁ = (.ok handle, world') ∧
      s' = { s with world := world', handle := some handle } := by
  simp only [opened, hd, hh, Bool.false_eq_true, ↓reduceIte] at h
  split at h
  · cases h
  · next handle₁ world₁ hcreate =>
    split at h
    · cases h
    · next handle₂ world₂ hconf =>
      obtain ⟨hok, rfl⟩ := Prod.mk.inj h
      obtain rfl := Except.ok.inj hok
      exact ⟨handle₁, world₁, world₂, hcreate, hconf, by rw [hd]⟩

/-- An open session whose engine has consumed `c` bytes and emitted `e`. -/
structure Stands (codec : Codec) (engine : DecoderEngine ω σ) (At : σ → ω → Nat → Nat → Prop)
    (s : DecoderSession ω σ) (c e : Nat) : Prop where
  codec : s.codec = codec
  engine : s.engine = engine
  isDisposed : s.isDisposed = false
  handle : ∃ handle, s.handle = some handle ∧ At handle s.world c e
  seen : s.hasSeenInput = decide (0 < c)

/-- What an operation does to the buffers: the front of the source is gone, and the next plain
bytes are at the back of the destination. -/
structure Decoded (compressed plain : List UInt8) (out : Nat → Nat) (c e : Nat) (w w' : Windows)
    (c' e' : Nat) : Prop where
  le : c ≤ c'
  within : c' ≤ compressed.length
  emitted : e ≤ e'
  determined : e' ≤ out c'
  offered : c' - c ≤ w.src.availableRead
  src : octets w'.src.unread = (octets w.src.unread).drop (c' - c)
  dst : octets w'.dst.unread = octets w.dst.unread ++ (plain.drop e).take (e' - e)
  srcCapacity : w'.src.capacity = w.src.capacity
  dstCapacity : w'.dst.capacity = w.dst.capacity
  pos : w'.dst.pos = w.dst.pos
  room : w'.dst.availableWrite + (e' - e) = w.dst.availableWrite

/-- What the answer of an operation tells. -/
def Tells (compressed plain : List UInt8) (out : Nat → Nat) (w w' : Windows) (c c' e' : Nat) :
    Status → Prop
  | .done => c' = compressed.length ∧ e' = plain.length
  | .destinationTooSmall => w'.dst.availableWrite = 0
  | .needMoreData => c' = c + w.src.availableRead ∧ e' = out c' ∧
      (c' < compressed.length ∨ c' = 0)
  | .invalidData => False

theorem Decoded.none {c e : Nat} {w : Windows} (hc : c ≤ compressed.length) (he : e ≤ out c) :
    Decoded compressed plain out c e w w c e where
  le := Nat.le_refl _
  within := hc
  emitted := Nat.le_refl _
  determined := he
  offered := by omega
  src := by rw [Nat.sub_self, List.drop_zero]
  dst := by rw [Nat.sub_self, List.take_zero, List.append_nil]
  srcCapacity := rfl
  dstCapacity := rfl
  pos := rfl
  room := by omega

/-- An operation on a destination that was empty: what it decoded stands at the front. -/
theorem Decoded.of_empty {c e c' e' : Nat} {src : CursorBuffer} {dst : ByteArray} {w' : Windows}
    (h : Decoded compressed plain out c e ⟨src, .empty dst⟩ w' c' e') :
    w'.dst.size = e' - e ∧ w'.dst.storage.size = dst.size ∧
      (octets w'.dst.storage).take (e' - e) = (plain.drop e).take (e' - e) := by
  have hpos : w'.dst.pos = 0 := h.pos
  have hcap : w'.dst.storage.size = dst.size := h.dstCapacity
  have hsize : w'.dst.size = e' - e := by
    have hleft : w'.dst.availableWrite + (e' - e) = dst.size := h.room
    have hfit : w'.dst.size ≤ w'.dst.storage.size := w'.dst.size_le_capacity
    have hwrite : w'.dst.availableWrite = w'.dst.storage.size - w'.dst.size := rfl
    omega
  have hread : w'.dst.availableRead = e' - e := by
    rw [CursorBuffer.availableRead, hpos, hsize, Nat.sub_zero]
  have hout : octets w'.dst.unread = (plain.drop e).take (e' - e) := by
    rw [h.dst, CursorBuffer.octets_unread_empty, List.nil_append]
  exact ⟨hsize, hcap, by rw [← hout, CursorBuffer.octets_unread_of_pos _ hpos, hread]⟩

theorem decoded_settle {c e c' e' : Nat} {w : Windows} {reply : Reply} {handle' : σ}
    (hcall : engine.CallDecodes compressed plain out c e w.src.unread w.dst.unwritten reply handle'
      c' e') :
    Decoded compressed plain out c e w (w.settle reply) c' e' := by
  have hin := hcall.consumed
  have hout := hcall.emitted
  rw [CursorBuffer.size_unread] at hin
  rw [CursorBuffer.size_unwritten] at hout
  have hmoved := Moved.settle .decode w reply
  have hwrite := w.availableWrite_settle reply
  have hproduced := w.produced_le reply
  rw [Windows.produced] at hwrite hproduced
  refine ⟨by omega, hcall.within, by omega, hcall.determined, by omega, ?_, ?_, ?_,
    hmoved.capacity, hmoved.pos, by omega⟩
  · rw [Windows.settle, CursorBuffer.octets_unread_consume, hin, Nat.add_sub_cancel_left]
  · have hbytes := hcall.bytes
    rw [CursorBuffer.size_unwritten] at hbytes
    rw [hmoved.dst, Ledger.produced_singleton, EngineCall.produced, CursorBuffer.size_unwritten,
      hbytes, hout, Nat.add_sub_cancel_left]
  · exact w.src.capacity_consume _

/-- With room left the call has taken all it was offered, unless it reported the end. -/
theorem tells_needMoreData (hd : engine.Decodes parameters compressed plain out At)
    {c e c' e' : Nat} {w : Windows} {reply : Reply} {handle' : σ}
    (hcall : engine.CallDecodes compressed plain out c e w.src.unread w.dst.unwritten reply handle'
      c' e') (hcode : reply.code ≠ .streamEnd) (hroom : (w.settle reply).dst.availableWrite ≠ 0) :
    Tells compressed plain out w (w.settle reply) c c' e' .needMoreData ∧
      (w.settle reply).src.isEmpty = true ∧ engine.hasMoreOutput handle' = false := by
  have hdecoded := decoded_settle hcall
  have hleft : w.dst.unwritten.size - reply.leftOut < w.dst.unwritten.size := by
    have := hdecoded.room
    have := hcall.emitted
    rw [CursorBuffer.size_unwritten] at *
    omega
  obtain ⟨hc, he, hpending⟩ := hcall.roomLeft hleft
  rw [CursorBuffer.size_unread] at hc
  have hshort : c' < compressed.length := by
    refine Nat.lt_of_le_of_ne hdecoded.within fun hend => hcode (hcall.ends hend ?_ hleft)
    rw [he, hend, hd.out_all]
  have hsrc := congrArg List.length hdecoded.src
  rw [List.length_drop, CursorBuffer.length_octets_unread, CursorBuffer.length_octets_unread] at hsrc
  refine ⟨⟨by omega, he, .inl hshort⟩, ?_, hpending⟩
  rw [CursorBuffer.isEmpty_iff]
  omega

/-- A drive is one call, or none where there is no room. -/
theorem drive_decodes (hd : engine.Decodes parameters compressed plain out At)
    {s : DecoderSession ω σ} {c e : Nat} (hs : Stands codec engine At s c e)
    (hc : c ≤ compressed.length) (he : e ≤ out c) {handle : σ} (hat : At handle s.world c e)
    (hunfinished : engine.isFinished handle = false) {w : Windows}
    (hoffer : (octets w.src.unread).take (compressed.length - c) <+: compressed.drop c) :
    ∃ c' e', Stands codec engine At (drive s handle w 0).2.1 c' e' ∧
      Decoded compressed plain out c e w (drive s handle w 0).2.2 c' e' ∧
      Tells compressed plain out w (drive s handle w 0).2.2 c c' e' (drive s handle w 0).1 := by
  by_cases hroom : w.dst.availableWrite = 0
  · rw [drive, if_pos hroom]
    exact ⟨c, e, hs, .none hc he, hroom⟩
  have hpos : 0 < w.dst.unwritten.size := by
    rw [CursorBuffer.size_unwritten]
    omega
  obtain ⟨reply, handle', world', c', e', hreply, hat', hcall⟩ :=
    hd.call handle s.world c e w.src.unread w.dst.unwritten hat hunfinished hpos hoffer
  have hdecoded := decoded_settle hcall
  have hstands : Stands codec engine At (s.record w reply handle' world') c' e' := by
    refine ⟨hs.codec, hs.engine, hs.isDisposed, ⟨handle', rfl, hat'⟩, ?_⟩
    have hin := hcall.consumed
    rw [CursorBuffer.size_unread] at hin
    have hcount : w.consumed reply = w.src.availableRead - reply.leftIn :=
      Nat.min_eq_left (Nat.sub_le ..)
    rw [record, hs.seen, hcount, Bool.eq_iff_iff]
    simp only [Bool.or_eq_true, decide_eq_true_eq]
    omega
  refine ⟨c', e', ?_⟩
  rw [drive, if_neg hroom, hs.engine, hreply]
  dsimp only
  split
  · next hcode => exact absurd hcode (hcall.succeeds _)
  · next hcode => exact ⟨hstands, hdecoded, hcall.ended hcode⟩
  · next hcode =>
    by_cases hfull : (w.settle reply).dst.availableWrite = 0
    · rw [if_pos hfull]
      exact ⟨hstands, hdecoded, hfull⟩
    · obtain ⟨htells, hempty, hpending⟩ := tells_needMoreData hd hcall hcode hfull
      rw [if_neg hfull, if_pos (by simp [hempty, hpending])]
      exact ⟨hstands, hdecoded, htells⟩

theorem decompress_decodes (hd : engine.Decodes parameters compressed plain out At)
    {s : DecoderSession ω σ} {c e : Nat} (hs : Stands codec engine At s c e)
    (hc : c ≤ compressed.length) (he : e ≤ out c) {w : Windows}
    (hoffer : (octets w.src.unread).take (compressed.length - c) <+: compressed.drop c) :
    ∃ status s' w' c' e', s.decompress w = (.ok status, s', w') ∧ Stands codec engine At s' c' e' ∧
      Decoded compressed plain out c e w w' c' e' ∧
      Tells compressed plain out w w' c c' e' status := by
  obtain ⟨handle, hh, hat⟩ := hs.handle
  have hopened : s.opened = (.ok handle, s) := by simp [opened, hs.isDisposed, hh]
  simp only [decompress, hopened]
  split
  · next hfinished =>
    rw [hs.engine] at hfinished
    exact ⟨_, _, _, c, e, rfl, hs, .none hc he, hd.finished handle s.world c e hat hfinished⟩
  · next hunfinished =>
    rw [hs.engine, Bool.not_eq_true] at hunfinished
    split
    · next hunseen =>
      simp only [hs.seen, Bool.and_eq_true, Bool.not_eq_true', decide_eq_false_iff_not,
        CursorBuffer.isEmpty_iff] at hunseen
      have hzero : c = 0 := by omega
      have hout : e = out c := by
        rw [hzero, hd.out_zero] at he ⊢
        omega
      exact ⟨_, _, _, c, e, rfl, hs, .none hc he, by omega, hout, .inr hzero⟩
    · obtain ⟨c', e', hstands, hdecoded, htells⟩ := drive_decodes hd hs hc he hat hunfinished hoffer
      exact ⟨_, _, _, c', e', rfl, hstands, hdecoded, htells⟩

end DecoderSession

end StreamCodec
