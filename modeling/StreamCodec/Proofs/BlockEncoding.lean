import StreamCodec.Block.Basic
import StreamCodec.Format.Lz4
import StreamCodec.Proofs.Marked

/-!
# Encoding a block

`EncoderEngine.Emits` is the contract of an encoder engine for the finish of one plain
text: it emits a stream, byte after byte, and leaves room over only once it is
finished. Over such an engine a block is compressed exactly if its stream fits into
the destination. That the stream ends where the destination does may show in the call
that fills the destination, or only in one more call, which has the spare byte for its
room and must leave it unused.
-/
namespace StreamCodec

variable {ω σ : Type}

/-- The contract of one call to finish, which takes the engine from `c` bytes consumed and `e` bytes
emitted to `c'` and `e'`. -/
structure EncoderEngine.CallEmits (engine : EncoderEngine ω σ) (stream : List UInt8) (c e : Nat)
    (input room : ByteArray) (reply : Reply) (handle' : σ) (c' e' : Nat) : Prop where
  consumed : c' = c + (input.size - reply.leftIn)
  emitted : e' = e + (room.size - reply.leftOut)
  within : e' ≤ stream.length
  bytes : (octets (overlay room 0 reply.room)).take (room.size - reply.leftOut) =
    (stream.drop e).take (room.size - reply.leftOut)
  succeeds : ∀ detail, reply.code ≠ .error detail
  roomLeft : room.size - reply.leftOut < room.size → engine.isFinished handle' = true

/-- The contract of an encoder engine for a plain text and its stream. `At` relates the engine's
state to what it has consumed and emitted. An engine that says it is finished is not called again. -/
structure EncoderEngine.Emits (engine : EncoderEngine ω σ) (parameters : List Parameter)
    (plain stream : List UInt8) (At : σ → ω → Nat → Nat → Prop) : Prop where
  opens : ∀ world handle world₁ handle' world', engine.create world = (.ok handle, world₁) →
    engine.configure parameters handle world₁ = (.ok handle', world') → At handle' world' 0 0
  finished : ∀ handle world c e, At handle world c e → engine.isFinished handle = true →
    c = plain.length ∧ e = stream.length
  call : ∀ handle world c e input room, At handle world c e → engine.isFinished handle = false →
    octets input = plain.drop c → 0 < room.size →
    ∃ reply handle' world' c' e', engine.compress .finish input room handle world =
        (reply, handle', world') ∧
      At handle' world' c' e' ∧ engine.CallEmits stream c e input room reply handle' c' e'

namespace EncoderSession

variable {δ : Type} {codec : Codec} {engine : EncoderEngine ω σ} {parameters : List Parameter}
  {plain stream : List UInt8} {At : σ → ω → Nat → Nat → Prop}

theorem new_of_factory {registry : Registry ω σ δ} {factory : Factory ω σ δ} {options : CodecOptions}
    (world : ω) (hcodec : options.codec ≠ .lz4) (hvalid : options.validate = .ok ())
    (hfactory : registry.factory options.codec = .ok factory) :
    EncoderSession.new registry world options =
      .ok { options, version := factory.version, engine := factory.encoder, world } := by
  have hstreaming : options.codec.isStreaming = true := decide_eq_true hcodec
  rw [EncoderSession.new, hvalid]
  simp only [hstreaming, hfactory, Bool.not_true, Bool.false_eq_true, ↓reduceIte]

theorem compress_eq_of_opened {s s' : EncoderSession ω σ} {handle : σ}
    (hopened : s.opened = (.ok handle, s')) (hopen : s'.opened = (.ok handle, s')) (op : FlushOp)
    (w : Windows) : s.compress op w = s'.compress op w := by
  rw [compress, compress, hopened, hopen]

/-- An open session that is to end the stream of a plain text: `c` bytes of the text are consumed,
the rest is in the source, and `e` bytes of the stream are emitted. -/
structure Ends (codec : Codec) (engine : EncoderEngine ω σ) (At : σ → ω → Nat → Nat → Prop)
    (plain stream : List UInt8) (s : EncoderSession ω σ) (src : CursorBuffer) (c e : Nat) :
    Prop where
  codec : s.codec = codec
  engine : s.engine = engine
  isDisposed : s.isDisposed = false
  handle : ∃ handle, s.handle = some handle ∧ At handle s.world c e
  src : octets src.unread = plain.drop c
  within : e ≤ stream.length

/-- What a finish does: the next bytes of the stream arrive at the destination, until the stream or
the room is at its end. -/
structure Emitted (codec : Codec) (engine : EncoderEngine ω σ) (At : σ → ω → Nat → Nat → Prop)
    (plain stream : List UInt8) (e : Nat) (capacity : Nat) (status : Status)
    (s' : EncoderSession ω σ) (w' : Windows) (c' e' : Nat) : Prop where
  ends : Ends codec engine At plain stream s' w'.src c' e'
  le : e ≤ e'
  size : w'.dst.size = e' - e
  capacity : w'.dst.storage.size = capacity
  bytes : (octets w'.dst.storage).take (e' - e) = (stream.drop e).take (e' - e)
  tells : (status = .done ∧ e' = stream.length) ∨
    (status = .destinationTooSmall ∧ w'.dst.availableWrite = 0)

/-- That a finish is complete is no part of what it emitted. -/
theorem Emitted.settled {e capacity c' e' : Nat} {status : Status} {s' : EncoderSession ω σ}
    {w' : Windows} (h : Emitted codec engine At plain stream e capacity status s' w' c' e') :
    Emitted codec engine At plain stream e capacity status (s'.settled .finish) w' c' e' :=
  ⟨⟨h.ends.codec, h.ends.engine, h.ends.isDisposed, h.ends.handle, h.ends.src, h.ends.within⟩, h.le,
    h.size, h.capacity, h.bytes, h.tells⟩

namespace Ends

variable {s : EncoderSession ω σ} {src : CursorBuffer} {c e : Nat}

theorem emitted_none (h : Ends codec engine At plain stream s src c e) (dst : ByteArray)
    {status : Status} (htells : (status = .done ∧ e = stream.length) ∨
      (status = .destinationTooSmall ∧ dst.size = 0)) :
    Emitted codec engine At plain stream e dst.size status s ⟨src, .empty dst⟩ c e where
  ends := h
  le := Nat.le_refl e
  size := (Nat.sub_self e).symm
  capacity := rfl
  bytes := by rw [Nat.sub_self, List.take_zero, List.take_zero]
  tells := htells

/-- The session and its buffers after a call that keeps the contract. -/
theorem emitted_call (h : Ends codec engine At plain stream s src c e) {dst : ByteArray}
    {reply : Reply} {handle' : σ} {world' : ω} {c' e' : Nat} (hat : At handle' world' c' e')
    (hcall : engine.CallEmits stream c e src.unread dst reply handle' c' e') {status : Status}
    (htells : (status = .done ∧ e' = stream.length) ∨
      (status = .destinationTooSmall ∧ (Windows.settle ⟨src, .empty dst⟩ reply).dst.availableWrite = 0)) :
    Emitted codec engine At plain stream e dst.size status
      (s.record ⟨src, .empty dst⟩ reply handle' world') (Windows.settle ⟨src, .empty dst⟩ reply)
      c' e' := by
  have hconsumed : c' = c + (src.availableRead - reply.leftIn) := by
    rw [hcall.consumed, CursorBuffer.size_unread]
  have hemitted : dst.size - reply.leftOut = e' - e := by
    rw [hcall.emitted, Nat.add_sub_cancel_left]
  obtain ⟨hsize, hcapacity, hbytes⟩ := (Moved.settle (.encode .finish) ⟨src, .empty dst⟩ reply).of_empty
  rw [Ledger.produced_singleton, EngineCall.produced, CursorBuffer.unwritten_empty, hcall.bytes,
    hemitted] at hsize hbytes
  have hlength : ((stream.drop e).take (e' - e)).length = e' - e := by
    have := hcall.within
    rw [List.length_take, List.length_drop]
    omega
  rw [hlength] at hsize
  rw [hsize] at hbytes
  have hrest : octets (Windows.settle ⟨src, .empty dst⟩ reply).src.unread = plain.drop c' := by
    rw [Windows.settle, CursorBuffer.octets_unread_consume, h.src, List.drop_drop, hconsumed]
  refine ⟨⟨h.codec, h.engine, h.isDisposed, ⟨handle', rfl, hat⟩, hrest, hcall.within⟩, ?_, hsize,
    hcapacity, hbytes, htells⟩
  rw [hcall.emitted]
  exact Nat.le_add_right ..

/-- A drive into an empty destination is one call, if it has any room. -/
theorem drive (he : engine.Emits parameters plain stream At)
    (h : Ends codec engine At plain stream s src c e) {handle : σ} (hat : At handle s.world c e)
    (hunfinished : engine.isFinished handle = false) (dst : ByteArray) :
    ∃ status s' w' c' e', s.drive .finish handle ⟨src, .empty dst⟩ 0 = (status, s', w') ∧
      Emitted codec engine At plain stream e dst.size status s' w' c' e' := by
  rw [EncoderSession.drive]
  by_cases hroom : (Windows.mk src (.empty dst)).dst.availableWrite = 0
  · rw [if_pos hroom]
    exact ⟨_, _, _, c, e, rfl, h.emitted_none dst (.inr ⟨rfl, hroom⟩)⟩
  · obtain ⟨reply, handle', world', c', e', hreply, hat', hcall⟩ :=
      he.call handle s.world c e src.unread dst hat hunfinished h.src (Nat.pos_of_ne_zero hroom)
    rw [← h.engine, ← CursorBuffer.unwritten_empty dst] at hreply
    rw [if_neg hroom, hreply]
    dsimp only
    split
    · next hcode => exact absurd hcode (hcall.succeeds _)
    · split
      · next hdone =>
        have hfinished : engine.isFinished handle' = true := h.engine ▸ hdone
        have hend := (he.finished handle' world' c' e' hat' hfinished).2
        exact ⟨_, _, _, c', e', rfl, (h.emitted_call hat' hcall (.inl ⟨rfl, hend⟩)).settled⟩
      · next hmore =>
        have hfull : (Windows.settle ⟨src, .empty dst⟩ reply).dst.availableWrite = 0 := by
          by_contra hleft
          rw [Windows.availableWrite_settle, Windows.produced] at hleft
          have hroom' : dst.size - min (dst.size - reply.leftOut) dst.size ≠ 0 := hleft
          have hfinished := hcall.roomLeft (by omega)
          rw [← h.engine] at hfinished
          exact hmore hfinished
        rw [if_pos hfull]
        exact ⟨_, _, _, c', e', rfl, h.emitted_call hat' hcall (.inr ⟨rfl, hfull⟩)⟩

theorem compress (he : engine.Emits parameters plain stream At)
    (h : Ends codec engine At plain stream s src c e) (dst : ByteArray) :
    ∃ status s' w' c' e', s.compress .finish ⟨src, .empty dst⟩ = (.ok status, s', w') ∧
      Emitted codec engine At plain stream e dst.size status s' w' c' e' := by
  obtain ⟨handle, hh, hat⟩ := h.handle
  rw [EncoderSession.compress, opened_of_handle h.isDisposed hh]
  dsimp only
  rw [h.engine]
  cases hfinished : engine.isFinished handle with
  | true =>
    obtain ⟨hall, hend⟩ := he.finished handle s.world c e hat hfinished
    have hempty : src.isEmpty = true := by
      rw [← CursorBuffer.octets_unread_eq_nil_iff, h.src, hall, List.drop_length]
    rw [if_pos rfl, hempty]
    exact ⟨_, _, _, c, e, rfl, h.emitted_none dst (.inl ⟨rfl, hend⟩)⟩
  | false =>
    have hbusy : s.isIdle .finish handle src = false := by simp [isIdle]
    obtain ⟨status, s', w', c', e', hdrive, hemitted⟩ := h.drive he hat hfinished dst
    rw [if_neg Bool.false_ne_true, if_neg (by simp [hbusy]), hdrive]
    exact ⟨status, s', w', c', e', rfl, hemitted⟩

end Ends

end EncoderSession

namespace Block

open EncoderSession (Ends)

variable {ε δ : Type} {codec : Codec} {engine : EncoderEngine ω ε} {parameters : List Parameter}
  {plain stream : List UInt8} {At : ε → ω → Nat → Nat → Prop}

/-- A result that is the stream, or says that it does not fit. -/
structure Fits (codec : Codec) (stream : List UInt8) (capacity : Nat) (result : Result ω) :
    Prop where
  fits : stream.length ≤ capacity →
    result.1 = .ok stream.length ∧ (octets result.2.1).take stream.length = stream
  exceeds : capacity < stream.length → result.1 = .error (.destinationTooSmall codec capacity)

/-- The call on the spare byte: a stream that ends where the destination does leaves it unused. -/
theorem compressSpare_fits (he : engine.Emits parameters plain stream At) {s : EncoderSession ω ε}
    {w : Windows} {c e : Nat} (h : Ends codec engine At plain stream s w.src c e)
    (hfull : w.dst.size = e) (hcapacity : w.dst.capacity = e)
    (hbytes : (octets w.dst.storage).take e = stream.take e) :
    Fits codec stream e (compressSpare s w) := by
  obtain ⟨status, s', spill, c', e', hrun, hemitted⟩ := h.compress he ⟨Array.replicate 1 0⟩
  have hrun' : s.compress .finish ⟨w.src, spare⟩ = (.ok status, s', spill) := hrun
  have hcodec : s.codec = codec := h.codec
  have hspilled := hemitted.size
  have hle := hemitted.le
  have hwithin := hemitted.ends.within
  unfold compressSpare
  rw [hrun', hcodec, hcapacity, hfull]
  rcases hemitted.tells with ⟨rfl, hend⟩ | ⟨rfl, hroom⟩
  · dsimp only
    split
    · next hnone =>
      have heq : e = stream.length := by omega
      refine ⟨fun _ => ⟨by rw [heq], ?_⟩, fun hlarge => absurd hlarge (by omega)⟩
      rw [← heq, hbytes, heq, List.take_length]
    · next hmore => exact ⟨fun hfits => absurd hfits (by omega), fun _ => rfl⟩
  · have hone : spill.dst.storage.size = 1 := hemitted.capacity
    have hspent : spill.dst.storage.size - spill.dst.size = 0 := hroom
    exact ⟨fun hfits => absurd hfits (by omega), fun _ => rfl⟩

theorem compress_fits (registry : Registry ω ε δ) (lz4 : BlockFormat) (world : ω) (src dst : ByteArray)
    {options : CodecOptions} {factory : Factory ω ε δ} {handle handle' : ε} {world₁ world' : ω}
    (hcodec : options.codec ≠ .lz4) (hvalid : options.validate = .ok ())
    (hfactory : registry.factory options.codec = .ok factory)
    (he : factory.encoder.Emits options.encoderParameters (octets src) stream At)
    (hcreate : factory.encoder.create world = (.ok handle, world₁))
    (hconfigure : factory.encoder.configure options.encoderParameters handle world₁ =
      (.ok handle', world')) :
    Fits options.codec stream dst.size (compress registry lz4 world options src dst) := by
  let s : EncoderSession ω ε :=
    { options, version := factory.version, engine := factory.encoder, world }
  let s₁ : EncoderSession ω ε := { s with world := world', handle := some handle' }
  have hnew : EncoderSession.new registry world options = .ok s :=
    EncoderSession.new_of_factory world hcodec hvalid hfactory
  have hopened : s.opened = (.ok handle', s₁) := by
    simp only [EncoderSession.opened, s, hcreate, hconfigure]
    rfl
  have hopen : s₁.opened = (.ok handle', s₁) := rfl
  have hends : Ends options.codec factory.encoder At (octets src) stream s₁ (.filled src) 0 0 :=
    ⟨rfl, rfl, rfl, ⟨handle', rfl, he.opens _ _ _ _ _ hcreate hconfigure⟩,
      CursorBuffer.octets_unread_filled src, Nat.zero_le _⟩
  obtain ⟨status, s₂, w, c, e, hrun, hemitted⟩ := hends.compress he dst
  have hsize := hemitted.size
  have hstorage := hemitted.capacity
  have hbytes := hemitted.bytes
  have hfit := w.dst.size_le_capacity
  have hwithin := hemitted.ends.within
  rw [Nat.sub_zero] at hsize hbytes
  rw [List.drop_zero] at hbytes
  rw [compress, if_neg hcodec, hnew]
  dsimp only
  rw [EncoderSession.compress_eq_of_opened hopened hopen, hrun]
  rcases hemitted.tells with ⟨rfl, hend⟩ | ⟨rfl, hroom⟩
  · dsimp only
    refine ⟨fun _ => ⟨by rw [hsize, hend], ?_⟩, fun hlarge => absurd hlarge (by omega)⟩
    rw [← hend, hbytes, hend, List.take_length]
  · have hspent : w.dst.storage.size - w.dst.size = 0 := hroom
    have heq : dst.size = e := by omega
    have hcapacity : w.dst.capacity = e := hstorage.trans heq
    rw [heq]
    exact compressSpare_fits he hemitted.ends hsize hcapacity hbytes

/-- Compressing a block answers the length of its stream exactly if the stream fits, with the stream
at the front of the destination; else the destination is too small. A byte that only fits the spare
one never counts. -/
theorem compress_exact (registry : Registry ω ε δ) (lz4 : BlockFormat) (world : ω)
    (src dst : ByteArray) {options : CodecOptions} {factory : Factory ω ε δ} {handle handle' : ε}
    {world₁ world' : ω} (hcodec : options.codec ≠ .lz4) (hvalid : options.validate = .ok ())
    (hfactory : registry.factory options.codec = .ok factory)
    (he : factory.encoder.Emits options.encoderParameters (octets src) stream At)
    (hcreate : factory.encoder.create world = (.ok handle, world₁))
    (hconfigure : factory.encoder.configure options.encoderParameters handle world₁ =
      (.ok handle', world')) :
    ((compress registry lz4 world options src dst).1 = .ok stream.length ∧
        (octets (compress registry lz4 world options src dst).2.1).take stream.length = stream ↔
      stream.length ≤ dst.size) ∧
    (dst.size < stream.length → (compress registry lz4 world options src dst).1 =
      .error (.destinationTooSmall options.codec dst.size)) ∧
    ∀ n, (compress registry lz4 world options src dst).1 = .ok n → n = stream.length := by
  have hfits := compress_fits registry lz4 world src dst hcodec hvalid hfactory he hcreate hconfigure
  refine ⟨⟨fun ⟨hok, _⟩ => ?_, hfits.fits⟩, hfits.exceeds, fun n hok => ?_⟩
  · by_contra hlarge
    rw [hfits.exceeds (Nat.lt_of_not_le hlarge)] at hok
    cases hok
  · rcases Nat.lt_or_ge dst.size stream.length with hlarge | hsmall
    · rw [hfits.exceeds hlarge] at hok
      cases hok
    · rw [(hfits.fits hsmall).1] at hok
      exact (Except.ok.inj hok).symm

end Block

namespace Marked.Encoder

/-- Nothing was taken in, or all of a plain text and its end. -/
def Finishing (x : List UInt8) (s : Encoder) (_ : Unit) (c e : Nat) : Prop :=
  (s = {} ∧ c = 0 ∧ e = 0) ∨
    (s.ended = true ∧ c = x.length ∧ e ≤ (stream x).length ∧ s.pending = (stream x).drop e)

/-- To finish is to take in all that is missing. -/
theorem Finishing.take {x : List UInt8} {s : Encoder} {c e : Nat} (h : Finishing x s () c e) :
    s.take .finish (x.drop c) = ⟨(stream x).drop e, true⟩ ∧ c ≤ x.length ∧ e ≤ (stream x).length := by
  rcases h with ⟨rfl, rfl, rfl⟩ | ⟨hended, rfl, hle, hpending⟩
  · exact ⟨rfl, Nat.zero_le _, Nat.zero_le _⟩
  · refine ⟨?_, Nat.le_refl _, hle⟩
    rw [Encoder.take, hended, hpending, List.drop_length, mark]
    simp

theorem emits (parameters : List Parameter) (x : List UInt8) :
    engine.Emits parameters x (stream x) (Finishing x) where
  opens := by
    intro world s world₁ s' world' hcreate hconf
    rw [configure] at hconf
    obtain ⟨hs, -⟩ := Prod.mk.inj hcreate
    obtain ⟨hs', -⟩ := Prod.mk.inj hconf
    obtain rfl := (Except.ok.inj hs).trans (Except.ok.inj hs')
    exact .inl ⟨rfl, rfl, rfl⟩
  finished := by
    intro s world c e hat hfinished
    obtain ⟨hended, hnone⟩ := Bool.and_eq_true_iff.mp hfinished
    rcases hat with ⟨rfl, -, -⟩ | ⟨-, hall, hle, hpending⟩
    · cases hended
    · rw [List.isEmpty_iff.mp hnone] at hpending
      have := List.drop_eq_nil_iff.mp hpending.symm
      exact ⟨hall, by omega⟩
  call := by
    intro s world c e input room hat _ hinput _
    obtain ⟨htake, hc, he⟩ := hat.take
    have hsize : input.size = x.length - c := by
      rw [← length_octets, hinput, List.length_drop]
    have hcall : engine.compress .finish input room s world =
        (reply 0 ((stream x).drop e) room .ok, ⟨((stream x).drop e).drop room.size, true⟩, world) := by
      simp only [engine, hinput, htake]
    refine ⟨_, _, _, x.length, e + (((stream x).drop e).take room.size).length, hcall, ?_, ?_⟩
    · refine .inr ⟨rfl, rfl, ?_, ?_⟩
      · rw [List.length_take, List.length_drop]
        omega
      · dsimp only
        rw [List.drop_drop, List.length_take, List.length_drop]
        rcases Nat.le_total room.size ((stream x).length - e) with hle | hge
        · rw [Nat.min_eq_left hle]
        · rw [Nat.min_eq_right hge, List.drop_of_length_le (by omega), List.drop_of_length_le (by omega)]
    · constructor
      case consumed =>
        rw [reply]
        dsimp only
        omega
      case emitted => rw [emitted_reply]
      case within =>
        rw [List.length_take, List.length_drop]
        omega
      case bytes =>
        rw [bytes_reply, emitted_reply]
        exact List.prefix_iff_eq_take.mp (List.take_prefix ..)
      case succeeds =>
        intro detail h
        cases h
      case roomLeft =>
        rw [emitted_reply]
        intro hleft
        have hnone := drop_pending (s := ⟨(stream x).drop e, true⟩) hleft
        dsimp only [engine]
        rw [hnone]
        rfl

end Marked.Encoder

/-- A stream of five bytes fits into five and not into four. -/
theorem Block.compress_exact_marked :
    let run (dst : ByteArray) :=
      compress Marked.registry Format.Lz4.format () Marked.options ⟨#[97, 98]⟩ dst
    ((run ⟨#[7, 7, 7, 7, 7]⟩).1 = .ok 5 ∧
        (octets (run ⟨#[7, 7, 7, 7, 7]⟩).2.1).take 5 = [1, 97, 1, 98, 0]) ∧
      (run ⟨#[7, 7, 7, 7]⟩).1 = .error (.destinationTooSmall .brotli 4) := by
  intro run
  have hcodec : Marked.options.codec ≠ .lz4 := by decide
  have hexact (dst : ByteArray) := compress_exact Marked.registry Format.Lz4.format () ⟨#[97, 98]⟩ dst
    hcodec rfl rfl (Marked.Encoder.emits _ [97, 98]) rfl (Marked.Encoder.configure _ _ _)
  exact ⟨(hexact ⟨#[7, 7, 7, 7, 7]⟩).1.mpr (by decide), (hexact ⟨#[7, 7, 7, 7]⟩).2.1 (by decide)⟩

end StreamCodec
