import StreamCodec.Loop
import StreamCodec.Proofs.DecoderDrive
import StreamCodec.Proofs.DeflateCalls
import StreamCodec.Proofs.DriveFrame
import StreamCodec.Proofs.GuardedEngines
import StreamCodec.Session.Decoder

/-!
# Sessions with guards

The two drives over guarded buffers and guarded engines. A round fails when a
cursor difference is negative, when a slice sticks out, when a call of the adapter
fails in this way, when more was consumed or produced than was offered, or when a
cursor has left its window afterwards. Whatever the libraries report, no round
fails, and a session does over guarded buffers what it does anyway.
-/
namespace StreamCodec

open Guarded (EncodeCall DecodeCall)

variable {ω σ α β : Type}

namespace Guarded

/-- Goes on only if the condition holds. -/
def check (p : Prop) [Decidable p] : Option Unit := if p then some () else none

theorem check_of {p : Prop} [Decidable p] (h : p) : check p = some () := if_pos h

/-- Repeats a guarded round until it has a result. A guard that strikes ends the loop, with no
result. -/
def repeated (round : α → Option (α ⊕ β)) : α → Option (Option β) :=
  loop fun x =>
    match round x with
    | none => .inr none
    | some (.inl x) => .inl x
    | some (.inr y) => .inr (some y)

theorem repeated_last {round : α → Option (α ⊕ β)} {x : α} {y : β}
    (h : round x = some (.inr y)) : repeated round x = some (some y) := by
  rw [repeated, loop_eq, h]

theorem repeated_again {round : α → Option (α ⊕ β)} {x x' : α}
    (h : round x = some (.inl x')) : repeated round x = repeated round x' := by
  rw [repeated, loop_eq, h]

end Guarded

/-- The libraries under all engines, with the totals of those that keep them. -/
structure Libraries (ω : Type) where
  brotli : Brotli.Backend ω
  zstd : Zstd.Backend ω
  deflate : Deflate.Library ω
  lzma : Lzma.Library ω

namespace Libraries

variable (libraries : Libraries ω)

def backend : Backend ω where
  brotli := libraries.brotli
  zstd := libraries.zstd
  deflate := libraries.deflate.backend
  lzma := libraries.lzma.backend

/-- Totals never fall, and the positions of zstd stay within their windows. -/
structure Sound : Prop where
  zstd : libraries.zstd.Within
  deflate : libraries.deflate.Counts
  lzma : libraries.lzma.Counts

/-- The guarded call of a streaming codec's encoder. -/
def encode (largest : Nat) : Codec → Option (EncodeCall ω EncoderHandle)
  | .brotli => some ((Brotli.guardedEncode libraries.brotli).within .brotli fun
      | .brotli h => some h
      | _ => none)
  | .zstd => some ((Zstd.guardedEncode libraries.zstd).within .zstd fun
      | .zstd h => some h
      | _ => none)
  | .deflate | .zlib => some ((libraries.deflate.guardedEncode largest).within .deflate fun
      | .deflate h => some h
      | _ => none)
  | .xz | .lzma => some ((libraries.lzma.guardedEncode largest).within .lzma fun
      | .lzma h => some h
      | _ => none)
  | .lz4 => none

/-- The guarded call of a streaming codec's decoder. -/
def decode (largest : Nat) : Codec → Option (DecodeCall ω DecoderHandle)
  | .brotli => some ((Brotli.guardedDecode libraries.brotli largest).within .brotli fun
      | .brotli h => some h
      | _ => none)
  | .zstd => some ((Zstd.guardedDecode libraries.zstd).within .zstd fun
      | .zstd h => some h
      | _ => none)
  | .deflate | .zlib => some ((libraries.deflate.guardedDecode largest).within .deflate fun
      | .deflate h => some h
      | _ => none)
  | .xz | .lzma => some ((libraries.lzma.guardedDecode largest).within .lzma fun
      | .lzma h => some h
      | _ => none)
  | .lz4 => none

variable {libraries}

theorem follows_encode (h : libraries.Sound) (largest : Nat) {codec : Codec}
    {engine : EncoderEngine ω EncoderHandle} (he : libraries.backend.encoder codec = some engine) :
    ∃ call, libraries.encode largest codec = some call ∧ call.Follows engine largest := by
  cases codec with
  | brotli =>
    obtain rfl := Option.some.inj he
    exact ⟨_, rfl, (Brotli.follows_encode _ largest).within _ _⟩
  | zstd =>
    obtain rfl := Option.some.inj he
    exact ⟨_, rfl, (Zstd.follows_encode h.zstd largest).within _ _⟩
  | deflate =>
    obtain rfl := Option.some.inj he
    exact ⟨_, rfl, (Deflate.Library.follows_encode h.deflate largest false).within _ _⟩
  | zlib =>
    obtain rfl := Option.some.inj he
    exact ⟨_, rfl, (Deflate.Library.follows_encode h.deflate largest true).within _ _⟩
  | xz =>
    obtain rfl := Option.some.inj he
    exact ⟨_, rfl, (Lzma.Library.follows_encode h.lzma largest .xz).within _ _⟩
  | lzma =>
    obtain rfl := Option.some.inj he
    exact ⟨_, rfl, (Lzma.Library.follows_encode h.lzma largest .alone).within _ _⟩
  | lz4 => cases he

theorem follows_decode (h : libraries.Sound) (largest : Nat) {codec : Codec}
    {engine : DecoderEngine ω DecoderHandle} (he : libraries.backend.decoder codec = some engine) :
    ∃ call, libraries.decode largest codec = some call ∧ call.Follows engine largest := by
  cases codec with
  | brotli =>
    obtain rfl := Option.some.inj he
    exact ⟨_, rfl, (Brotli.follows_decode _ largest).within _ _⟩
  | zstd =>
    obtain rfl := Option.some.inj he
    exact ⟨_, rfl, (Zstd.follows_decode h.zstd largest).within _ _⟩
  | deflate =>
    obtain rfl := Option.some.inj he
    exact ⟨_, rfl, (Deflate.Library.follows_decode h.deflate largest false).within _ _⟩
  | zlib =>
    obtain rfl := Option.some.inj he
    exact ⟨_, rfl, (Deflate.Library.follows_decode h.deflate largest true).within _ _⟩
  | xz =>
    obtain rfl := Option.some.inj he
    exact ⟨_, rfl, (Lzma.Library.follows_decode h.lzma largest .xz).within _ _⟩
  | lzma =>
    obtain rfl := Option.some.inj he
    exact ⟨_, rfl, (Lzma.Library.follows_decode h.lzma largest .alone).within _ _⟩
  | lz4 => cases he

end Libraries

namespace Guarded

/-- What one call on two buffers comes to. -/
structure Offer (ω σ : Type) where
  code : CallCode
  handle : σ
  world : ω
  windows : Guarded.Windows
  consumed : Nat
  produced : Nat

/-- Offers what is unread and what is free, and moves the cursors by what the call leaves. -/
def Windows.offer (w : Guarded.Windows) (call : DecodeCall ω σ) (handle : σ) (world : ω) :
    Option (Offer ω σ) := do
  let offeredIn ← w.src.availableRead
  let offeredOut ← w.dst.availableWrite
  let (reply, handle, world) ←
    call offeredIn (← w.src.unread) offeredOut (← w.dst.unwritten) handle world
  let (consumed, src) ← w.src.consume (offeredIn - reply.leftIn)
  let (produced, dst) ← (w.dst.poke reply.room).commit (offeredOut - reply.leftOut)
  check (consumed ≤ offeredIn ∧ produced ≤ offeredOut)
  let windows : Guarded.Windows := { src, dst }
  check windows.Fits
  return { code := reply.code, handle, world, windows, consumed, produced }

/-- A drive between two rounds. -/
structure Turn (S σ : Type) where
  session : S
  handle : σ
  windows : Guarded.Windows
  stalled : Nat

end Guarded

open Guarded (Offer Turn)

/-- Both buffers are of a size that the machine has. -/
structure Windows.AtMost (w : Windows) (largest : Nat) : Prop where
  src : w.src.capacity ≤ largest
  dst : w.dst.capacity ≤ largest

namespace Windows.AtMost

variable {w : Windows} {largest : Nat}

theorem unread (h : w.AtMost largest) : w.src.unread.size ≤ largest := by
  rw [w.src.size_unread]
  exact Nat.le_trans (Nat.sub_le ..) (Nat.le_trans w.src.size_le_capacity h.src)

theorem unwritten (h : w.AtMost largest) : w.dst.unwritten.size ≤ largest := by
  rw [w.dst.size_unwritten]
  exact Nat.le_trans (Nat.sub_le ..) h.dst

theorem settle (h : w.AtMost largest) (reply : Reply) : (w.settle reply).AtMost largest where
  src := by
    show (w.src.consume _).capacity ≤ largest
    rw [CursorBuffer.capacity_consume]
    exact h.src
  dst := by
    show (w.dst.poke reply.room).capacity ≤ largest
    rw [CursorBuffer.capacity_poke]
    exact h.dst

end Windows.AtMost

/-- An offer of two buffers that are in order moves their cursors as a reply settles them. -/
theorem Windows.offer_bare (w : Windows) {call : DecodeCall ω σ} {handle handle' : σ}
    {world world' : ω} {reply : Reply}
    (hcall : call w.src.unread.size w.src.unread w.dst.unwritten.size w.dst.unwritten handle world =
      some (reply, handle', world')) :
    w.bare.offer call handle world =
      some { code := reply.code, handle := handle', world := world', windows := (w.settle reply).bare,
             consumed := w.consumed reply, produced := w.produced reply } := by
  rw [CursorBuffer.size_unread, CursorBuffer.size_unwritten] at hcall
  simp only [Guarded.Windows.offer, src_bare, dst_bare, CursorBuffer.availableRead_bare,
    CursorBuffer.availableWrite_bare, CursorBuffer.unread_bare, CursorBuffer.unwritten_bare,
    CursorBuffer.poke_bare, CursorBuffer.consume_bare, CursorBuffer.commit_bare,
    CursorBuffer.availableWrite_poke, Option.bind_eq_bind, Option.bind_some, hcall]
  rw [Guarded.check_of ⟨w.consumed_le reply, w.produced_le reply⟩, Option.bind_some]
  exact congrArg (Option.bind · _) (Guarded.check_of (w.settle reply).fits_bare)

namespace EncoderSession

/-- Whether nothing is left to do for the operation. -/
def guardedComplete (op : FlushOp) (s : EncoderSession ω σ) (handle : σ) (src : Guarded.Buffer) :
    Bool :=
  match op with
  | .finish => s.engine.isFinished handle
  | .process | .flush => src.isEmpty && !s.engine.hasMoreOutput handle

def charge (s : EncoderSession ω σ) (o : Offer ω σ) : EncoderSession ω σ :=
  { s with
    world := o.world
    handle := some o.handle
    isDirty := s.isDirty || 0 < o.consumed
    totalIn := s.totalIn + o.consumed
    totalOut := s.totalOut + o.produced }

/-- What a drive does after a call that did not fail. -/
def guardedNext (op : FlushOp) (s : EncoderSession ω σ) (handle : σ) (w : Guarded.Windows)
    (consumed produced stalled : Nat) :
    Option (Turn (EncoderSession ω σ) σ ⊕ (Status × EncoderSession ω σ × Guarded.Windows)) := do
  if s.guardedComplete op handle w.src then return .inr (.done, s.settled op, w)
  if (← w.dst.availableWrite) = 0 then return .inr (.destinationTooSmall, s, w)
  if consumed = 0 ∧ produced = 0 then
    let pending := s.engine.hasMoreOutput handle
    if !pending && op = .process then return .inr (.done, s, w)
    if !pending || maxStalledCalls ≤ stalled + 1 then
      return .inr (.invalidData, s.fail s.noProgress, w)
    return .inl ⟨s, handle, w, stalled + 1⟩
  return .inl ⟨s, handle, w, 0⟩

def guardedRound (call : EncodeCall ω σ) (op : FlushOp) (t : Turn (EncoderSession ω σ) σ) :
    Option (Turn (EncoderSession ω σ) σ ⊕ (Status × EncoderSession ω σ × Guarded.Windows)) := do
  if (← t.windows.dst.availableWrite) = 0 then
    return .inr (.destinationTooSmall, t.session, t.windows)
  let o ← t.windows.offer (call op) t.handle t.session.world
  let s := t.session.charge o
  match o.code with
  | .error detail => return .inr (.invalidData, s.fail detail, o.windows)
  | _ => guardedNext op s o.handle o.windows o.consumed o.produced t.stalled

def guardedIdle (op : FlushOp) (s : EncoderSession ω σ) (handle : σ) (src : Guarded.Buffer) :
    Bool :=
  src.isEmpty && op ≠ .finish && !s.engine.hasMoreOutput handle && (op = .process || !s.isDirty)

def guardedCompress (call : EncodeCall ω σ) (op : FlushOp) (s : EncoderSession ω σ)
    (w : Guarded.Windows) :
    Option (Option (Except CodecError Status × EncoderSession ω σ × Guarded.Windows)) :=
  match s.opened with
  | (.error e, s) => some (some (.error e, s, w))
  | (.ok handle, s) =>
    if s.engine.isFinished handle then
      if w.src.isEmpty && op = .finish then some (some (.ok .done, s, w))
      else some (some (.error .completed, s, w))
    else if s.guardedIdle op handle w.src then some (some (.ok .done, s, w))
    else
      (Guarded.repeated (guardedRound call op) ⟨s, handle, w, 0⟩).map fun ended =>
        ended.map fun (status, s, w) => (.ok status, s, w)

variable {call : EncodeCall ω σ} {largest : Nat}

theorem guardedRound_full (op : FlushOp) (s : EncoderSession ω σ) (handle : σ) {w : Windows}
    (stalled : Nat) (hfull : w.dst.availableWrite = 0) :
    guardedRound call op ⟨s, handle, w.bare, stalled⟩ =
      some (.inr (.destinationTooSmall, s, w.bare)) := by
  simp only [guardedRound, Windows.dst_bare, CursorBuffer.availableWrite_bare, Option.bind_eq_bind,
    Option.bind_some, if_pos hfull]
  rfl

/-- A round that has room records what its call comes to, and goes on from there. -/
theorem guardedRound_call (op : FlushOp) {s : EncoderSession ω σ} (hf : call.Follows s.engine largest)
    {handle handle' : σ} {w : Windows} (stalled : Nat) (hroom : ¬w.dst.availableWrite = 0)
    (hw : w.AtMost largest) {reply : Reply} {world' : ω}
    (hcall : s.engine.compress op w.src.unread w.dst.unwritten handle s.world =
      (reply, handle', world')) :
    guardedRound call op ⟨s, handle, w.bare, stalled⟩ =
      match reply.code with
      | .error detail =>
        some (.inr (.invalidData, (s.record w reply handle' world').fail detail,
          (w.settle reply).bare))
      | _ =>
        guardedNext op (s.record w reply handle' world') handle' (w.settle reply).bare
          (w.consumed reply) (w.produced reply) stalled := by
  have hoffer := hf op w.src.unread w.dst.unwritten handle s.world hw.unread hw.unwritten
  rw [hcall] at hoffer
  simp only [guardedRound, Windows.dst_bare, CursorBuffer.availableWrite_bare, Option.bind_eq_bind,
    Option.bind_some, if_neg hroom, w.offer_bare hoffer]
  rfl

/-- A round whose call did not fail decides as the drive does. -/
theorem guardedRound_next (op : FlushOp) {s : EncoderSession ω σ} (hf : call.Follows s.engine largest)
    {handle handle' : σ} {w : Windows} (stalled : Nat) (hroom : ¬w.dst.availableWrite = 0)
    (hw : w.AtMost largest) {reply : Reply} {world' : ω}
    (hcall : s.engine.compress op w.src.unread w.dst.unwritten handle s.world =
      (reply, handle', world'))
    (hcode : ∀ detail, reply.code = .error detail → False) :
    guardedRound call op ⟨s, handle, w.bare, stalled⟩ = some (
      if s.isComplete op handle' (w.settle reply) then
        .inr (.done, (s.record w reply handle' world').settled op, (w.settle reply).bare)
      else if (w.settle reply).dst.availableWrite = 0 then
        .inr (.destinationTooSmall, s.record w reply handle' world', (w.settle reply).bare)
      else if w.consumed reply = 0 ∧ w.produced reply = 0 then
        if !s.engine.hasMoreOutput handle' && op = .process then
          .inr (.done, s.record w reply handle' world', (w.settle reply).bare)
        else if !s.engine.hasMoreOutput handle' || maxStalledCalls ≤ stalled + 1 then
          .inr (.invalidData, (s.record w reply handle' world').fail
            (s.record w reply handle' world').noProgress, (w.settle reply).bare)
        else .inl ⟨s.record w reply handle' world', handle', (w.settle reply).bare, stalled + 1⟩
      else .inl ⟨s.record w reply handle' world', handle', (w.settle reply).bare, 0⟩) := by
  rw [guardedRound_call op hf stalled hroom hw hcall]
  split
  · next detail herror => exact (hcode detail herror).elim
  · simp only [guardedNext, Windows.dst_bare, CursorBuffer.availableWrite_bare,
      Option.bind_eq_bind, Option.bind_some, apply_ite some]
    rfl

/-- A drive over guarded buffers: no guard strikes, and it is the drive. The induction is on the
recursion of the drive; the sizes of the buffers never change. -/
theorem guardedDrive_eq (op : FlushOp) (s : EncoderSession ω σ) (hf : call.Follows s.engine largest)
    (handle : σ) (w : Windows) (hw : w.AtMost largest)
    (stalled : Nat) :
    Guarded.repeated (guardedRound call op) ⟨s, handle, w.bare, stalled⟩ =
      some (some ((drive op s handle w stalled).1, (drive op s handle w stalled).2.1,
        (drive op s handle w stalled).2.2.bare)) := by
  fun_induction drive op s handle w stalled with
  | case1 s handle w stalled hfull =>
    exact Guarded.repeated_last (guardedRound_full op s handle stalled hfull)
  | case2 s handle w stalled hroom reply handle' world hcall s' w' detail hcode =>
    apply Guarded.repeated_last
    rw [guardedRound_call op hf stalled hroom hw hcall, hcode]
  | case3 s handle w stalled hroom reply handle' world hcall s' w' hdone hcode =>
    apply Guarded.repeated_last
    rw [guardedRound_next op hf stalled hroom hw hcall hcode, if_pos hdone]
  | case4 s handle w stalled hroom reply handle' world hcall s' w' hdone hfull hcode =>
    apply Guarded.repeated_last
    rw [guardedRound_next op hf stalled hroom hw hcall hcode, if_neg hdone, if_pos hfull]
  | case5 s handle w stalled hroom reply handle' world hcall s' w' hdone hfull hstall pending hp
      hcode =>
    apply Guarded.repeated_last
    rw [guardedRound_next op hf stalled hroom hw hcall hcode, if_neg hdone, if_neg hfull,
      if_pos hstall, if_pos hp]
  | case6 s handle w stalled hroom reply handle' world hcall s' w' hdone hfull hstall pending hp
      hs hcode =>
    apply Guarded.repeated_last
    rw [guardedRound_next op hf stalled hroom hw hcall hcode, if_neg hdone, if_neg hfull,
      if_pos hstall, if_neg hp, if_pos hs]
  | case7 s handle w stalled hroom reply handle' world hcall s' w' hdone hfull hstall pending hp hs
      hcode ih =>
    have hround : guardedRound call op ⟨s, handle, w.bare, stalled⟩ =
        some (.inl ⟨s', handle', w'.bare, stalled + 1⟩) := by
      rw [guardedRound_next op hf stalled hroom hw hcall hcode, if_neg hdone, if_neg hfull,
        if_pos hstall, if_neg hp, if_neg hs]
    rw [Guarded.repeated_again hround]
    exact ih hf (hw.settle reply)
  | case8 s handle w stalled hroom reply handle' world hcall s' w' hdone hfull hmoved hcode ih =>
    have hround : guardedRound call op ⟨s, handle, w.bare, stalled⟩ =
        some (.inl ⟨s', handle', w'.bare, 0⟩) := by
      rw [guardedRound_next op hf stalled hroom hw hcall hcode, if_neg hdone, if_neg hfull,
        if_neg hmoved]
    rw [Guarded.repeated_again hround]
    exact ih hf (hw.settle reply)

theorem guardedCompress_eq (op : FlushOp) {s : EncoderSession ω σ}
    (hf : call.Follows s.engine largest) {w : Windows} (hw : w.AtMost largest) :
    s.guardedCompress call op w.bare =
      some (some ((s.compress op w).1, (s.compress op w).2.1, (s.compress op w).2.2.bare)) := by
  unfold guardedCompress compress
  rcases hopened : s.opened with ⟨_ | handle, s₁⟩
  · rfl
  · have hf₁ : call.Follows s₁.engine largest := by
      rw [(frame_of_opened hopened).1.engine]
      exact hf
    dsimp only
    split
    · by_cases hdone : (w.src.isEmpty && decide (op = .finish)) = true
      · rw [Windows.src_bare, CursorBuffer.isEmpty_bare, if_pos hdone, if_pos hdone]
      · rw [Windows.src_bare, CursorBuffer.isEmpty_bare, if_neg hdone, if_neg hdone]
    · by_cases hidle : s₁.isIdle op handle w.src = true
      · have hidle' : guardedIdle op s₁ handle w.bare.src = true := hidle
        rw [if_pos hidle, if_pos hidle']
      · have hidle' : ¬guardedIdle op s₁ handle w.bare.src = true := hidle
        rw [if_neg hidle, if_neg hidle', guardedDrive_eq op s₁ hf₁ handle w hw 0]
        rfl

end EncoderSession

namespace DecoderSession

def charge (s : DecoderSession ω σ) (o : Offer ω σ) : DecoderSession ω σ :=
  { s with
    world := o.world
    handle := some o.handle
    hasSeenInput := s.hasSeenInput || 0 < o.consumed
    totalIn := s.totalIn + o.consumed
    totalOut := s.totalOut + o.produced }

/-- What a drive does after a call that neither failed nor ended the stream. -/
def guardedNext (s : DecoderSession ω σ) (handle : σ) (w : Guarded.Windows)
    (consumed produced stalled : Nat) :
    Option (Turn (DecoderSession ω σ) σ ⊕ (Status × DecoderSession ω σ × Guarded.Windows)) := do
  let pending := s.engine.hasMoreOutput handle
  if (← w.dst.availableWrite) = 0 then return .inr (.destinationTooSmall, s, w)
  if w.src.isEmpty && !pending then return .inr (.needMoreData, s, w)
  if consumed = 0 ∧ produced = 0 then
    if !pending then return .inr (.needMoreData, s, w)
    if maxStalledCalls ≤ stalled + 1 then return .inr (.invalidData, s.fail s.noProgress, w)
    return .inl ⟨s, handle, w, stalled + 1⟩
  return .inl ⟨s, handle, w, 0⟩

def guardedRound (call : DecodeCall ω σ) (t : Turn (DecoderSession ω σ) σ) :
    Option (Turn (DecoderSession ω σ) σ ⊕ (Status × DecoderSession ω σ × Guarded.Windows)) := do
  if (← t.windows.dst.availableWrite) = 0 then
    return .inr (.destinationTooSmall, t.session, t.windows)
  let o ← t.windows.offer call t.handle t.session.world
  let s := t.session.charge o
  match o.code with
  | .error detail => return .inr (.invalidData, s.fail detail, o.windows)
  | .streamEnd => return .inr (.done, s, o.windows)
  | _ => guardedNext s o.handle o.windows o.consumed o.produced t.stalled

def guardedDecompress (call : DecodeCall ω σ) (s : DecoderSession ω σ) (w : Guarded.Windows) :
    Option (Option (Except CodecError Status × DecoderSession ω σ × Guarded.Windows)) :=
  match s.opened with
  | (.error e, s) => some (some (.error e, s, w))
  | (.ok handle, s) =>
    if s.engine.isFinished handle then some (some (.ok .done, s, w))
    else if w.src.isEmpty && !s.hasSeenInput then some (some (.ok .needMoreData, s, w))
    else
      (Guarded.repeated (guardedRound call) ⟨s, handle, w, 0⟩).map fun ended =>
        ended.map fun (status, s, w) => (.ok status, s, w)

variable {call : DecodeCall ω σ} {largest : Nat}

theorem guardedRound_full (s : DecoderSession ω σ) (handle : σ) {w : Windows} (stalled : Nat)
    (hfull : w.dst.availableWrite = 0) :
    guardedRound call ⟨s, handle, w.bare, stalled⟩ =
      some (.inr (.destinationTooSmall, s, w.bare)) := by
  simp only [guardedRound, Windows.dst_bare, CursorBuffer.availableWrite_bare, Option.bind_eq_bind,
    Option.bind_some, if_pos hfull]
  rfl

theorem guardedRound_call {s : DecoderSession ω σ} (hf : call.Follows s.engine largest)
    {handle handle' : σ} {w : Windows} (stalled : Nat) (hroom : ¬w.dst.availableWrite = 0)
    (hw : w.AtMost largest) {reply : Reply} {world' : ω}
    (hcall : s.engine.decompress w.src.unread w.dst.unwritten handle s.world =
      (reply, handle', world')) :
    guardedRound call ⟨s, handle, w.bare, stalled⟩ =
      match reply.code with
      | .error detail =>
        some (.inr (.invalidData, (s.record w reply handle' world').fail detail,
          (w.settle reply).bare))
      | .streamEnd => some (.inr (.done, s.record w reply handle' world', (w.settle reply).bare))
      | _ =>
        guardedNext (s.record w reply handle' world') handle' (w.settle reply).bare
          (w.consumed reply) (w.produced reply) stalled := by
  have hoffer := hf w.src.unread w.dst.unwritten handle s.world hw.unread hw.unwritten
  rw [hcall] at hoffer
  simp only [guardedRound, Windows.dst_bare, CursorBuffer.availableWrite_bare, Option.bind_eq_bind,
    Option.bind_some, if_neg hroom, w.offer_bare hoffer]
  rfl

theorem guardedRound_next {s : DecoderSession ω σ} (hf : call.Follows s.engine largest)
    {handle handle' : σ} {w : Windows} (stalled : Nat) (hroom : ¬w.dst.availableWrite = 0)
    (hw : w.AtMost largest) {reply : Reply} {world' : ω}
    (hcall : s.engine.decompress w.src.unread w.dst.unwritten handle s.world =
      (reply, handle', world'))
    (hcode : ∀ detail, reply.code = .error detail → False) (hend : reply.code = .streamEnd → False) :
    guardedRound call ⟨s, handle, w.bare, stalled⟩ = some (
      if (w.settle reply).dst.availableWrite = 0 then
        .inr (.destinationTooSmall, s.record w reply handle' world', (w.settle reply).bare)
      else if (w.settle reply).src.isEmpty && !s.engine.hasMoreOutput handle' then
        .inr (.needMoreData, s.record w reply handle' world', (w.settle reply).bare)
      else if w.consumed reply = 0 ∧ w.produced reply = 0 then
        if !s.engine.hasMoreOutput handle' then
          .inr (.needMoreData, s.record w reply handle' world', (w.settle reply).bare)
        else if maxStalledCalls ≤ stalled + 1 then
          .inr (.invalidData, (s.record w reply handle' world').fail
            (s.record w reply handle' world').noProgress, (w.settle reply).bare)
        else .inl ⟨s.record w reply handle' world', handle', (w.settle reply).bare, stalled + 1⟩
      else .inl ⟨s.record w reply handle' world', handle', (w.settle reply).bare, 0⟩) := by
  rw [guardedRound_call hf stalled hroom hw hcall]
  split
  · next detail herror => exact (hcode detail herror).elim
  · next hended => exact (hend hended).elim
  · simp only [guardedNext, Windows.dst_bare, CursorBuffer.availableWrite_bare,
      Option.bind_eq_bind, Option.bind_some, apply_ite some]
    rfl

theorem guardedDrive_eq (s : DecoderSession ω σ) (hf : call.Follows s.engine largest) (handle : σ)
    (w : Windows) (hw : w.AtMost largest) (stalled : Nat) :
    Guarded.repeated (guardedRound call) ⟨s, handle, w.bare, stalled⟩ =
      some (some ((drive s handle w stalled).1, (drive s handle w stalled).2.1,
        (drive s handle w stalled).2.2.bare)) := by
  fun_induction drive s handle w stalled with
  | case1 s handle w stalled hfull =>
    exact Guarded.repeated_last (guardedRound_full s handle stalled hfull)
  | case2 s handle w stalled hroom reply handle' world hcall s' w' detail hcode =>
    apply Guarded.repeated_last
    rw [guardedRound_call hf stalled hroom hw hcall, hcode]
  | case3 s handle w stalled hroom reply handle' world hcall s' w' hcode =>
    apply Guarded.repeated_last
    rw [guardedRound_call hf stalled hroom hw hcall, hcode]
  | case4 s handle w stalled hroom reply handle' world hcall s' w' hfull hcode hend =>
    apply Guarded.repeated_last
    rw [guardedRound_next hf stalled hroom hw hcall hcode hend, if_pos hfull]
  | case5 s handle w stalled hroom reply handle' world hcall s' w' pending hfull hdry hcode hend =>
    apply Guarded.repeated_last
    rw [guardedRound_next hf stalled hroom hw hcall hcode hend, if_neg hfull, if_pos hdry]
  | case6 s handle w stalled hroom reply handle' world hcall s' w' pending hfull hdry hstall hp
      hcode hend =>
    apply Guarded.repeated_last
    rw [guardedRound_next hf stalled hroom hw hcall hcode hend, if_neg hfull, if_neg hdry,
      if_pos hstall, if_pos hp]
  | case7 s handle w stalled hroom reply handle' world hcall s' w' pending hfull hdry hstall hp
      hs hcode hend =>
    apply Guarded.repeated_last
    rw [guardedRound_next hf stalled hroom hw hcall hcode hend, if_neg hfull, if_neg hdry,
      if_pos hstall, if_neg hp, if_pos hs]
  | case8 s handle w stalled hroom reply handle' world hcall s' w' pending hfull hdry hstall hp
      hs hcode hend ih =>
    have hround : guardedRound call ⟨s, handle, w.bare, stalled⟩ =
        some (.inl ⟨s', handle', w'.bare, stalled + 1⟩) := by
      rw [guardedRound_next hf stalled hroom hw hcall hcode hend, if_neg hfull, if_neg hdry,
        if_pos hstall, if_neg hp, if_neg hs]
    rw [Guarded.repeated_again hround]
    exact ih hf (hw.settle reply)
  | case9 s handle w stalled hroom reply handle' world hcall s' w' pending hfull hdry hmoved
      hcode hend ih =>
    have hround : guardedRound call ⟨s, handle, w.bare, stalled⟩ =
        some (.inl ⟨s', handle', w'.bare, 0⟩) := by
      rw [guardedRound_next hf stalled hroom hw hcall hcode hend, if_neg hfull, if_neg hdry,
        if_neg hmoved]
    rw [Guarded.repeated_again hround]
    exact ih hf (hw.settle reply)

theorem engine_of_opened {s s' : DecoderSession ω σ} {result : Except CodecError σ}
    (h : s.opened = (result, s')) : s'.engine = s.engine := by
  unfold opened at h
  split at h
  · cases h
    rfl
  · split at h
    · cases h
      rfl
    · split at h
      · cases h
        rfl
      · split at h <;>
        · cases h
          rfl

theorem guardedDecompress_eq {s : DecoderSession ω σ} (hf : call.Follows s.engine largest)
    {w : Windows} (hw : w.AtMost largest) :
    s.guardedDecompress call w.bare =
      some (some ((s.decompress w).1, (s.decompress w).2.1, (s.decompress w).2.2.bare)) := by
  unfold guardedDecompress decompress
  rcases hopened : s.opened with ⟨_ | handle, s₁⟩
  · rfl
  · have hf₁ : call.Follows s₁.engine largest := by
      rw [engine_of_opened hopened]
      exact hf
    dsimp only
    split
    · rfl
    · by_cases hwait : (w.src.isEmpty && !s₁.hasSeenInput) = true
      · rw [Windows.src_bare, CursorBuffer.isEmpty_bare, if_pos hwait, if_pos hwait]
      · rw [Windows.src_bare, CursorBuffer.isEmpty_bare, if_neg hwait, if_neg hwait,
          guardedDrive_eq s₁ hf₁ handle w hw 0]
        rfl

end DecoderSession

namespace Libraries

variable {libraries : Libraries ω}

/-- Whatever libraries report whose totals never fall and whose positions stay within their
windows: in a session of either role, no slice of an adapter or of the drive is out of range and no
difference is negative, no call moves more than it was offered, and the cursors stay in order after
every call; and what the session does is what it does without the guards. -/
theorem guards_never_strike (h : libraries.Sound) (codec : Codec) {largest : Nat} {w : Windows}
    (hw : w.AtMost largest) :
    (∀ s : EncoderSession ω EncoderHandle, libraries.backend.encoder codec = some s.engine →
      ∃ call, libraries.encode largest codec = some call ∧ ∀ op,
        s.guardedCompress call op w.bare = some (some
          ((s.compress op w).1, (s.compress op w).2.1, (s.compress op w).2.2.bare))) ∧
    (∀ s : DecoderSession ω DecoderHandle, libraries.backend.decoder codec = some s.engine →
      ∃ call, libraries.decode largest codec = some call ∧
        s.guardedDecompress call w.bare = some (some
          ((s.decompress w).1, (s.decompress w).2.1, (s.decompress w).2.2.bare))) := by
  constructor
  · intro s hengine
    obtain ⟨call, hcall, hf⟩ := follows_encode h largest hengine
    exact ⟨call, hcall, fun op => s.guardedCompress_eq op hf hw⟩
  · intro s hengine
    obtain ⟨call, hcall, hf⟩ := follows_decode h largest hengine
    exact ⟨call, hcall, s.guardedDecompress_eq hf hw⟩

/-- The largest total that a library can keep. -/
def utmost : UInt64 := 0xFFFFFFFFFFFFFFFF

theorem le_utmost (total : UInt64) : total ≤ utmost :=
  UInt64.le_iff_toNat_le.mpr (Nat.le_of_lt_succ total.toNat_lt)

/-- Libraries of which only that of zlib works. It hands on what it is given, and by its totals each
call moves more than any window holds. -/
def boasting : Libraries UInt64 where
  brotli := Backend.refusing.brotli
  zstd := Backend.refusing.zstd
  deflate :=
    { totalIn := id
      totalOut := id
      newEncoder := fun _ _ _ => 0
      compress := fun _ input room _ => (overlay room 0 input, .ok .streamEnd, utmost)
      newDecoder := fun _ _ => 0
      decompress := fun input room _ => (overlay room 0 input, .ok .streamEnd, utmost) }
  lzma :=
    { totalIn := id
      totalOut := id
      newEncoder := fun _ _ _ total => (.error "refused", total)
      newDecoder := fun _ total => (.error "refused", total)
      process := fun _ _ room total => (room, .error "refused", total) }

theorem sound_boasting : boasting.Sound where
  zstd := ⟨fun _ _ _ => ⟨Nat.zero_le _, Nat.zero_le _⟩, fun _ _ => Nat.zero_le _,
    fun _ _ => Nat.zero_le _, fun _ _ _ => ⟨Nat.zero_le _, Nat.zero_le _⟩⟩
  deflate :=
    { compress := fun _ _ _ total => ⟨le_utmost total, le_utmost total⟩
      decompress := fun _ _ total => ⟨le_utmost total, le_utmost total⟩ }
  lzma := fun _ _ _ _ => ⟨UInt64.le_refl _, UInt64.le_refl _⟩

/-- The library claims to have moved more than two bytes into more than four, and both sessions
move two into four. -/
theorem guards_never_strike_boasting :
    let s : EncoderSession UInt64 EncoderHandle :=
      { options := { codec := .zlib }
        version := Codec.zlib.version
        engine := Backend.encoder.deflate boasting.backend true
        world := 0 }
    let d : DecoderSession UInt64 DecoderHandle :=
      { options := { codec := .zlib }
        version := Codec.zlib.version
        engine := Backend.decoder.deflate boasting.backend true
        world := 0 }
    let w : Windows := ⟨.filled ⟨#[97, 98]⟩, .withCapacity 4⟩
    let claimed := (boasting.backend.deflate.compress .finish w.src.unread w.dst.unwritten 0).1
    boasting.Sound ∧ w.AtMost 4 ∧ 2 < claimed.used ∧ 4 < claimed.produced ∧
      (∃ s' w', s.compress .finish w = (.ok .done, s', w') ∧ w'.src.isEmpty = true ∧
        w'.dst.unread = ⟨#[97, 98, 0, 0]⟩ ∧ ∃ call, boasting.encode 4 .zlib = some call ∧
          s.guardedCompress call .finish w.bare = some (some (.ok .done, s', w'.bare))) ∧
      ∃ d' w', d.decompress w = (.ok .done, d', w') ∧ w'.src.isEmpty = true ∧
        w'.dst.unread = ⟨#[97, 98, 0, 0]⟩ ∧ ∃ call, boasting.decode 4 .zlib = some call ∧
          d.guardedDecompress call w.bare = some (some (.ok .done, d', w'.bare)) := by
  intro s d w claimed
  have hw : w.AtMost 4 := ⟨by decide, by decide⟩
  have hused : 2 < claimed.used := by cbv
  have hproduced : 4 < claimed.produced := by cbv
  obtain ⟨hencodes, hdecodes⟩ := guards_never_strike sound_boasting .zlib hw
  obtain ⟨encode, hencode, hcompress⟩ := hencodes s rfl
  obtain ⟨decode, hdecode, hdecompress⟩ := hdecodes d rfl
  have hencoded : (s.compress .finish w).1 = .ok .done ∧
      (s.compress .finish w).2.2.src.isEmpty = true ∧
      (s.compress .finish w).2.2.dst.unread = ⟨#[97, 98, 0, 0]⟩ := by
    refine ⟨?_, ?_, ?_⟩ <;> cbv
  have hdecoded : (d.decompress w).1 = .ok .done ∧ (d.decompress w).2.2.src.isEmpty = true ∧
      (d.decompress w).2.2.dst.unread = ⟨#[97, 98, 0, 0]⟩ := by
    refine ⟨?_, ?_, ?_⟩ <;> cbv
  refine ⟨sound_boasting, hw, hused, hproduced, ?_, ?_⟩
  · obtain ⟨hdone, hdrained, hgiven⟩ := hencoded
    exact ⟨_, _, Prod.ext hdone rfl, hdrained, hgiven, encode, hencode, hdone ▸ hcompress .finish⟩
  · obtain ⟨hdone, hdrained, hgiven⟩ := hdecoded
    exact ⟨_, _, Prod.ext hdone rfl, hdrained, hgiven, decode, hdecode, hdone ▸ hdecompress⟩

end Libraries

end StreamCodec
