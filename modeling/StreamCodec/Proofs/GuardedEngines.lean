import StreamCodec.Engine.Codecs
import StreamCodec.Proofs.GuardedBuffers

/-!
# Engines with guards

The calls of all adapters over libraries as they really count: deflate and LZMA
keep running totals of 64 bits, which may grow by more than was offered, brotli
leaves any counts behind, and zstd moves positions. Every slice that an adapter
takes and every difference that it forms has a guard. If the totals never fall and
the positions of zstd stay within their windows, no guard ever strikes, and a call
does what the unguarded engine does.
-/
namespace StreamCodec

open Guarded (minus slice)

variable {ω σ τ α : Type}

namespace Guarded

/-- A count of a library as a size of the machine, whose largest size is `largest`. -/
def asSize (largest used : Nat) : Nat := if used ≤ largest then used else largest

/-- What remains of `offered` bytes when a library claims to have used `used` of them. -/
def leftAfter (largest offered used : Nat) : Nat := offered - asSize largest used

/-- Cutting a count to the size of the machine changes nothing for a window of the machine. -/
theorem leftAfter_eq {largest offered : Nat} (h : offered ≤ largest) (used : Nat) :
    leftAfter largest offered used = StreamCodec.leftAfter offered used := by
  unfold leftAfter asSize StreamCodec.leftAfter
  split
  · rfl
  · omega

/-- A call of an encoder: the operation, the counts and windows of both sides, the handle and the
library. -/
abbrev EncodeCall (ω σ : Type) :=
  FlushOp → (availableIn : Nat) → (input : ByteArray) → (availableOut : Nat) → (output : ByteArray) →
    σ → ω → Option (Reply × σ × ω)

@[inherit_doc EncodeCall]
abbrev DecodeCall (ω σ : Type) :=
  (availableIn : Nat) → (input : ByteArray) → (availableOut : Nat) → (output : ByteArray) →
    σ → ω → Option (Reply × σ × ω)

namespace EncodeCall

/-- Offered whole windows of the machine, no guard strikes and the engine is followed. -/
def Follows (call : EncodeCall ω σ) (engine : EncoderEngine ω σ) (largest : Nat) : Prop :=
  ∀ op input room handle world, input.size ≤ largest → room.size ≤ largest →
    call op input.size input room.size room handle world =
      some (engine.compress op input room handle world)

def within (call : EncodeCall ω σ) (wrap : σ → τ) (unwrap : τ → Option σ) : EncodeCall ω τ :=
  fun op availableIn input availableOut output handle world =>
    match unwrap handle with
    | some inner => do
      let (reply, inner, world) ← call op availableIn input availableOut output inner world
      return (reply, wrap inner, world)
    | none => some (⟨availableIn, availableOut, output, .error "foreign handle"⟩, handle, world)

theorem Follows.within {call : EncodeCall ω σ} {engine : EncoderEngine ω σ} {largest : Nat}
    (h : call.Follows engine largest) (wrap : σ → τ) (unwrap : τ → Option σ) :
    (call.within wrap unwrap).Follows (engine.within wrap unwrap) largest := by
  intro op input room handle world hin hout
  simp only [EncodeCall.within, EncoderEngine.within]
  cases hinner : unwrap handle with
  | none => rfl
  | some inner =>
    dsimp only
    rw [h op input room inner world hin hout]
    rfl

end EncodeCall

namespace DecodeCall

@[inherit_doc EncodeCall.Follows]
def Follows (call : DecodeCall ω σ) (engine : DecoderEngine ω σ) (largest : Nat) : Prop :=
  ∀ input room handle world, input.size ≤ largest → room.size ≤ largest →
    call input.size input room.size room handle world =
      some (engine.decompress input room handle world)

def within (call : DecodeCall ω σ) (wrap : σ → τ) (unwrap : τ → Option σ) : DecodeCall ω τ :=
  fun availableIn input availableOut output handle world =>
    match unwrap handle with
    | some inner => do
      let (reply, inner, world) ← call availableIn input availableOut output inner world
      return (reply, wrap inner, world)
    | none => some (⟨availableIn, availableOut, output, .error "foreign handle"⟩, handle, world)

theorem Follows.within {call : DecodeCall ω σ} {engine : DecoderEngine ω σ} {largest : Nat}
    (h : call.Follows engine largest) (wrap : σ → τ) (unwrap : τ → Option σ) :
    (call.within wrap unwrap).Follows (engine.within wrap unwrap) largest := by
  intro input room handle world hin hout
  simp only [DecodeCall.within, DecoderEngine.within]
  cases hinner : unwrap handle with
  | none => rfl
  | some inner =>
    dsimp only
    rw [h input room inner world hin hout]
    rfl

end DecodeCall

/-- The running totals of a library's encoder or decoder. -/
structure Totals (ω : Type) where
  totalIn : ω → UInt64
  totalOut : ω → UInt64

structure Tally (α : Type) where
  leftIn : Nat
  leftOut : Nat
  room : ByteArray
  result : α

def Tally.reply (t : Tally α) (code : CallCode) : Reply :=
  { leftIn := t.leftIn, leftOut := t.leftOut, room := t.room, code }

namespace Totals

variable (t : Totals ω)

/-- Neither total falls. -/
def Grow (world world' : ω) : Prop :=
  t.totalIn world ≤ t.totalIn world' ∧ t.totalOut world ≤ t.totalOut world'

/-- One call of a library that keeps totals: both windows are cut to their counts, and what the
totals grew by is what was used. -/
def call (largest : Nat) (run : ByteArray → ByteArray → ω → ByteArray × α × ω)
    (availableIn : Nat) (input : ByteArray) (availableOut : Nat) (output : ByteArray) (world : ω) :
    Option (Tally α × ω) := do
  let offered ← slice input 0 availableIn
  let room ← slice output 0 availableOut
  let (left, result, world') := run offered room world
  let used ← minus (t.totalIn world').toNat (t.totalIn world).toNat
  let produced ← minus (t.totalOut world').toNat (t.totalOut world).toNat
  return ({ leftIn := leftAfter largest availableIn used,
            leftOut := leftAfter largest availableOut produced,
            room := left
            result }, world')

theorem call_eq {largest : Nat} {run : ByteArray → ByteArray → ω → ByteArray × α × ω}
    {input output : ByteArray} {world : ω} (hin : input.size ≤ largest) (hout : output.size ≤ largest)
    (hgrow : t.Grow world (run input output world).2.2) :
    t.call largest run input.size input output.size output world =
      some ({ leftIn := StreamCodec.leftAfter input.size
                ((t.totalIn (run input output world).2.2).toNat - (t.totalIn world).toNat)
              leftOut := StreamCodec.leftAfter output.size
                ((t.totalOut (run input output world).2.2).toNat - (t.totalOut world).toNat)
              room := (run input output world).1
              result := (run input output world).2.1 }, (run input output world).2.2) := by
  simp only [call, Guarded.slice_all, Option.bind_eq_bind, Option.bind_some]
  rw [Guarded.minus_of_le (UInt64.le_iff_toNat_le.mp hgrow.1),
    Guarded.minus_of_le (UInt64.le_iff_toNat_le.mp hgrow.2), Option.bind_some, Option.bind_some,
    leftAfter_eq hin, leftAfter_eq hout]
  rfl

end Totals

end Guarded

open Guarded (EncodeCall DecodeCall Totals Tally)

namespace Brotli

variable (backend : Backend ω)

/-- The library is given both windows whole, and rewrites the counts as it likes. -/
def guardedEncode : EncodeCall ω Handle := fun op _ input _ output handle world =>
  some ((encoder backend).compress op input output handle world)

def guardedDecode (largest : Nat) : DecodeCall ω Handle :=
  fun availableIn input _ output handle world =>
    let (answer, _) := backend.decompress input output world
    let (reply, handle, world) := (decoder backend).decompress input output handle world
    some ({ reply with leftIn := Guarded.leftAfter largest availableIn answer.used }, handle, world)

theorem follows_encode (largest : Nat) :
    (guardedEncode backend).Follows (encoder backend) largest :=
  fun _ _ _ _ _ _ _ => rfl

theorem follows_decode (largest : Nat) :
    (guardedDecode backend largest).Follows (decoder backend) largest := by
  intro input room handle world hin hout
  simp only [guardedDecode, Guarded.leftAfter_eq hin]
  rfl

end Brotli

namespace Zstd

/-- Both positions stay within the windows of a run. -/
def Run.Within (run : Run) (offered room : Nat) : Prop := run.used ≤ offered ∧ run.produced ≤ room

/-- The positions never leave their windows. What emits only has no position in the input. -/
structure Backend.Within (backend : Backend ω) : Prop where
  run : ∀ input room world, (backend.run input room world).1.Within input.size room.size
  flush : ∀ room world, (backend.flush room world).1.produced ≤ room.size
  finish : ∀ room world, (backend.finish room world).1.produced ≤ room.size
  decode : ∀ input room world, (backend.decode input room world).1.Within input.size room.size

namespace Progress

variable (p : Progress)

/-- The progress after a run, the positions wherever it moves them. -/
def moved (run : Run) : Progress where
  used := p.used + run.used
  produced := p.produced + run.produced
  room := overlay p.room p.produced run.room

/-- The progress after a run that takes no input. -/
def emitted (run : Run) : Progress := p.moved { run with used := 0 }

def guardedRest : Option ByteArray := slice p.room p.produced p.room.size

def guardedReply (availableIn availableOut : Nat) (code : CallCode) : Option Reply := do
  let leftIn ← minus availableIn p.used
  let leftOut ← minus availableOut p.produced
  return { leftIn, leftOut, room := p.room, code }

/-- The positions stand inside windows of these sizes. -/
structure Inside (offered room : Nat) : Prop where
  used : p.used ≤ offered
  produced : p.produced ≤ room
  room : p.room.size = room

variable {p} {offered room : Nat}

theorem Inside.rest (h : p.Inside offered room) : p.guardedRest = some p.rest :=
  Guarded.slice_of_le (h.room ▸ h.produced) (Nat.le_refl _)

theorem Inside.size_rest (h : p.Inside offered room) : p.rest.size = room - p.produced := by
  rw [Progress.rest, ByteArray.size_extract, Nat.min_self, h.room]

theorem Inside.reply (h : p.Inside offered room) (code : CallCode) :
    p.guardedReply offered room code = some (p.reply offered code) := by
  rw [guardedReply, Guarded.minus_of_le h.used, Guarded.minus_of_le h.produced, Progress.reply,
    h.room]
  rfl

/-- Positions that stay within what was left of the windows move as they are clamped. -/
theorem Inside.moved_eq (h : p.Inside offered room) {run : Run}
    (hrun : run.Within (offered - p.used) (room - p.produced)) :
    p.moved run = p.advance offered run := by
  rw [moved, advance, h.room, Nat.min_eq_left hrun.1, Nat.min_eq_left hrun.2]

theorem Inside.advance (h : p.Inside offered room) (run : Run) :
    (p.advance offered run).Inside offered room := by
  have hused := h.used
  have hproduced := h.produced
  have hroom := h.room
  constructor
  · show p.used + min run.used (offered - p.used) ≤ offered
    omega
  · show p.produced + min run.produced (p.room.size - p.produced) ≤ room
    omega
  · show (overlay p.room p.produced run.room).size = room
    rw [size_overlay _ _ _ (hroom ▸ hproduced), hroom]

/-- Once all input was taken in, a run can only emit. -/
theorem Inside.emitted_eq (h : p.Inside offered room) (hall : ¬p.used < offered) {run : Run}
    (hrun : run.produced ≤ room - p.produced) : p.emitted run = p.advance offered run := by
  have hused : p.used = offered := Nat.le_antisymm h.used (Nat.not_lt.mp hall)
  rw [emitted, moved, Progress.advance, h.room, Nat.min_eq_left hrun, hused, Nat.sub_self,
    Nat.min_zero]

end Progress

variable (backend : Backend ω)

/-- One more run of the library, while both input and room remain. -/
def guardedRun (input : ByteArray) (x : Progress × ω) :
    (Progress × ω) ⊕ Option (Except String Unit × Progress × ω) :=
  let (p, world) := x
  if p.used < input.size ∧ p.produced < p.room.size then
    match slice input p.used input.size, p.guardedRest with
    | some offered, some rest =>
      let (run, world) := backend.run offered rest world
      match run.result with
      | .ok _ => .inl (p.moved run, world)
      | .error detail => .inr (some (.error detail, p.moved run, world))
    | _, _ => .inr none
  else .inr (some (.ok (), p, world))

/-- Runs the library while both input and room remain. -/
def guardedRuns (input : ByteArray) (p : Progress) (world : ω) :
    Option (Except String Unit × Progress × ω) :=
  (loop (guardedRun backend input) (p, world)).getD
    (some (.error "encoder never came to rest", p, world))

/-- Carries out the operation itself, once the runs came to rest. -/
def guardedClose (op : FlushOp) (offered room : Nat) (handle : Handle) (p : Progress) (world : ω) :
    Option (CallCode × Progress × Handle × ω) :=
  if p.used < offered then some (.needsMoreOutput, p, { handle with hasMore := true }, world)
  else
    match op with
    | .process => some (.ok, p, { handle with hasMore := p.produced = room }, world)
    | .flush => do
      let (run, world) := backend.flush (← p.guardedRest) world
      match run.result with
      | .ok remaining =>
        some (.ok, p.emitted run, { handle with hasMore := 0 < remaining }, world)
      | .error detail => some (.error detail, p.emitted run, handle, world)
    | .finish => do
      let (run, world) := backend.finish (← p.guardedRest) world
      match run.result with
      | .ok 0 => some (.streamEnd, p.emitted run, { hasMore := false, isFinished := true }, world)
      | .ok _ => some (.needsMoreOutput, p.emitted run, { handle with hasMore := true }, world)
      | .error detail => some (.error detail, p.emitted run, handle, world)

def guardedEncode : EncodeCall ω Handle :=
  fun op availableIn input availableOut output handle world => do
    let offered ← slice input 0 availableIn
    let room ← slice output 0 (min availableOut output.size)
    let (ended, p, world) ← guardedRuns backend offered ⟨0, 0, room⟩ world
    let (code, p, handle, world) ← match ended with
      | .ok () => guardedClose backend op offered.size room.size handle p world
      | .error detail => some (.error detail, p, handle, world)
    let reply ← p.guardedReply availableIn availableOut code
    return (reply, handle, world)

def guardedDecode : DecodeCall ω Handle :=
  fun availableIn input availableOut output handle world => do
    let offered ← slice input 0 availableIn
    let room ← slice output 0 (min availableOut output.size)
    let (run, world) := backend.decode offered room world
    let p := Progress.moved ⟨0, 0, room⟩ run
    let (code, handle) := match run.result with
      | .ok 0 => (CallCode.streamEnd, { hasMore := false, isFinished := true })
      | .ok _ =>
        let isFull : Bool := p.produced = room.size
        (if isFull then .needsMoreOutput else .needsMoreInput, { handle with hasMore := isFull })
      | .error detail => (.error detail, handle)
    let reply ← p.guardedReply availableIn availableOut code
    return (reply, handle, world)

variable {backend}

/-- One run of an encoder: no guard strikes, it is that of the engine, and the positions stay
inside. -/
theorem guardedRun_together (h : backend.Within) {input : ByteArray} {room : Nat}
    {x x' : Progress × ω} (hx : x = x' ∧ x'.1.Inside input.size room) :
    Sum.LiftRel (fun x x' => x = x' ∧ x'.1.Inside input.size room)
      (fun y y' => y = some y' ∧ y'.2.1.Inside input.size room)
      (guardedRun backend input x) (runOnce backend input x') := by
  obtain ⟨rfl, hp⟩ := hx
  obtain ⟨p, world⟩ := x
  unfold guardedRun runOnce
  dsimp only at hp ⊢
  split
  case isTrue hmore =>
    rw [Guarded.slice_of_le hp.used (Nat.le_refl _), hp.rest]
    dsimp only
    have hrun : (backend.run (input.extract p.used input.size) p.rest world).1.Within
        (input.size - p.used) (room - p.produced) := by
      have hwithin := h.run (input.extract p.used input.size) p.rest world
      rwa [hp.size_rest, ByteArray.size_extract, Nat.min_self] at hwithin
    rw [hp.moved_eq hrun]
    have hafter := hp.advance (backend.run (input.extract p.used input.size) p.rest world).1
    cases (backend.run (input.extract p.used input.size) p.rest world).1.result with
    | ok n => exact .inl ⟨rfl, hafter⟩
    | error detail => exact .inr ⟨rfl, hafter⟩
  case isFalse => exact .inr ⟨rfl, hp⟩

theorem guardedRuns_eq (h : backend.Within) {input : ByteArray} {room : Nat}
    (p : Progress) (world : ω) (hp : p.Inside input.size room) :
    guardedRuns backend input p world = some (runAll backend input p world) ∧
      (runAll backend input p world).2.1.Inside input.size room := by
  have htogether := loop_together (fun _ _ => guardedRun_together h)
    (⟨rfl, hp⟩ : (p, world) = (p, world) ∧ p.Inside input.size room)
  rw [guardedRuns, runAll]
  generalize loop (guardedRun backend input) (p, world) = guarded,
    loop (runOnce backend input) (p, world) = plain at htogether ⊢
  cases htogether with
  | some hboth => exact hboth
  | none => exact ⟨rfl, hp⟩

/-- What an encoder does after its runs: no guard strikes, and it is what the engine does. -/
theorem guardedClose_eq (h : backend.Within) (op : FlushOp) {input room : ByteArray}
    (handle : Handle) {world world₁ : ω} {p : Progress} (hp : p.Inside input.size room.size)
    (hruns : runAll backend input ⟨0, 0, room⟩ world = (.ok (), p, world₁)) :
    (do let (code, p, handle, world) ←
          guardedClose backend op input.size room.size handle p world₁
        let reply ← p.guardedReply input.size room.size code
        return (reply, handle, world)) =
      some ((encoder backend).compress op input room handle world) := by
  by_cases hmore : p.used < input.size
  · simp only [guardedClose, encoder, hruns, if_pos hmore, hp.reply, Option.bind_eq_bind,
      Option.bind_some]
    rfl
  · cases op with
    | process =>
      simp only [guardedClose, encoder, hruns, if_neg hmore, hp.reply, Option.bind_eq_bind,
        Option.bind_some]
      rfl
    | flush =>
      have hemitted := hp.emitted_eq hmore (hp.size_rest ▸ h.flush p.rest world₁)
      have hreply := (hp.advance (backend.flush p.rest world₁).1).reply
      rcases hout : backend.flush p.rest world₁ with ⟨run, world₂⟩
      rw [hout] at hemitted hreply
      rcases hresult : run.result with _ | _ <;>
      · simp only [guardedClose, encoder, hruns, if_neg hmore, hp.rest, hout, hresult, hemitted,
          hreply, Option.bind_eq_bind, Option.bind_some]
        rfl
    | finish =>
      have hemitted := hp.emitted_eq hmore (hp.size_rest ▸ h.finish p.rest world₁)
      have hreply := (hp.advance (backend.finish p.rest world₁).1).reply
      rcases hout : backend.finish p.rest world₁ with ⟨run, world₂⟩
      rw [hout] at hemitted hreply
      rcases hresult : run.result with _ | _ | _ <;>
      · simp only [guardedClose, encoder, hruns, if_neg hmore, hp.rest, hout, hresult, hemitted,
          hreply, Option.bind_eq_bind, Option.bind_some]
        rfl

theorem follows_encode (h : backend.Within) (largest : Nat) :
    (guardedEncode backend).Follows (encoder backend) largest := by
  intro op input room handle world _ _
  have hstart : (Progress.mk 0 0 room).Inside input.size room.size :=
    ⟨Nat.zero_le _, Nat.zero_le _, rfl⟩
  obtain ⟨hruns, hinside⟩ := guardedRuns_eq h _ world hstart
  rcases hout : runAll backend input ⟨0, 0, room⟩ world with ⟨detail | _, p, world₁⟩
  all_goals
    rw [hout] at hruns hinside
    simp only [guardedEncode, Nat.min_self, Guarded.slice_all, Option.bind_eq_bind,
      Option.bind_some, hruns]
  · rw [hinside.reply]
    simp only [encoder, hout]
    rfl
  · exact guardedClose_eq h op handle hinside hout

theorem follows_decode (h : backend.Within) (largest : Nat) :
    (guardedDecode backend).Follows (decoder backend) largest := by
  intro input room handle world _ _
  have hstart : (Progress.mk 0 0 room).Inside input.size room.size :=
    ⟨Nat.zero_le _, Nat.zero_le _, rfl⟩
  have hmoved := hstart.moved_eq (h.decode input room world)
  have hreply := (hstart.advance (backend.decode input room world).1).reply
  rcases hout : backend.decode input room world with ⟨run, world₁⟩
  rw [hout] at hmoved hreply
  simp only [guardedDecode, decoder, Nat.min_self, Guarded.slice_all, Option.bind_eq_bind,
    Option.bind_some, hout, hmoved, hreply]
  rcases run.result with _ | _ | _ <;> rfl

end Zstd

namespace Deflate

/-- A deflate library as it counts. A call leaves the room as it stands afterwards, and a result. -/
structure Library (ω : Type) extends Totals ω where
  newEncoder : (level : Nat) → (zlib : Bool) → ω → ω
  compress : FlushMode → (input room : ByteArray) → ω → ByteArray × Except String Status × ω
  newDecoder : (zlib : Bool) → ω → ω
  decompress : (input room : ByteArray) → ω → ByteArray × Except String Status × ω

namespace Library

variable (library : Library ω)

/-- An answer tells by how much the totals grew. -/
def answer (world : ω) (out : ByteArray × Except String Status × ω) : Call × ω :=
  ({ used := (library.totalIn out.2.2).toNat - (library.totalIn world).toNat
     produced := (library.totalOut out.2.2).toNat - (library.totalOut world).toNat
     room := out.1
     result := out.2.1 }, out.2.2)

def backend : Backend ω where
  newEncoder := library.newEncoder
  compress mode input room world := library.answer world (library.compress mode input room world)
  newDecoder := library.newDecoder
  decompress input room world := library.answer world (library.decompress input room world)

/-- The totals never fall. -/
structure Counts : Prop where
  compress : ∀ mode input room world,
    library.Grow world (library.compress mode input room world).2.2
  decompress : ∀ input room world, library.Grow world (library.decompress input room world).2.2

/-- What a call comes to once its counts are worked out. -/
def encoded (op : FlushOp) (handle : EncoderHandle) (t : Tally (Except String Status)) (world : ω) :
    Reply × EncoderHandle × ω :=
  let isFull : Bool := t.leftOut = 0
  let handle := { handle with
    isBuilt := true
    hasMore := isFull
    isDraining := op = .flush && t.leftIn = 0 && isFull }
  match t.result with
  | .ok .streamEnd =>
    (t.reply .streamEnd, { handle with isFinished := true, hasMore := false }, world)
  | .ok _ => (t.reply (if isFull then .needsMoreOutput else .ok), handle, world)
  | .error detail => (t.reply (.error detail), handle, world)

def guardedEncode (largest : Nat) : EncodeCall ω EncoderHandle :=
  fun op availableIn input availableOut output handle world => do
    let world := if handle.isBuilt then world else library.newEncoder handle.level handle.zlib world
    let (t, world) ← library.call largest (library.compress (handle.mode op availableIn))
      availableIn input availableOut output world
    return encoded op handle t world

@[inherit_doc encoded]
def decoded (handle : DecoderHandle) (t : Tally (Except String Status)) (world : ω) :
    Reply × DecoderHandle × ω :=
  let isFull : Bool := t.leftOut = 0
  let handle := { handle with hasMore := isFull }
  match t.result with
  | .ok .streamEnd =>
    (t.reply .streamEnd, { handle with isFinished := true, hasMore := false }, world)
  | .ok _ => (t.reply (if isFull then .needsMoreOutput else .needsMoreInput), handle, world)
  | .error detail =>
    (t.reply (.error (handle.codec.name ++ " stream: " ++ detail)), handle, world)

def guardedDecode (largest : Nat) : DecodeCall ω DecoderHandle :=
  fun availableIn input availableOut output handle world => do
    let (t, world) ← library.call largest library.decompress availableIn input availableOut output
      world
    return decoded handle t world

variable {library}

theorem follows_encode (h : library.Counts) (largest : Nat) (zlib : Bool) :
    (library.guardedEncode largest).Follows (encoder library.backend zlib) largest := by
  intro op input room handle world hin hout
  simp only [guardedEncode]
  rw [library.call_eq hin hout (h.compress ..)]
  rfl

theorem follows_decode (h : library.Counts) (largest : Nat) (zlib : Bool) :
    (library.guardedDecode largest).Follows (decoder library.backend zlib) largest := by
  intro input room handle world hin hout
  simp only [guardedDecode]
  rw [library.call_eq hin hout (h.decompress ..)]
  rfl

end Library

end Deflate

namespace Lzma

/-- An LZMA library as it counts. -/
structure Library (ω : Type) extends Totals ω where
  newEncoder : Container → (preset : Nat) → (dictionary : Option UInt32) → ω →
    Except String Unit × ω
  newDecoder : Container → ω → Except String Unit × ω
  process : Action → (input room : ByteArray) → ω → ByteArray × Except String Status × ω

namespace Library

variable (library : Library ω)

def answer (world : ω) (out : ByteArray × Except String Status × ω) : Call × ω :=
  ({ used := (library.totalIn out.2.2).toNat - (library.totalIn world).toNat
     produced := (library.totalOut out.2.2).toNat - (library.totalOut world).toNat
     room := out.1
     result := out.2.1 }, out.2.2)

def backend : Backend ω where
  newEncoder := library.newEncoder
  newDecoder := library.newDecoder
  process action input room world := library.answer world (library.process action input room world)

/-- The totals never fall. -/
def Counts : Prop :=
  ∀ action input room world, library.Grow world (library.process action input room world).2.2

def encoded (op : FlushOp) (handle : EncoderHandle) (t : Tally (Except String Status)) (world : ω) :
    Reply × EncoderHandle × ω :=
  let action := handle.action op
  match t.result with
  | .ok .streamEnd =>
    if action = .finish then
      (t.reply .streamEnd, { handle with isFinished := true, hasMore := false }, world)
    else (t.reply .ok, { handle with hasMore := false }, world)
  | .ok _ =>
    let hasMore : Bool := action ≠ .run || t.leftOut = 0
    (t.reply (if hasMore then .needsMoreOutput else .ok), { handle with hasMore }, world)
  | .error detail => (t.reply (.error detail), handle, world)

/-- One call on an encoder that the library has created. -/
def guardedCall (largest : Nat) : EncodeCall ω EncoderHandle :=
  fun op availableIn input availableOut output handle world => do
    let (t, world) ← library.call largest (library.process (handle.action op)) availableIn input
      availableOut output world
    return encoded op handle t world

/-- A call that cannot create the library's encoder leaves the counts as they are. -/
def guardedEncode (largest : Nat) : EncodeCall ω EncoderHandle :=
  fun op availableIn input availableOut output handle world =>
    if handle.isBuilt then
      library.guardedCall largest op availableIn input availableOut output handle world
    else
      match library.newEncoder handle.container handle.preset handle.dictionary world with
      | (.ok (), world) =>
        library.guardedCall largest op availableIn input availableOut output
          { handle with isBuilt := true } world
      | (.error detail, world) =>
        some ({ leftIn := availableIn, leftOut := availableOut, room := output,
                code := .error detail }, handle, world)

def decoded (handle : DecoderHandle) (t : Tally (Except String Status)) (world : ω) :
    Reply × DecoderHandle × ω :=
  let isFull : Bool := t.leftOut = 0
  let handle := { handle with hasMore := isFull }
  match t.result with
  | .ok .streamEnd =>
    (t.reply .streamEnd, { handle with isFinished := true, hasMore := false }, world)
  | .ok _ => (t.reply (if isFull then .needsMoreOutput else .needsMoreInput), handle, world)
  | .error detail => (t.reply (.error detail), handle, world)

def guardedDecode (largest : Nat) : DecodeCall ω DecoderHandle :=
  fun availableIn input availableOut output handle world => do
    let (t, world) ← library.call largest (library.process .run) availableIn input availableOut
      output world
    return decoded handle t world

variable {library}

theorem follows_call (h : library.Counts) {largest : Nat} (op : FlushOp) {input room : ByteArray}
    (handle : EncoderHandle) (world : ω) (hin : input.size ≤ largest) (hout : room.size ≤ largest) :
    library.guardedCall largest op input.size input room.size room handle world =
      some (encode library.backend op input room handle world) := by
  simp only [guardedCall]
  rw [library.call_eq hin hout (h ..)]
  rfl

theorem follows_encode (h : library.Counts) (largest : Nat) (container : Container) :
    (library.guardedEncode largest).Follows (encoder library.backend container) largest := by
  intro op input room handle world hin hout
  unfold guardedEncode encoder
  dsimp only
  split
  · exact follows_call h op handle world hin hout
  · show (match library.newEncoder _ _ _ _ with | (.ok (), world) => _ | (.error _, world) => _) =
      some (match library.newEncoder _ _ _ _ with | (.ok (), world) => _ | (.error _, world) => _)
    rcases library.newEncoder handle.container handle.preset handle.dictionary world with
      ⟨_ | _, world₁⟩
    · rfl
    · exact follows_call h op _ world₁ hin hout

theorem follows_decode (h : library.Counts) (largest : Nat) (container : Container) :
    (library.guardedDecode largest).Follows (decoder library.backend container) largest := by
  intro input room handle world hin hout
  simp only [guardedDecode]
  rw [library.call_eq hin hout (h ..)]
  rfl

end Library

end Lzma

end StreamCodec
