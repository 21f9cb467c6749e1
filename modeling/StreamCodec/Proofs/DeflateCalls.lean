import Mathlib
import StreamCodec.Engine.Codecs

/-!
# The calls of a deflate library

What a deflate library was asked for is kept in a ledger beside its state, call
by call: the mode, the windows offered and the answer. `Deflate.Backend.recording`
does so for any library and changes nothing else. In a ledger that is `Spaced` no
two sync calls follow each other unless plain bytes were consumed in between.
-/
namespace StreamCodec.Deflate

variable {ω : Type}

structure NativeCall where
  mode : FlushMode
  input : ByteArray
  room : ByteArray
  answer : Call

namespace NativeCall

variable (call : NativeCall)

/-- The call took plain bytes, by a count cut to what was offered. -/
def Consumes : Prop := 0 < min call.answer.used call.input.size

/-- The call left no room over. -/
def Fills : Prop := call.room.size ≤ call.answer.produced

def isSync : Bool := call.mode = .sync

end NativeCall

/-- The library, with every compress call entered into a ledger. -/
def Backend.recording (backend : Backend ω) : Backend (ω × List NativeCall) where
  newEncoder level zlib world := (backend.newEncoder level zlib world.1, world.2)
  compress mode input room world :=
    let (answer, library) := backend.compress mode input room world.1
    (answer, library, world.2 ++ [⟨mode, input, room, answer⟩])
  newDecoder zlib world := (backend.newDecoder zlib world.1, world.2)
  decompress input room world :=
    let (answer, library) := backend.decompress input room world.1
    (answer, library, world.2)

/-- Before it is asked to finish, the library reports neither an error nor the end of the stream. -/
def Backend.Plain (backend : Backend ω) : Prop :=
  ∀ mode input room world, mode ≠ .finish →
    (backend.compress mode input room world).1.result = .ok .ok ∨
      (backend.compress mode input room world).1.result = .ok .bufferError

/-- What one call of the encoder does: one entry in the ledger, and flags that are read off it. -/
structure Enters (h : EncoderHandle) (op : FlushOp) (input room : ByteArray)
    (world : ω × List NativeCall)
    (out : Reply × EncoderHandle × ω × List NativeCall) (call : NativeCall) : Prop where
  ledger : out.2.2.2 = world.2 ++ [call]
  mode : call.mode = h.mode op input.size
  leftIn : out.1.leftIn = leftAfter input.size call.answer.used
  leftOut : out.1.leftOut = leftAfter room.size call.answer.produced
  full : call.Fills ↔ out.1.leftOut = 0
  code : ∀ detail, out.1.code ≠ .error detail
  isFinished : out.2.1.isFinished = h.isFinished
  hasMore : out.2.1.hasMore = decide (out.1.leftOut = 0)
  isDraining : out.2.1.isDraining =
    (op = .flush && decide (out.1.leftIn = 0) && decide (out.1.leftOut = 0))
  offered : call.input = input

namespace Enters

variable {h : EncoderHandle} {op : FlushOp} {input room : ByteArray} {world : ω × List NativeCall}
  {out : Reply × EncoderHandle × ω × List NativeCall} {call : NativeCall}

theorem fills_iff (e : Enters h op input room world out call) :
    call.Fills ↔ out.2.1.hasMore = true := by
  rw [e.hasMore, decide_eq_true_eq]
  exact e.full

/-- A call of a flush without input: it has a marker unless the last one left some of it over, and
what it leaves over itself is drained without another. -/
theorem flush (e : Enters h .flush input room world out call) (hempty : input.size = 0) :
    call.mode = (if h.isDraining then .none else .sync) ∧ call.input.size = 0 ∧
      out.2.1.isDraining = out.2.1.hasMore := by
  have hleft : out.1.leftIn = 0 := by
    rw [e.leftIn, leftAfter, hempty, Nat.zero_sub]
  refine ⟨?_, by rw [e.offered, hempty], ?_⟩
  · rw [e.mode, EncoderHandle.mode, hempty]
    simp
  · rw [e.isDraining, e.hasMore, hleft]
    simp

end Enters

theorem enters_of_plain {backend : Backend ω} (hplain : backend.Plain) (zlib : Bool)
    {op : FlushOp} (hop : op ≠ .finish) (input room : ByteArray) (h : EncoderHandle)
    (world : ω × List NativeCall) :
    ∃ call, Enters h op input room world
      ((encoder backend.recording zlib).compress op input room h world) call := by
  have hmode : h.mode op input.size ≠ .finish := by
    cases op with
    | process => exact nofun
    | flush =>
      simp only [EncoderHandle.mode]
      split <;> exact nofun
    | finish => exact absurd rfl hop
  have hsub (n : Nat) : room.size ≤ n ↔ leftAfter room.size n = 0 := by
    rw [leftAfter]
    omega
  unfold encoder
  dsimp only
  generalize hworld : (if h.isBuilt = true then world
    else backend.recording.newEncoder h.level h.zlib world) = w
  have hledger : w.2 = world.2 := by
    subst hworld
    split <;> rfl
  rcases hcall : backend.compress (h.mode op input.size) input room w.1 with ⟨answer, library⟩
  have hresult := hplain (h.mode op input.size) input room w.1 hmode
  rw [hcall] at hresult
  simp only [Backend.recording, hcall]
  refine ⟨⟨h.mode op input.size, input, room, answer⟩, ?_⟩
  rcases hresult with hresult | hresult
  all_goals
    simp only at hresult
    simp only [hresult]
    refine ⟨by rw [hledger], rfl, rfl, rfl, hsub _, ?_, rfl, rfl, rfl, rfl⟩
    split <;> exact nofun

/-- No stretch of calls that consume nothing holds more than one sync call. -/
def Spaced (calls : List NativeCall) : Prop :=
  ∀ stretch, stretch <:+: calls → (∀ call ∈ stretch, ¬call.Consumes) →
    stretch.countP NativeCall.isSync ≤ 1

namespace Spaced

variable {calls more : List NativeCall} {call : NativeCall}

theorem nil : Spaced [] := by
  intro stretch hstretch _
  rw [List.infix_nil.mp hstretch]
  exact Nat.zero_le 1

theorem concat_none (h : Spaced calls) (hmode : call.mode = .none) : Spaced (calls ++ [call]) := by
  intro stretch hstretch hquiet
  rcases List.infix_concat_iff.mp hstretch with hlast | hbefore
  · rcases List.suffix_concat_iff.mp hlast with rfl | ⟨front, rfl, hfront⟩
    · exact Nat.zero_le 1
    · have hcount := h front hfront.isInfix fun c hc => hquiet c (List.mem_append_left _ hc)
      rw [List.countP_append, List.countP_singleton, NativeCall.isSync, hmode]
      simpa using hcount
  · exact h stretch hbefore hquiet

theorem append_none (h : Spaced calls) (hmode : ∀ call ∈ more, call.mode = .none) :
    Spaced (calls ++ more) := by
  induction more using List.reverseRecOn with
  | nil => rwa [List.append_nil]
  | append_singleton front call ih =>
    rw [← List.append_assoc]
    exact (ih fun c hc => hmode c (List.mem_append_left _ hc)).concat_none
      (hmode call (List.mem_append_right _ (List.mem_singleton_self _)))

/-- A sync call keeps the ledger spaced if bytes were consumed since the last one. -/
theorem concat_sync (h : Spaced (calls ++ more)) (hmode : ∀ call ∈ more, call.mode = .none)
    (hnew : ∃ call ∈ more, call.Consumes) : Spaced (calls ++ more ++ [call]) := by
  obtain ⟨taken, htaken, hconsumes⟩ := hnew
  intro stretch hstretch hquiet
  rcases List.infix_concat_iff.mp hstretch with hlast | hbefore
  · rcases List.suffix_concat_iff.mp hlast with rfl | ⟨front, rfl, hfront⟩
    · exact Nat.zero_le 1
    · -- The stretch ends after the call that consumed, so nothing else in it is a sync call.
      have hinside : front <:+ more := by
        rcases List.suffix_or_suffix_of_suffix hfront (List.suffix_append calls more) with hin | hout
        · exact hin
        · exact absurd hconsumes (hquiet taken (List.mem_append_left _ (hout.subset htaken)))
      have hnone : front.countP NativeCall.isSync = 0 := by
        rw [List.countP_eq_zero]
        intro c hc
        rw [NativeCall.isSync, hmode c (hinside.subset hc)]
        decide
      rw [List.countP_append, hnone, Nat.zero_add]
      exact List.countP_le_length
  · exact h stretch hbefore hquiet

end Spaced

end StreamCodec.Deflate

/-- Libraries that refuse everything: a base for those of which a single one works. -/
def StreamCodec.Backend.refusing {ω : Type} : StreamCodec.Backend ω where
  brotli :=
    { newEncoder := id
      setQuality := fun _ world => (false, world)
      setWindow := fun _ world => (false, world)
      compress := fun _ input room world => (⟨false, input.size, room.size, room, false, false⟩, world)
      newDecoder := id
      decompress := fun _ room world => (⟨0, room.size, room, .failure⟩, world) }
  zstd :=
    { newEncoder := fun world => (.error "refused", world)
      setLevel := fun _ world => (false, world)
      setWindow := fun _ world => (false, world)
      run := fun _ room world => (⟨0, 0, room, .error "refused"⟩, world)
      flush := fun room world => (⟨0, 0, room, .error "refused"⟩, world)
      finish := fun room world => (⟨0, 0, room, .error "refused"⟩, world)
      newDecoder := fun world => (.error "refused", world)
      setWindowMax := fun _ world => (false, world)
      decode := fun _ room world => (⟨0, 0, room, .error "refused"⟩, world) }
  deflate :=
    { newEncoder := fun _ _ => id
      compress := fun _ _ room world => (⟨0, 0, room, .error "refused"⟩, world)
      newDecoder := fun _ => id
      decompress := fun _ room world => (⟨0, 0, room, .error "refused"⟩, world) }
  lzma :=
    { newEncoder := fun _ _ _ world => (.error "refused", world)
      newDecoder := fun _ world => (.error "refused", world)
      process := fun _ _ room world => (⟨0, 0, room, .error "refused"⟩, world) }
