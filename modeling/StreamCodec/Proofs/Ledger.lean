import StreamCodec.Proofs.Queue
import StreamCodec.Session.Encoder
import StreamCodec.Session.Decoder

/-!
# Engines that keep a ledger

What an engine consumed and produced cannot be read off its state, which is its
own. `EncoderEngine.recording` wraps any engine so that every call is entered
into a ledger beside the library's state, in order; the engine itself sees and
does exactly what it did before. Counts in an entry are read the way a session
reads them: clamped to the windows that were offered.

`Moved` says what a row of calls does to the two buffers of a session: the
bytes consumed leave the front of the source, the bytes produced arrive at the
back of the destination.
-/
namespace StreamCodec

/-- What an engine is called for. -/
inductive Task where
  | encode (op : FlushOp)
  | decode
deriving DecidableEq, Repr

/-- An engine call: what it was offered and what it answered. -/
structure EngineCall where
  task : Task
  input : ByteArray
  room : ByteArray
  reply : Reply

namespace EngineCall

variable (call : EngineCall)

def consumed : List UInt8 := (octets call.input).take (call.input.size - call.reply.leftIn)

/-- The bytes that the call produced: the front of the room as the engine left it. -/
def produced : List UInt8 :=
  (octets (overlay call.room 0 call.reply.room)).take (call.room.size - call.reply.leftOut)

end EngineCall

/-- The engine calls of a run, first call first. -/
abbrev Ledger := List EngineCall

namespace Ledger

def consumed (calls : Ledger) : List UInt8 := calls.flatMap EngineCall.consumed

def produced (calls : Ledger) : List UInt8 := calls.flatMap EngineCall.produced

@[simp] theorem produced_nil : produced [] = [] := rfl

@[simp] theorem consumed_append (a b : Ledger) : consumed (a ++ b) = consumed a ++ consumed b :=
  List.flatMap_append

@[simp] theorem produced_append (a b : Ledger) : produced (a ++ b) = produced a ++ produced b :=
  List.flatMap_append

@[simp] theorem consumed_singleton (call : EngineCall) : consumed [call] = call.consumed :=
  List.flatMap_singleton ..

@[simp] theorem produced_singleton (call : EngineCall) : produced [call] = call.produced :=
  List.flatMap_singleton ..

/-- The last call moved nothing. -/
def Stalled (calls : Ledger) : Prop :=
  ∃ call, calls.getLast? = some call ∧ call.consumed = [] ∧ call.produced = []

/-- What a session says of a failure is what the engine said in its last call, or, if that call
moved nothing, that the engine is `stuck`. -/
def Explains (calls : Ledger) (stuck : String) (said : Option String) : Prop :=
  (∃ call detail, calls.getLast? = some call ∧ call.reply.code = .error detail ∧
    said = some detail) ∨ (calls.Stalled ∧ said = some stuck)

end Ledger

variable {ω σ : Type}

/-- The engine, with every call entered into a ledger. -/
def EncoderEngine.recording (engine : EncoderEngine ω σ) : EncoderEngine (ω × Ledger) σ where
  create world :=
    let (result, library) := engine.create world.1
    (result, library, world.2)
  setParameter p handle world :=
    let (accepted, handle, library) := engine.setParameter p handle world.1
    (accepted, handle, library, world.2)
  compress op input room handle world :=
    let (reply, handle, library) := engine.compress op input room handle world.1
    (reply, handle, library, world.2 ++ [⟨.encode op, input, room, reply⟩])
  hasMoreOutput := engine.hasMoreOutput
  isFinished := engine.isFinished

theorem EncoderEngine.compress_recording (engine : EncoderEngine ω σ) (op : FlushOp)
    (input room : ByteArray) (handle : σ) (world : ω × Ledger) {reply : Reply} {handle' : σ}
    {world' : ω × Ledger}
    (h : engine.recording.compress op input room handle world = (reply, handle', world')) :
    world'.2 = world.2 ++ [⟨.encode op, input, room, reply⟩] := by
  simp only [recording, Prod.mk.injEq] at h
  obtain ⟨rfl, rfl, rfl⟩ := h
  rfl

/-- What a row of calls does to the buffers of a session. -/
structure Moved (calls : Ledger) (w w' : Windows) : Prop where
  src : octets w.src.unread = Ledger.consumed calls ++ octets w'.src.unread
  dst : octets w'.dst.unread = octets w.dst.unread ++ Ledger.produced calls
  pos : w'.dst.pos = w.dst.pos
  capacity : w'.dst.capacity = w.dst.capacity

namespace Moved

theorem refl (w : Windows) : Moved [] w w :=
  ⟨rfl, (List.append_nil _).symm, rfl, rfl⟩

theorem trans {a b : Ledger} {w w' w'' : Windows} (first : Moved a w w') (second : Moved b w' w'') :
    Moved (a ++ b) w w'' where
  src := by rw [first.src, second.src, Ledger.consumed_append, List.append_assoc]
  dst := by rw [second.dst, first.dst, Ledger.produced_append, List.append_assoc]
  pos := second.pos.trans first.pos
  capacity := second.capacity.trans first.capacity

theorem settle (task : Task) (w : Windows) (reply : Reply) :
    Moved [⟨task, w.src.unread, w.dst.unwritten, reply⟩] w (w.settle reply) where
  src := by
    rw [Ledger.consumed_singleton, EngineCall.consumed, Windows.settle,
      CursorBuffer.octets_unread_consume, CursorBuffer.size_unread]
    exact (List.take_append_drop _ _).symm
  dst := by
    rw [Ledger.produced_singleton, EngineCall.produced, Windows.settle,
      CursorBuffer.octets_unread_commit, CursorBuffer.octets_unread_poke,
      CursorBuffer.octets_unwritten_poke, CursorBuffer.size_unwritten]
  pos := rfl
  capacity := w.dst.capacity_poke reply.room

/-- A destination that was empty has what the calls produced at its front, and nothing else. -/
theorem of_empty {calls : Ledger} {src : CursorBuffer} {storage : ByteArray} {w' : Windows}
    (h : Moved calls ⟨src, .empty storage⟩ w') :
    w'.dst.size = (Ledger.produced calls).length ∧ w'.dst.storage.size = storage.size ∧
      (octets w'.dst.storage).take w'.dst.size = Ledger.produced calls := by
  have hpos : w'.dst.pos = 0 := h.pos
  have hread : w'.dst.availableRead = w'.dst.size := by
    rw [CursorBuffer.availableRead, hpos, Nat.sub_zero]
  have hout : octets w'.dst.unread = Ledger.produced calls := by
    rw [h.dst, CursorBuffer.octets_unread_empty, List.nil_append]
  refine ⟨?_, h.capacity, ?_⟩
  · rw [← hread, ← CursorBuffer.length_octets_unread, hout]
  · rw [← hread, ← CursorBuffer.octets_unread_of_pos _ hpos, hout]

end Moved

theorem Windows.length_consumed (task : Task) (w : Windows) (reply : Reply) :
    (EngineCall.consumed ⟨task, w.src.unread, w.dst.unwritten, reply⟩).length = w.consumed reply := by
  rw [EngineCall.consumed, List.length_take, length_octets, CursorBuffer.size_unread, consumed]

theorem Windows.length_produced (task : Task) (w : Windows) (reply : Reply) :
    (EngineCall.produced ⟨task, w.src.unread, w.dst.unwritten, reply⟩).length = w.produced reply := by
  rw [EngineCall.produced, List.length_take, length_octets, size_overlay _ _ _ (Nat.zero_le _),
    CursorBuffer.size_unwritten, produced]

/-- A call whose counts are zero moved nothing. -/
theorem Windows.stalled (task : Task) {w : Windows} {reply : Reply}
    (h : w.consumed reply = 0 ∧ w.produced reply = 0) {calls ledger : Ledger}
    (hledger : ledger = calls ++ [⟨task, w.src.unread, w.dst.unwritten, reply⟩]) :
    ledger.Stalled := by
  refine ⟨⟨task, w.src.unread, w.dst.unwritten, reply⟩, ?_, ?_, ?_⟩
  · rw [hledger, List.getLast?_concat]
  · rw [← List.length_eq_zero_iff, w.length_consumed, h.1]
  · rw [← List.length_eq_zero_iff, w.length_produced, h.2]

/-- A call that fails explains the failure in its own words. -/
theorem Ledger.explains_error (task : Task) {w : Windows} {reply : Reply} {detail : String}
    (h : reply.code = .error detail) {calls ledger : Ledger}
    (hledger : ledger = calls ++ [⟨task, w.src.unread, w.dst.unwritten, reply⟩]) (stuck : String) :
    ledger.Explains stuck (some detail) :=
  .inl ⟨⟨task, w.src.unread, w.dst.unwritten, reply⟩, detail,
    by rw [hledger, List.getLast?_concat], h, rfl⟩

end StreamCodec
