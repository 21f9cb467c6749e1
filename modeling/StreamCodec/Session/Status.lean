import StreamCodec.Engine

/-!
# The state of a session's buffers

A session drives one engine between a source buffer and a destination buffer.
`Windows` pairs the two, and `Windows.settle` moves their cursors by what an
engine's reply claims, clamped to what is there. Whatever the reply, the bytes
unread and the bytes free only ever become fewer.
-/
namespace StreamCodec

/-- How a drive over an engine ended. -/
inductive Status where
  /-- All that was asked for is done and nothing is pending. -/
  | done
  /-- The destination is full. -/
  | destinationTooSmall
  /-- A decoder wants more compressed bytes. -/
  | needMoreData
  /-- The engine met corrupt input, or got stuck. -/
  | invalidData
deriving DecidableEq, Repr

namespace Status

def name : Status → String
  | .done => "Done"
  | .destinationTooSmall => "DestinationTooSmall"
  | .needMoreData => "NeedMoreData"
  | .invalidData => "InvalidData"

end Status

/-- The buffer that an engine reads and the one that it fills. -/
structure Windows where
  src : CursorBuffer
  dst : CursorBuffer

namespace Windows

variable (w : Windows) (reply : Reply)

/-- How many bytes the engine took: its own count, but no more than there were. -/
def consumed : Nat := min (w.src.availableRead - reply.leftIn) w.src.availableRead

/-- How many bytes the engine added: its own count, but no more than there was room. -/
def produced : Nat := min (w.dst.availableWrite - reply.leftOut) w.dst.availableWrite

def settle : Windows where
  src := w.src.consume (w.src.availableRead - reply.leftIn)
  dst := (w.dst.poke reply.room).commit (w.dst.availableWrite - reply.leftOut)

/-- The bytes that a drive may still move. -/
def budget : Nat := w.src.availableRead + w.dst.availableWrite

@[simp] theorem availableRead_settle :
    (w.settle reply).src.availableRead = w.src.availableRead - w.consumed reply := by
  simp only [settle, consumed, CursorBuffer.availableRead_consume]

@[simp] theorem availableWrite_settle :
    (w.settle reply).dst.availableWrite = w.dst.availableWrite - w.produced reply := by
  simp only [settle, produced, CursorBuffer.availableWrite_commit,
    CursorBuffer.availableWrite_poke]

theorem consumed_le : w.consumed reply ≤ w.src.availableRead := Nat.min_le_right ..

theorem produced_le : w.produced reply ≤ w.dst.availableWrite := Nat.min_le_right ..

theorem budget_settle :
    (w.settle reply).budget = w.budget - (w.consumed reply + w.produced reply) := by
  have := w.consumed_le reply
  have := w.produced_le reply
  simp only [budget, availableRead_settle, availableWrite_settle]
  omega

/-- A reply that moves a byte uses up some of the budget. -/
theorem budget_settle_lt (h : ¬(w.consumed reply = 0 ∧ w.produced reply = 0)) :
    (w.settle reply).budget < w.budget := by
  have := w.consumed_le reply
  have := w.produced_le reply
  rw [budget_settle]
  simp only [budget] at *
  omega

end Windows

/-- How many fruitless calls in a row are one too many. -/
def maxStalledCalls : Nat := 2

end StreamCodec
