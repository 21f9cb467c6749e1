import StreamCodec.Format.Flow

/-!
# Unpackers

An unpacker is a flow in the middle of its stream, with the bytes that it gave
and how many of them were handed on. It runs ahead of what is asked for, to the
piece that goes beyond the end of a span of plain bytes; so a fault close behind
the bytes asked for is found together with them.
-/
namespace StreamCodec.Format

structure Unpacker where
  flow : Flow Unit
  /-- It runs ahead up to a multiple of this. -/
  span : Nat := 1
  /-- All plain bytes. -/
  history : ByteArray := .empty
  /-- How many of them were handed on. -/
  emitted : Nat := 0

namespace Unpacker

def pending (u : Unpacker) : Nat := u.history.size - u.emitted

/-- Runs on some input and hands on what there is room for. The answer tells where the flow
stopped, how much of the input it took, and the bytes handed on. -/
def run (u : Unpacker) (input : ByteArray) (room : Nat) :
    Flow.Stop × Nat × ByteArray × Unpacker :=
  let { flow, span, history, emitted } := u
  let limit := (emitted + room + span - 1) / span * span
  let { stop, flow, used, history } := flow.advance input limit 0 history
  let next := min (emitted + room) history.size
  (stop, used, history.extract emitted next, { flow, span, history, emitted := next })

end Unpacker

end StreamCodec.Format
