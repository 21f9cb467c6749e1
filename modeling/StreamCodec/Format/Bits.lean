import StreamCodec.Format.Flow

/-!
# Bit flows

A flow whose bytes are read bit by bit, the least significant bit of a byte
first. A byte is taken only when no bit is left of the one before.
-/
namespace StreamCodec.Format

/-- The bits of the current byte that were not read yet. -/
structure Bits where
  value : Nat := 0
  count : Nat := 0

abbrev BitFlow := StateT Bits Flow

namespace BitFlow

variable {α : Type}

def fail (reason : String) : BitFlow α := fun _ => .fail reason

def bit : BitFlow Nat := fun held =>
  if held.count = 0 then .take fun b => .done (b.toNat % 2, ⟨b.toNat / 2, 7⟩)
  else .done (held.value % 2, ⟨held.value / 2, held.count - 1⟩)

/-- So many bits as a number, the first bit the least significant. -/
def bits : (n : Nat) → BitFlow Nat
  | 0 => pure 0
  | n + 1 => do
    let low ← bit
    let high ← bits n
    return low + 2 * high

/-- Gives up the rest of the current byte; the answer is its value. -/
def align : BitFlow Nat := fun held => .done (held.value, {})

/-- Runs a bit flow from a byte boundary on; bits that it leaves of its last byte are lost. -/
def run (flow : BitFlow α) : Flow α := flow {} |>.bind fun (a, _) => .done a

end BitFlow

end StreamCodec.Format
