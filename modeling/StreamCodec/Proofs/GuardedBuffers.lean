import StreamCodec.Session.Status

/-!
# Cursor buffers with guards

Here a cursor is a number that nothing keeps in place, and an operation that would
leave its window has no result: `minus` is a difference that must not be negative,
`slice` takes bytes that must be there. A guarded buffer carries no proof of being
in order. On one that is in order, every operation has a result, and it is that of
the cursor buffer.
-/
namespace StreamCodec

namespace Guarded

/-- A difference of two counts, if it is not negative. -/
def minus (a b : Nat) : Option Nat := if b ≤ a then some (a - b) else none

/-- The bytes of a region from `start` up to `stop`, if the region reaches that far. -/
def slice (region : ByteArray) (start stop : Nat) : Option ByteArray :=
  if start ≤ stop ∧ stop ≤ region.size then some (region.extract start stop) else none

theorem minus_of_le {a b : Nat} (h : b ≤ a) : minus a b = some (a - b) := if_pos h

theorem slice_of_le {region : ByteArray} {start stop : Nat} (h : start ≤ stop)
    (h' : stop ≤ region.size) : slice region start stop = some (region.extract start stop) :=
  if_pos ⟨h, h'⟩

@[simp] theorem slice_all (region : ByteArray) : slice region 0 region.size = some region := by
  rw [slice_of_le (Nat.zero_le _) (Nat.le_refl _), ByteArray.extract_zero_size]

/-- A region with two cursors that may stand anywhere. -/
structure Buffer where
  storage : ByteArray
  pos : Nat
  size : Nat

namespace Buffer

variable (b : Buffer)

/-- Whether the cursors are in order. -/
def Fits : Prop := b.pos ≤ b.size ∧ b.size ≤ b.storage.size

instance : Decidable b.Fits := inferInstanceAs (Decidable (_ ∧ _))

def isEmpty : Bool := b.pos = b.size

def availableRead : Option Nat := minus b.size b.pos

def availableWrite : Option Nat := minus b.storage.size b.size

def unread : Option ByteArray := slice b.storage b.pos b.size

def unwritten : Option ByteArray := slice b.storage b.size b.storage.size

/-- Drops unread bytes from the front, at most all of them; tells how many. -/
def consume (count : Nat) : Option (Nat × Buffer) := do
  let count := min count (← b.availableRead)
  let pos := b.pos + count
  return (count, if pos = b.size then { b with pos := 0, size := 0 } else { b with pos })

/-- Declares free bytes written, at most all of them; tells how many. -/
def commit (count : Nat) : Option (Nat × Buffer) := do
  let count := min count (← b.availableWrite)
  return (count, { b with size := b.size + count })

/-- Lays bytes over the free region. -/
def poke (data : ByteArray) : Buffer := { b with storage := overlay b.storage b.size data }

end Buffer

/-- The two buffers of a session. -/
structure Windows where
  src : Buffer
  dst : Buffer

/-- Whether the cursors of both are in order. -/
def Windows.Fits (w : Windows) : Prop := w.src.Fits ∧ w.dst.Fits

instance (w : Windows) : Decidable w.Fits := inferInstanceAs (Decidable (_ ∧ _))

end Guarded

namespace CursorBuffer

variable (b : CursorBuffer)

/-- The buffer without the proof that its cursors are in order. -/
def bare : Guarded.Buffer := ⟨b.storage, b.pos, b.size⟩

theorem fits_bare : b.bare.Fits := ⟨b.pos_le_size, b.size_le_capacity⟩

@[simp] theorem isEmpty_bare : b.bare.isEmpty = b.isEmpty := rfl

@[simp] theorem availableRead_bare : b.bare.availableRead = some b.availableRead :=
  Guarded.minus_of_le b.pos_le_size

@[simp] theorem availableWrite_bare : b.bare.availableWrite = some b.availableWrite :=
  Guarded.minus_of_le b.size_le_capacity

@[simp] theorem unread_bare : b.bare.unread = some b.unread :=
  Guarded.slice_of_le b.pos_le_size b.size_le_capacity

@[simp] theorem unwritten_bare : b.bare.unwritten = some b.unwritten :=
  Guarded.slice_of_le b.size_le_capacity (Nat.le_refl _)

@[simp] theorem poke_bare (data : ByteArray) : b.bare.poke data = (b.poke data).bare := rfl

@[simp] theorem commit_bare (count : Nat) :
    b.bare.commit count = some (min count b.availableWrite, (b.commit count).bare) := by
  rw [Guarded.Buffer.commit, availableWrite_bare]
  rfl

@[simp] theorem consume_bare (count : Nat) :
    b.bare.consume count = some (min count b.availableRead, (b.consume count).bare) := by
  rw [Guarded.Buffer.consume, availableRead_bare]
  show some (min count b.availableRead, if b.pos + min count b.availableRead = b.size then _ else _) = _
  congr 2
  have hle := b.pos_le_size
  unfold consume
  by_cases hall : min count b.availableRead = b.availableRead
  · rw [dif_pos hall, if_pos (by rw [hall, availableRead]; omega)]
    rfl
  · have hpart : b.pos + min count b.availableRead ≠ b.size := by
      rw [availableRead] at hall ⊢
      omega
    rw [dif_neg hall, if_neg hpart]
    rfl

end CursorBuffer

namespace Windows

variable (w : Windows) (reply : Reply)

def bare : Guarded.Windows := ⟨w.src.bare, w.dst.bare⟩

theorem fits_bare : w.bare.Fits := ⟨w.src.fits_bare, w.dst.fits_bare⟩

@[simp] theorem src_bare : w.bare.src = w.src.bare := rfl

@[simp] theorem dst_bare : w.bare.dst = w.dst.bare := rfl

end Windows

end StreamCodec
