/-!
# The cursor buffer

A byte region of fixed capacity with two cursors. The bytes between `pos` and
`size` are unread, those from `size` on are free:

```text
0          pos             size            capacity
|  consumed  |    unread     |   unwritten    |
```

Every count is cut to what is there, so a short count is the only sign of a
full or an empty buffer. Consuming the last unread byte sends both cursors
back to zero; only `compact` moves bytes.
-/
namespace StreamCodec

/-- A region with `patch` laid over it from `offset` on; what would stick out is cut off. -/
def overlay (region : ByteArray) (offset : Nat) (patch : ByteArray) : ByteArray :=
  region.extract 0 offset ++ patch.extract 0 (region.size - offset) ++
    region.extract (offset + patch.size) region.size

theorem size_overlay (region patch : ByteArray) (offset : Nat) (h : offset ≤ region.size) :
    (overlay region offset patch).size = region.size := by
  simp only [overlay, ByteArray.size_append, ByteArray.size_extract]
  omega

/-- A byte region with a read cursor and a write cursor. -/
structure CursorBuffer where
  storage : ByteArray
  /-- The next unread byte. -/
  pos : Nat
  /-- One past the last written byte. -/
  size : Nat
  pos_le_size : pos ≤ size
  size_le_capacity : size ≤ storage.size

namespace CursorBuffer

/-- Storage whose bytes are all unread. -/
def filled (storage : ByteArray) : CursorBuffer :=
  ⟨storage, 0, storage.size, Nat.zero_le _, Nat.le_refl _⟩

/-- Storage that is all free. -/
def empty (storage : ByteArray) : CursorBuffer :=
  ⟨storage, 0, 0, Nat.le_refl _, Nat.zero_le _⟩

/-- A free region of zeros. -/
def withCapacity (capacity : Nat) : CursorBuffer :=
  empty ⟨Array.replicate capacity 0⟩

variable (b : CursorBuffer)

def capacity : Nat := b.storage.size

def availableRead : Nat := b.size - b.pos

def availableWrite : Nat := b.capacity - b.size

def isEmpty : Bool := b.pos = b.size

def isFull : Bool := b.size = b.capacity

def unread : ByteArray := b.storage.extract b.pos b.size

/-- The free bytes, as they stand. -/
def unwritten : ByteArray := b.storage.extract b.size b.capacity

/-- Drops unread bytes from the front, at most all of them. -/
def consume (count : Nat) : CursorBuffer :=
  if h : min count b.availableRead = b.availableRead then
    ⟨b.storage, 0, 0, Nat.le_refl _, Nat.zero_le _⟩
  else
    ⟨b.storage, b.pos + min count b.availableRead, b.size,
      by have := b.pos_le_size; simp only [availableRead] at *; omega, b.size_le_capacity⟩

/-- Takes unread bytes off the front, at most all of them. -/
def read (count : Nat) : ByteArray × CursorBuffer :=
  (b.unread.extract 0 count, b.consume count)

/-- Lays bytes over the free region; no cursor moves. -/
def poke (data : ByteArray) : CursorBuffer :=
  { b with
    storage := overlay b.storage b.size data
    size_le_capacity := by rw [size_overlay _ _ _ b.size_le_capacity]; exact b.size_le_capacity }

/-- Declares free bytes written, at most all of them. -/
def commit (count : Nat) : CursorBuffer :=
  { b with
    size := b.size + min count b.availableWrite
    pos_le_size := Nat.le_trans b.pos_le_size (Nat.le_add_right ..)
    size_le_capacity := by
      have := b.size_le_capacity; simp only [availableWrite, capacity] at *; omega }

/-- Appends bytes, as many as fit. -/
def write (data : ByteArray) : CursorBuffer := (b.poke data).commit data.size

/-- Moves the unread bytes to the front of the region. -/
def compact : CursorBuffer :=
  if b.pos = 0 then b
  else
    { storage := overlay b.storage 0 b.unread
      pos := 0
      size := b.availableRead
      pos_le_size := Nat.zero_le _
      size_le_capacity := by
        rw [size_overlay _ _ _ (Nat.zero_le _)]
        exact Nat.le_trans (Nat.sub_le ..) b.size_le_capacity }

def clear : CursorBuffer := ⟨b.storage, 0, 0, Nat.le_refl _, Nat.zero_le _⟩

@[simp] theorem capacity_consume (n : Nat) : (b.consume n).capacity = b.capacity := by
  simp only [consume]; split <;> rfl

@[simp] theorem capacity_poke (data : ByteArray) : (b.poke data).capacity = b.capacity :=
  size_overlay _ _ _ b.size_le_capacity

@[simp] theorem availableWrite_poke (data : ByteArray) :
    (b.poke data).availableWrite = b.availableWrite := by
  simp only [availableWrite, capacity_poke]; rfl

@[simp] theorem availableRead_consume (n : Nat) :
    (b.consume n).availableRead = b.availableRead - min n b.availableRead := by
  simp only [consume]
  split
  · simp only [availableRead] at *; omega
  · simp only [availableRead] at *; omega

@[simp] theorem availableWrite_commit (n : Nat) :
    (b.commit n).availableWrite = b.availableWrite - min n b.availableWrite := by
  simp only [commit, availableWrite, capacity]; omega

theorem size_unread : b.unread.size = b.availableRead := by
  have := b.size_le_capacity
  simp only [unread, ByteArray.size_extract, availableRead]; omega

theorem size_unwritten : b.unwritten.size = b.availableWrite := by
  simp only [unwritten, ByteArray.size_extract, availableWrite, capacity]; omega

end CursorBuffer

end StreamCodec
