import Mathlib
import StreamCodec.CursorBuffer

/-!
# The cursor buffer as a queue of octets

Bytes are looked at as plain lists here. The unread bytes of a cursor buffer are
such a list; each operation on the buffer is an operation on the list, and none
of them shows where in the region the bytes lie.
-/
namespace StreamCodec

/-- The bytes of a region as a list. -/
def octets (b : ByteArray) : List UInt8 := b.data.toList

@[simp] theorem length_octets (b : ByteArray) : (octets b).length = b.size := rfl

@[simp] theorem octets_empty : octets ByteArray.empty = [] := rfl

@[simp] theorem octets_append (a b : ByteArray) : octets (a ++ b) = octets a ++ octets b :=
  ByteArray.toList_data_append

theorem octets_extract (b : ByteArray) (start stop : Nat) :
    octets (b.extract start stop) = ((octets b).drop start).take (stop - start) := by
  rw [octets, ByteArray.data_extract, Array.toList_extract, List.extract_eq_take_drop, octets]

theorem octets_extract_zero (b : ByteArray) (stop : Nat) :
    octets (b.extract 0 stop) = (octets b).take stop := by
  rw [octets_extract, List.drop_zero, Nat.sub_zero]

/-- What lies behind a position. -/
theorem octets_extract_size (b : ByteArray) (start : Nat) :
    octets (b.extract start b.size) = (octets b).drop start := by
  rw [octets_extract]
  exact List.take_of_length_le (by rw [List.length_drop, length_octets])

theorem octets_eq_nil_iff (b : ByteArray) : octets b = [] ↔ b.size = 0 := by
  rw [← List.length_eq_zero_iff, length_octets]

theorem octets_overlay (region patch : ByteArray) (offset : Nat) :
    octets (overlay region offset patch) =
      (octets region).take offset ++ (octets patch).take (region.size - offset) ++
        (octets region).drop (offset + patch.size) := by
  simp only [overlay, octets_append, octets_extract_zero, octets_extract_size]

namespace CursorBuffer

variable (b : CursorBuffer)

theorem octets_unread : octets b.unread = ((octets b.storage).drop b.pos).take b.availableRead :=
  octets_extract ..

@[simp] theorem length_octets_unread : (octets b.unread).length = b.availableRead := by
  rw [length_octets, size_unread]

theorem isEmpty_iff : b.isEmpty = true ↔ b.availableRead = 0 := by
  have := b.pos_le_size
  simp only [isEmpty, decide_eq_true_eq, availableRead]
  omega

/-- Where nothing was consumed the unread bytes lie at the front. -/
theorem octets_unread_of_pos (h : b.pos = 0) :
    octets b.unread = (octets b.storage).take b.availableRead := by
  rw [octets_unread, h, List.drop_zero]

/-- Where nothing was consumed every byte of the region is unread or free. -/
theorem availableRead_add_availableWrite (h : b.pos = 0) :
    b.availableRead + b.availableWrite = b.capacity := by
  have hle : b.size ≤ b.capacity := b.size_le_capacity
  rw [availableRead, availableWrite, h]
  omega

theorem octets_unread_eq_nil_iff : octets b.unread = [] ↔ b.isEmpty = true := by
  rw [isEmpty_iff, octets_eq_nil_iff, size_unread]

@[simp] theorem octets_unread_filled (data : ByteArray) : octets (filled data).unread = octets data :=
  octets_extract_size data 0

@[simp] theorem octets_unread_empty (storage : ByteArray) : octets (empty storage).unread = [] := by
  rw [octets_unread_eq_nil_iff, isEmpty_iff]
  rfl

@[simp] theorem octets_unread_clear : octets b.clear.unread = [] := by
  rw [octets_unread_eq_nil_iff, isEmpty_iff]
  rfl

@[simp] theorem capacity_commit (count : Nat) : (b.commit count).capacity = b.capacity := rfl

@[simp] theorem capacity_withCapacity (n : Nat) : (withCapacity n).capacity = n :=
  Array.size_replicate

theorem octets_unread_consume (count : Nat) :
    octets (b.consume count).unread = (octets b.unread).drop count := by
  have hlen := b.length_octets_unread
  simp only [consume]
  split
  · next hall =>
    have hcount : b.availableRead ≤ count := by omega
    rw [List.drop_of_length_le (by omega), octets_unread_eq_nil_iff, isEmpty_iff]
    rfl
  · next hpart =>
    have hcount : min count b.availableRead = count := by omega
    simp only [octets_unread, hcount]
    rw [List.drop_take, List.drop_drop]
    congr 1
    simp only [availableRead] at hcount ⊢
    omega

/-- Laying bytes over the free region leaves the unread bytes alone. -/
theorem octets_unread_poke (data : ByteArray) : octets (b.poke data).unread = octets b.unread := by
  have hpos := b.pos_le_size
  have hsize := b.size_le_capacity
  have hlen : ((octets b.storage).take b.size).length = b.size := by
    rw [List.length_take, length_octets]; omega
  simp only [octets_unread, poke, octets_overlay, availableRead]
  rw [List.append_assoc, List.drop_append_of_le_length (by omega),
    List.take_append_of_le_length (by rw [List.length_drop]; omega), List.drop_take, List.take_take,
    Nat.min_self]

theorem octets_unwritten_poke (data : ByteArray) :
    octets (b.poke data).unwritten = octets (overlay b.unwritten 0 data) := by
  have hsize := b.size_le_capacity
  have hlen : ((octets b.storage).take b.size).length = b.size := by
    rw [List.length_take, length_octets]; omega
  have hcap : (b.poke data).storage.size = b.storage.size := b.capacity_poke data
  have hfree : octets b.unwritten = (octets b.storage).drop b.size := octets_extract_size ..
  have hroom : b.unwritten.size = b.storage.size - b.size := b.size_unwritten
  have hpoked : octets (b.poke data).unwritten = (octets (b.poke data).storage).drop b.size :=
    octets_extract_size ..
  rw [hpoked, poke, octets_overlay, octets_overlay, List.append_assoc,
    List.drop_left' hlen, hfree, hroom]
  simp only [List.take_zero, List.nil_append, Nat.sub_zero, Nat.zero_add, List.drop_drop]

/-- Committing free bytes appends them as they stand. -/
theorem octets_unread_commit (count : Nat) :
    octets (b.commit count).unread = octets b.unread ++ (octets b.unwritten).take count := by
  have hpos := b.pos_le_size
  have hsize := b.size_le_capacity
  have hfree : octets b.unwritten = (octets b.storage).drop b.size := octets_extract_size ..
  simp only [octets_unread, commit, availableRead, availableWrite, capacity, hfree]
  rw [show b.size + min count (b.storage.size - b.size) - b.pos =
      (b.size - b.pos) + min count (b.storage.size - b.size) by omega,
    List.take_add, List.drop_drop, show b.pos + (b.size - b.pos) = b.size by omega]
  congr 1
  rcases Nat.le_total count (b.storage.size - b.size) with h | h
  · rw [Nat.min_eq_left h]
  · have hlen : ((octets b.storage).drop b.size).length = b.storage.size - b.size := by
      rw [List.length_drop, length_octets]
    rw [Nat.min_eq_right h, List.take_of_length_le (by omega), List.take_of_length_le (by omega)]

theorem octets_unread_write_take (data : ByteArray) :
    octets (b.write data).unread = octets b.unread ++ (octets data).take b.availableWrite := by
  have hfront : (octets (overlay b.unwritten 0 data)).take data.size =
      (octets data).take b.availableWrite := by
    rw [octets_overlay, List.take_zero, List.nil_append, Nat.sub_zero, size_unwritten, Nat.zero_add]
    have hlen : ((octets data).take b.availableWrite).length = min b.availableWrite data.size := by
      rw [List.length_take, length_octets]
    rcases Nat.le_total data.size b.availableWrite with h | h
    · exact List.take_left' (by rw [hlen, Nat.min_eq_right h])
    · -- Nothing of the free region is left to be seen behind the bytes.
      have hnone : (octets b.unwritten).drop data.size = [] := by
        rw [List.drop_eq_nil_iff, length_octets, size_unwritten]
        exact h
      rw [hnone, List.append_nil, List.take_of_length_le (by omega)]
  rw [write, octets_unread_commit, octets_unread_poke, octets_unwritten_poke, hfront]

theorem octets_unread_write (data : ByteArray) (h : data.size ≤ b.availableWrite) :
    octets (b.write data).unread = octets b.unread ++ octets data := by
  rw [octets_unread_write_take, List.take_of_length_le (l := octets data) h]

@[simp] theorem octets_unread_compact : octets b.compact.unread = octets b.unread := by
  have hlen := b.length_octets_unread
  have hsize := b.size_le_capacity
  simp only [compact]
  split
  · rfl
  · have hfit : b.unread.size ≤ b.storage.size := by
      rw [size_unread, availableRead]; omega
    rw [octets_unread, availableRead]
    simp only [octets_overlay, List.drop_zero, List.take_zero, List.nil_append, Nat.sub_zero]
    rw [List.take_of_length_le (l := octets b.unread) (by rw [length_octets]; omega)]
    exact List.take_left' hlen

@[simp] theorem capacity_compact : b.compact.capacity = b.capacity := by
  simp only [compact]
  split
  · rfl
  · exact size_overlay _ _ _ (Nat.zero_le _)

theorem availableWrite_compact : b.compact.availableWrite = b.capacity - b.availableRead := by
  have hcap := b.capacity_compact
  simp only [availableWrite, hcap]
  simp only [compact]
  split
  · next h => simp only [availableRead, h, Nat.sub_zero]
  · rfl

theorem availableRead_compact : b.compact.availableRead = b.availableRead := by
  rw [← length_octets_unread, octets_unread_compact, length_octets_unread]

/-- An empty buffer has its cursors at the front. -/
def Tidy : Prop := b.isEmpty = true → b.pos = 0

theorem tidy_consume (count : Nat) : (b.consume count).Tidy := by
  unfold Tidy consume
  split
  · exact fun _ => rfl
  · next h =>
    intro hempty
    simp only [isEmpty, decide_eq_true_eq] at hempty
    have := b.pos_le_size
    simp only [availableRead] at h hempty
    omega

theorem tidy_commit {b : CursorBuffer} (h : b.Tidy) (count : Nat) : (b.commit count).Tidy := by
  intro hempty
  rw [isEmpty_iff] at hempty
  have hread : b.availableRead = 0 := by
    simp only [availableRead, commit] at hempty ⊢
    omega
  exact h (b.isEmpty_iff.mpr hread)

theorem tidy_of_pos {b : CursorBuffer} (h : b.pos = 0) : b.Tidy := fun _ => h

theorem compact_of_pos {b : CursorBuffer} (h : b.pos = 0) : b.compact = b := if_pos h

theorem consume_of_isEmpty {b : CursorBuffer} (hempty : b.isEmpty = true) (htidy : b.Tidy)
    (count : Nat) : b.consume count = b := by
  have hread := b.isEmpty_iff.mp hempty
  have hpos := htidy hempty
  rcases b with ⟨storage, pos, size, hle, hfit⟩
  obtain rfl : pos = 0 := hpos
  obtain rfl : size = 0 := by simpa [availableRead] using hread
  rw [consume, dif_pos]
  rw [hread, Nat.min_zero]

/-- Laying bytes over a whole region that leave it as it was. -/
theorem poke_empty {storage patch : ByteArray} (h : overlay storage 0 patch = storage) :
    (empty storage).poke patch = empty storage := by
  simp only [poke, empty, h]

theorem commit_of_full {count : Nat} (h : count = 0) : b.commit count = b := by
  simp only [commit, h, Nat.zero_min, Nat.add_zero]

theorem unwritten_empty (storage : ByteArray) : (empty storage).unwritten = storage :=
  ByteArray.extract_zero_size

end CursorBuffer

end StreamCodec
