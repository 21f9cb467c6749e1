import StreamCodec.Proofs.Queue

/-!
# Histories of a cursor buffer

A buffer may be asked for anything, in any order and with any counts. However
the row of requests goes on, its unread bytes are those of a queue to which the
same was done: what is written or committed arrives at the back, as far as there
is room, and what is read or consumed leaves at the front. A queue knows nothing
of the region, so all that a request needs of it are the free bytes as they stand.

Of the region itself: its size never changes, an empty buffer has all of it free,
and only bytes laid over the free part and a compaction change what is in it.
-/
namespace StreamCodec.CursorBuffer

/-- How a buffer begins. -/
inductive Origin where
  | withCapacity (capacity : Nat)
  | filled (storage : ByteArray)
  | empty (storage : ByteArray)

def Origin.buffer : Origin → CursorBuffer
  | .withCapacity capacity => .withCapacity capacity
  | .filled storage => .filled storage
  | .empty storage => .empty storage

/-- What may be asked of a buffer. Whoever fills the free region in place pokes bytes into it and
commits them afterwards. -/
inductive Request where
  | write (data : ByteArray)
  | read (count : Nat)
  | consume (count : Nat)
  | poke (data : ByteArray)
  | commit (count : Nat)
  | compact
  | clear

/-- The bytes that a request is answered with, and the buffer after it. -/
def serve (b : CursorBuffer) : Request → ByteArray × CursorBuffer
  | .write data => (.empty, b.write data)
  | .read count => b.read count
  | .consume count => (.empty, b.consume count)
  | .poke data => (.empty, b.poke data)
  | .commit count => (.empty, b.commit count)
  | .compact => (.empty, b.compact)
  | .clear => (.empty, b.clear)

def serveAll (b : CursorBuffer) : List Request → CursorBuffer
  | [] => b
  | request :: requests => (b.serve request).2.serveAll requests

namespace Request

/-- The same request to a queue, with the free bytes as they stand: what it is answered with, and
the queue after it. -/
def onQueue (queue free : List UInt8) : Request → List UInt8 × List UInt8
  | .write data => ([], queue ++ (octets data).take free.length)
  | .read count => (queue.take count, queue.drop count)
  | .consume count => ([], queue.drop count)
  | .commit count => ([], queue ++ free.take count)
  | .poke _ | .compact => ([], queue)
  | .clear => ([], [])

/-- The places of the region that a request may change. -/
def Touches (b : CursorBuffer) (place : Nat) : Request → Prop
  | .write data | .poke data => b.size ≤ place ∧ place < b.size + min data.size b.availableWrite
  | .compact => b.pos ≠ 0 ∧ place < b.availableRead
  | .read _ | .consume _ | .commit _ | .clear => False

end Request

/-- The queue after a row of requests. The buffer is there for its free bytes only. -/
def queueAfter (b : CursorBuffer) (queue : List UInt8) : List Request → List UInt8
  | [] => queue
  | request :: requests =>
    (b.serve request).2.queueAfter (request.onQueue queue (octets b.unwritten)).2 requests

variable (b : CursorBuffer)

theorem serve_onQueue (request : Request) :
    (octets (b.serve request).1, octets (b.serve request).2.unread) =
      request.onQueue (octets b.unread) (octets b.unwritten) := by
  have hfree : (octets b.unwritten).length = b.availableWrite := by
    rw [length_octets, size_unwritten]
  cases request with
  | write data => simp only [serve, Request.onQueue, octets_unread_write_take, hfree, octets_empty]
  | read count =>
    simp only [serve, read, Request.onQueue, octets_extract_zero, octets_unread_consume]
  | consume count => simp only [serve, Request.onQueue, octets_unread_consume, octets_empty]
  | poke data => simp only [serve, Request.onQueue, octets_unread_poke, octets_empty]
  | commit count => simp only [serve, Request.onQueue, octets_unread_commit, octets_empty]
  | compact => simp only [serve, Request.onQueue, octets_unread_compact, octets_empty]
  | clear => simp only [serve, Request.onQueue, octets_unread_clear, octets_empty]

/-- Bytes laid over a region change only the places that they are laid over. -/
theorem getElem?_overlay {region patch : ByteArray} {offset place : Nat} (h : offset ≤ region.size)
    (hout : place < offset ∨ offset + min patch.size (region.size - offset) ≤ place) :
    (octets (overlay region offset patch))[place]? = (octets region)[place]? := by
  have hfront : ((octets region).take offset).length = offset := by
    rw [List.length_take, length_octets, Nat.min_eq_left h]
  have hlaid : ((octets patch).take (region.size - offset)).length =
      min patch.size (region.size - offset) := by
    rw [List.length_take, length_octets, Nat.min_comm]
  rw [octets_overlay, List.append_assoc]
  rcases hout with hbefore | hbehind
  · rw [List.getElem?_append_left (by omega), List.getElem?_take_of_lt hbefore]
  · rw [List.getElem?_append_right (by omega), hfront, List.getElem?_append_right (by omega), hlaid,
      List.getElem?_drop]
    rcases Nat.le_total patch.size (region.size - offset) with hfits | hcut
    · congr 1
      omega
    · -- The bytes reach to the end of the region, and the place lies behind it.
      rw [List.getElem?_eq_none (by rw [length_octets]; omega),
        List.getElem?_eq_none (by rw [length_octets]; omega)]

theorem storage_consume (count : Nat) : (b.consume count).storage = b.storage := by
  unfold consume
  split <;> rfl

/-- A request leaves alone what it does not touch. -/
theorem storage_serve {request : Request} {place : Nat} (h : ¬request.Touches b place) :
    (octets (b.serve request).2.storage)[place]? = (octets b.storage)[place]? := by
  have hlaid (data : ByteArray)
      (hout : ¬(b.size ≤ place ∧ place < b.size + min data.size b.availableWrite)) :
      (octets (b.poke data).storage)[place]? = (octets b.storage)[place]? := by
    refine getElem?_overlay b.size_le_capacity ?_
    rw [availableWrite, capacity] at hout
    omega
  cases request with
  | write data => exact hlaid data h
  | poke data => exact hlaid data h
  | read count | consume count =>
    show (octets (b.consume count).storage)[place]? = _
    rw [storage_consume]
  | commit count | clear => rfl
  | compact =>
    show (octets b.compact.storage)[place]? = _
    unfold compact
    split
    · rfl
    · next hpos =>
      refine getElem?_overlay (Nat.zero_le _) (.inr ?_)
      have hread : ¬place < b.availableRead := fun hlt => h ⟨hpos, hlt⟩
      rw [size_unread]
      omega

@[simp] theorem capacity_serve (request : Request) : (b.serve request).2.capacity = b.capacity := by
  cases request with
  | write data => exact b.capacity_poke data
  | read count | consume count => exact b.capacity_consume count
  | poke data => exact b.capacity_poke data
  | commit count | clear => rfl
  | compact => exact b.capacity_compact

theorem pos_compact : b.compact.pos = 0 := by
  unfold compact
  split
  · next h => exact h
  · rfl

theorem compact_compact : b.compact.compact = b.compact := compact_of_pos b.pos_compact

theorem tidy_serve {b : CursorBuffer} (h : b.Tidy) (request : Request) :
    (b.serve request).2.Tidy := by
  cases request with
  | write data => exact tidy_commit (b := b.poke data) h data.size
  | read count | consume count => exact b.tidy_consume count
  | poke data => exact h
  | commit count => exact tidy_commit h count
  | compact => exact tidy_of_pos b.pos_compact
  | clear => exact tidy_of_pos rfl

theorem Origin.tidy (origin : Origin) : origin.buffer.Tidy := by
  cases origin <;> exact tidy_of_pos rfl

theorem tidy_serveAll {b : CursorBuffer} (h : b.Tidy) (requests : List Request) :
    (b.serveAll requests).Tidy := by
  induction requests generalizing b with
  | nil => exact h
  | cons request requests ih => exact ih (tidy_serve h request)

theorem capacity_serveAll (requests : List Request) :
    (b.serveAll requests).capacity = b.capacity := by
  induction requests generalizing b with
  | nil => rfl
  | cons request requests ih => exact (ih _).trans (b.capacity_serve request)

theorem unread_serveAll (requests : List Request) :
    octets (b.serveAll requests).unread = b.queueAfter (octets b.unread) requests := by
  induction requests generalizing b with
  | nil => rfl
  | cons request requests ih =>
    have hstep := congrArg Prod.snd (b.serve_onQueue request)
    dsimp only at hstep
    rw [serveAll, queueAfter, ih, hstep]

theorem all_free {b : CursorBuffer} (h : b.Tidy) (hempty : b.isEmpty = true) :
    b.pos = 0 ∧ b.size = 0 ∧ b.availableWrite = b.capacity := by
  have hpos := h hempty
  have hsize : b.size = 0 := by
    rw [isEmpty, decide_eq_true_eq] at hempty
    omega
  exact ⟨hpos, hsize, by rw [availableWrite, hsize, Nat.sub_zero]⟩

/-- What holds of a buffer that began as `first`, after a row of requests. -/
structure Queues (first : CursorBuffer) (requests : List Request) (b : CursorBuffer) : Prop where
  ordered : b.pos ≤ b.size ∧ b.size ≤ b.capacity
  capacity : b.capacity = first.capacity
  reset : b.isEmpty = true → b.pos = 0 ∧ b.size = 0 ∧ b.availableWrite = b.capacity
  unread : octets b.unread = first.queueAfter (octets first.unread) requests
  serves : ∀ request, (octets (b.serve request).1, octets (b.serve request).2.unread) =
    request.onQueue (octets b.unread) (octets b.unwritten)
  compacts : b.compact.availableWrite = b.capacity - b.availableRead ∧ b.compact.compact = b.compact
  keeps : ∀ request place, ¬request.Touches b place →
    (octets (b.serve request).2.storage)[place]? = (octets b.storage)[place]?

/-- A cursor buffer is a queue, however it begins and whatever it is asked for. -/
theorem histories_queue (origin : Origin) (requests : List Request) :
    Queues origin.buffer requests (origin.buffer.serveAll requests) where
  ordered := ⟨pos_le_size _, size_le_capacity _⟩
  capacity := capacity_serveAll _ requests
  reset := all_free (tidy_serveAll origin.tidy requests)
  unread := unread_serveAll _ requests
  serves := serve_onQueue _
  compacts := ⟨availableWrite_compact _, compact_compact _⟩
  keeps _ _ := storage_serve _

/-- Three bytes into a region of four, two of them read, and the region compacted: the free part
has grown, and takes three of the next four bytes. -/
example : octets ((Origin.withCapacity 4).buffer.serveAll
    [.write ⟨#[1, 2, 3]⟩, .read 2, .compact, .write ⟨#[4, 5, 6, 7]⟩]).unread = [3, 4, 5, 6] := by
  decide

end StreamCodec.CursorBuffer
