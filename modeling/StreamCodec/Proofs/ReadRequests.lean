import StreamCodec.Proofs.EndOfStream
import StreamCodec.Proofs.ReadLockstep
import StreamCodec.Proofs.SourceRequests

/-!
# What a read asks of its source

A read into some room pulls until it has an answer, and every pull that goes on
takes a byte off what the source has to deliver, or finds the source ended. So a
read asks at most once more than there are bytes, interruptions apart, and
always with room: a pull moves the unread input to the front of the buffer
first, and where that leaves no room it asks for nothing.

`Pulls` is the case analysis of a pull that all this is read off.
-/
namespace StreamCodec

/-- How many bytes a buffer has room for, its unread bytes moved to the front. -/
def CursorBuffer.spare (b : CursorBuffer) : Nat := b.capacity - b.availableRead

theorem CursorBuffer.availableRead_le (b : CursorBuffer) : b.availableRead ≤ b.capacity :=
  Nat.le_trans (Nat.sub_le ..) b.size_le_capacity

theorem CursorBuffer.spare_eq_zero_iff (b : CursorBuffer) :
    b.spare = 0 ↔ b.availableRead = b.capacity := by
  have hle := b.availableRead_le
  unfold spare
  omega

theorem CursorBuffer.spare_compact (b : CursorBuffer) : b.compact.spare = b.spare := by
  rw [spare, capacity_compact, availableRead_compact, spare]

variable {ω ε σ : Type}

namespace DecoderSession

def IsOpen (s : DecoderSession ω σ) : Prop := s.isDisposed = false ∧ s.handle.isSome

/-- A drive keeps the engine open and the size of the source buffer. -/
theorem drive_isOpen (s : DecoderSession ω σ) (hs : s.IsOpen) (handle : σ) (w : Windows)
    (stalled : Nat) :
    (drive s handle w stalled).2.1.IsOpen ∧
      (drive s handle w stalled).2.2.src.capacity = w.src.capacity := by
  fun_induction drive s handle w stalled with
  | case1 => exact ⟨hs, rfl⟩
  | case2 s handle w | case3 s handle w | case4 s handle w | case5 s handle w | case6 s handle w
  | case7 s handle w => exact ⟨⟨hs.1, rfl⟩, w.src.capacity_consume _⟩
  | case8 s handle w | case9 s handle w =>
    rename_i ih
    obtain ⟨hopen, hcapacity⟩ := ih ⟨hs.1, rfl⟩
    exact ⟨hopen, hcapacity.trans (w.src.capacity_consume _)⟩

theorem decompress_isOpen {s s' : DecoderSession ω σ} (hs : s.IsOpen) {w w' : Windows}
    {result : Except CodecError Status} (hrun : s.decompress w = (result, s', w')) :
    (∃ status, result = .ok status) ∧ s'.IsOpen ∧ w'.src.capacity = w.src.capacity := by
  obtain ⟨handle, hh⟩ := Option.isSome_iff_exists.mp hs.2
  simp only [decompress, opened_of_handle hs.1 hh] at hrun
  split at hrun
  · cases hrun
    exact ⟨⟨_, rfl⟩, hs, rfl⟩
  · split at hrun
    · cases hrun
      exact ⟨⟨_, rfl⟩, hs, rfl⟩
    · cases hrun
      exact ⟨⟨_, rfl⟩, drive_isOpen s hs handle w 0⟩

end DecoderSession

namespace Decompressor

/-- The decompressor with its unread input at the front of the buffer. -/
def compacted (d : Decompressor ω σ) : Decompressor ω σ := { d with input := d.input.compact }

/-- What a pull comes to. -/
inductive Pulls (d : Decompressor ω σ) : Except CodecError Unit × Decompressor ω σ → Prop
  | full (room : d.input.spare = 0) : Pulls d (.error d.fullInput, d.compacted)
  | fails {e : IoError} {source : Source} (room : 0 < d.input.spare)
      (read : d.source.readPatiently d.input.spare = (.error e, source)) :
      Pulls d (.error (.io e), { d.compacted with source })
  | overruns {delivery : Delivery} {source : Source} (room : 0 < d.input.spare)
      (read : d.source.readPatiently d.input.spare = (.ok delivery, source))
      (beyond : d.input.spare < delivery.reported) :
      Pulls d (.error (.sourceOverrun delivery.reported d.input.spare), { d.compacted with source })
  | delivers {delivery : Delivery} {source : Source} (room : 0 < d.input.spare)
      (read : d.source.readPatiently d.input.spare = (.ok delivery, source))
      (within : delivery.reported ≤ d.input.spare) :
      Pulls d (.ok (), d.compacted.accept delivery source)

theorem pulls_fill (d : Decompressor ω σ) : d.Pulls d.fill := by
  have hspare : d.input.compact.availableWrite = d.input.spare := d.input.availableWrite_compact
  unfold fill
  simp only [hspare]
  split
  · next hnone => exact .full hnone
  · next hsome =>
    split
    · next e source hread => exact .fails (Nat.pos_of_ne_zero hsome) hread
    · next delivery source hread =>
      split
      · next hover => exact .overruns (Nat.pos_of_ne_zero hsome) hread hover
      · next hwithin => exact .delivers (Nat.pos_of_ne_zero hsome) hread (Nat.le_of_not_lt hwithin)

theorem capacity_accept (d : Decompressor ω σ) (delivery : Delivery) (source : Source) :
    (d.accept delivery source).input.capacity = d.input.capacity := by
  unfold accept
  split
  · rfl
  · exact d.input.capacity_poke _

theorem spare_accept (d : Decompressor ω σ) {delivery : Delivery} (source : Source)
    (h : delivery.reported ≤ d.input.spare) :
    (d.compacted.accept delivery source).input.spare = d.input.spare - delivery.reported := by
  have hroom : delivery.reported ≤ d.compacted.input.availableWrite :=
    h.trans_eq d.input.availableWrite_compact.symm
  have hcapacity : d.compacted.input.capacity = d.input.capacity := d.input.capacity_compact
  have hunread : d.compacted.input.availableRead = d.input.availableRead := d.input.availableRead_compact
  rw [CursorBuffer.spare, capacity_accept, d.compacted.availableRead_accept source hroom, hcapacity,
    hunread, CursorBuffer.spare, Nat.sub_add_eq]

section Capacity

variable {capacity : Nat} {d decoded d' : Decompressor ω σ} {dst dst' : ByteArray}

/-- An open decompressor with a buffer of some size. -/
structure Holds (capacity : Nat) (d : Decompressor ω σ) : Prop where
  session : d.session.IsOpen
  capacity : d.input.capacity = capacity

namespace Holds

theorem answer {result : Except CodecError Nat} (h : Holds capacity d)
    (hround : d.round dst = .inr (result, dst', d')) : Holds capacity d' := by
  obtain ⟨_, session, w, hrun, -, rfl, -⟩ := round_answers hround
  obtain ⟨-, hopen, hcapacity⟩ := DecoderSession.decompress_isOpen h.session hrun
  exact ⟨hopen, hcapacity.trans h.capacity⟩

theorem ask (h : Holds capacity d) (hround : d.round dst = .inl (dst', decoded)) :
    Holds capacity decoded := by
  obtain ⟨session, w, hrun, -, -, -, rfl⟩ := round_asks hround
  obtain ⟨-, hopened, hcapacity⟩ := DecoderSession.decompress_isOpen h.session hrun
  exact ⟨hopened, hcapacity.trans h.capacity⟩

theorem accept (h : Holds capacity d) (delivery : Delivery) (source : Source) :
    Holds capacity (d.accept delivery source) := by
  refine ⟨?_, (d.capacity_accept delivery source).trans h.capacity⟩
  rw [session_accept]
  exact h.session

theorem fill (h : Holds capacity d) : Holds capacity d.fill.2 := by
  have hcompacted : Holds capacity d.compacted := ⟨h.session, d.input.capacity_compact.trans h.capacity⟩
  have hpulls := d.pulls_fill
  generalize d.fill = result at hpulls
  cases hpulls with
  | full => exact hcompacted
  | fails | overruns => exact ⟨hcompacted.session, hcompacted.capacity⟩
  | delivers => exact hcompacted.accept _ _

theorem readSome (h : Holds capacity d) (dst : ByteArray) : Holds capacity (d.readSome dst).2.2 := by
  induction d, dst using readSome_rounds with
  | answers d dst answer hround => exact h.answer hround
  | fails d dst dst' decoded e filled hround hfill =>
    have hfilled := (h.ask hround).fill
    rwa [hfill] at hfilled
  | pulls d dst dst' decoded filled hround hfill ih =>
    have hfilled := (h.ask hround).fill
    rw [hfill] at hfilled
    exact ih hfilled

theorem readNothing (h : Holds capacity d) : Holds capacity d.readNothing.2 := by
  unfold Decompressor.readNothing
  split
  · exact h
  · split
    · exact ⟨h.session, h.capacity⟩
    · split <;> exact ⟨h.session, h.capacity⟩

theorem read (h : Holds capacity d) (dst : ByteArray) : Holds capacity (d.read dst).2.2 := by
  unfold Decompressor.read
  split
  · exact h
  · split
    · exact h.readNothing
    · exact h.readSome dst

theorem afterReads (h : Holds capacity d) (dsts : List ByteArray) :
    Holds capacity (d.afterReads dsts) := by
  induction dsts generalizing d with
  | nil => exact h
  | cons dst dsts ih => exact ih (h.read dst)

end Holds

theorem holds_new {registry : Registry ω ε σ} {world world' : ω} {source : Source} {o : CodecOptions}
    {options : StreamOptions} (hnew : Decompressor.new registry world source o options = (.ok d, world')) :
    Holds options.capacity d := by
  obtain ⟨_, _, _, _, -, -, -, rfl⟩ := created hnew
  exact ⟨⟨rfl, rfl⟩, Array.size_replicate⟩

end Capacity

section Requests

variable {d filled : Decompressor ω σ}

theorem asks_fill (d : Decompressor ω σ) :
    ∃ asked interrupted, d.source.Asks asked interrupted d.fill.2.source ∧
      asked.length ≤ interrupted + 1 := by
  have hpulls := d.pulls_fill
  generalize d.fill = result at hpulls
  cases hpulls with
  | full => exact ⟨[], 0, .refl _, Nat.zero_le _⟩
  | fails room read | overruns room read =>
    obtain ⟨-, asked, interrupted, hasks, hlength⟩ := d.source.asks_readPatiently room
    rw [read] at hasks
    exact ⟨asked, interrupted, hasks, Nat.le_of_eq hlength⟩
  | delivers room read =>
    obtain ⟨-, asked, interrupted, hasks, hlength⟩ := d.source.asks_readPatiently room
    rw [read] at hasks
    refine ⟨asked, interrupted, ?_, Nat.le_of_eq hlength⟩
    rw [source_accept]
    exact hasks

/-- A pull that succeeds finds the source ended, or leaves it less to deliver. -/
theorem spends_fill (h : d.fill = (.ok (), filled)) :
    filled.sourceEnded = true ∨ filled.source.due < d.source.due := by
  have hpulls := d.pulls_fill
  rw [h] at hpulls
  cases hpulls with
  | @delivers delivery source room read within =>
    have hspends := (d.source.asks_readPatiently room).1
    rw [read] at hspends
    rcases Nat.eq_zero_or_pos delivery.reported with hzero | hsome
    · left
      rw [accept, if_pos hzero]
    · right
      rw [source_accept]
      exact hspends hsome

/-- What a read asks of its source: at most once more than there are bytes to be delivered, but for
the requests that were interrupted, and nothing once the source has ended. -/
structure Requests (d d' : Decompressor ω σ) (asked : List SourceEvent) (interrupted : Nat) : Prop where
  asks : d.source.Asks asked interrupted d'.source
  length : asked.length ≤ d.source.due + 1 + interrupted
  ended : d.sourceEnded = true → asked = []

/-- The requests of a read into some room, by induction on its rounds. A pull that goes on leaves less
to deliver, so the rest of the read has one request less to make. -/
theorem requests_readSome (d : Decompressor ω σ) (dst : ByteArray) :
    ∃ asked interrupted, Requests d (d.readSome dst).2.2 asked interrupted := by
  induction d, dst using readSome_rounds with
  | answers d dst answer hround =>
    refine ⟨[], 0, ?_, Nat.zero_le _, fun _ => rfl⟩
    rw [source_round hround]
    exact .refl d.source
  | fails d dst dst' decoded e filled hround hfill =>
    obtain ⟨session, w, -, -, hopen, -, rfl⟩ := round_asks hround
    obtain ⟨asked, interrupted, hasks, hlength⟩ :=
      asks_fill { d with session := session, input := w.src }
    rw [hfill] at hasks
    refine ⟨asked, interrupted, hasks, by omega, fun hended => ?_⟩
    rw [hopen] at hended
    cases hended
  | pulls d dst dst' decoded filled hround hfill ih =>
    obtain ⟨session, w, -, -, hopen, -, rfl⟩ := round_asks hround
    obtain ⟨asked, interrupted, hasks, hlength⟩ :=
      asks_fill { d with session := session, input := w.src }
    obtain ⟨later, interrupted', hrest⟩ := ih
    have hspends := spends_fill hfill
    rw [hfill] at hasks
    refine ⟨later ++ asked, interrupted + interrupted', hasks.trans hrest.asks, ?_, fun hended => ?_⟩
    · rw [List.length_append]
      have hlater := hrest.length
      -- A pull that met the end is the last request, any other has left less to deliver.
      rcases hspends with hended | hless
      · rw [hrest.ended hended, List.length_nil]
        omega
      · have hless' : filled.source.due < d.source.due := hless
        omega
    · rw [hopen] at hended
      cases hended

end Requests

end Decompressor

end StreamCodec
