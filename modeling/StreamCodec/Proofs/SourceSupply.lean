import StreamCodec.Proofs.SourceReads

/-!
# What a source delivers

A source delivers the bytes that it reports within the room of a read. How many
they are stands in its journal. Which bytes they are is told by the source as
well, unless it claims to have filled the room and wrote nothing there: what a
truthful source delivers is taken off the front of its remaining bytes, in order,
and neither failures nor claims beyond the room take anything.
-/
namespace StreamCodec

/-- How many bytes were delivered within the room. -/
def SourceEvent.delivered : SourceEvent → Nat
  | .read room reported => if reported ≤ room then reported else 0
  | .readFailed _ | .readPaused _ | .dropped => 0

namespace Source

/-- How many bytes the source delivered within the room of a read, by its journal. -/
def delivered (s : Source) : Nat := (s.journal.map SourceEvent.delivered).sum

/-- What a read that answers adds to the journal, in bytes delivered. -/
def within (room : Nat) : Except IoError Delivery → Nat
  | .ok delivery => if delivery.reported ≤ room then delivery.reported else 0
  | .error _ => 0

/-- The bytes that a read handed over within the room. -/
def handed (room : Nat) : Except IoError Delivery → List UInt8
  | .ok delivery => if delivery.reported ≤ room then octets delivery.bytes else []
  | .error _ => []

/-- A source that never claims to have filled the room without writing there. -/
def Truthful (s : Source) : Prop := ∀ answer ∈ s.answers, answer ≠ .lie 0

theorem delivered_serve (s : Source) (piece : ByteArray) (room : Nat) :
    (s.serve piece room).2.delivered = s.delivered + within room (.ok (s.serve piece room).1) := by
  simp only [serve, delivered, within, List.map_cons, List.sum_cons, SourceEvent.delivered]
  exact Nat.add_comm _ _

theorem delivered_readFrom (room : Nat) (answers : List SourceAnswer) (s : Source) :
    (readFrom room answers s).2.delivered = s.delivered + within room (readFrom room answers s).1 := by
  fun_induction readFrom room answers s with
  | case1 => simp [delivered, within, note, SourceEvent.delivered]
  | case2 => simp [delivered, within, note, SourceEvent.delivered]
  | case3 piece rest s hroom delivery s' hserve =>
    have := delivered_serve { s with answers := rest } piece room
    rw [hserve] at this
    exact this
  | case4 => simp [delivered, within, note, SourceEvent.delivered]
  | case5 => simp [delivered, within, note, SourceEvent.delivered, Nat.add_comm]
  | case6 _ _ _ ih => exact ih

theorem delivered_read (s : Source) (room : Nat) :
    (s.read room).2.delivered = s.delivered + within room (s.read room).1 := by
  unfold read
  split
  · exact delivered_readFrom room s.answers s
  · exact delivered_serve s s.piece room

theorem within_zero (result : Except IoError Delivery) : within 0 result = 0 := by
  rcases result with e | delivery
  · rfl
  · dsimp only [within]
    split <;> omega

/-- Interruptions deliver nothing. -/
theorem delivered_readPatiently (s : Source) (room : Nat) :
    (s.readPatiently room).2.delivered = s.delivered + within room (s.readPatiently room).1 := by
  fun_induction readPatiently s room with
  | case1 s delivery s' h =>
    have := delivered_read s room
    rwa [h] at this
  | case2 s e s' h hi ih =>
    have := delivered_read s room
    rw [h] at this
    rw [ih, this]
    rfl
  | case3 s e s' h =>
    have := delivered_read s room
    rwa [h] at this

/-- What a read of a truthful source that holds `held` does: the bytes it hands over are the front
of them, and the others remain. -/
structure Hands (room : Nat) (held : List UInt8) (result : Except IoError Delivery) (s : Source) :
    Prop where
  bytes : held = handed room result ++ s.remaining
  size : ∀ delivery, result = .ok delivery → delivery.reported ≤ room →
    delivery.bytes.size = delivery.reported
  truthful : s.Truthful

theorem hands_serve {s : Source} (hs : s.Truthful) (piece : ByteArray) (room : Nat) :
    Hands room (octets piece ++ s.answers.flatMap SourceAnswer.bytes)
      (.ok (s.serve piece room).1) (s.serve piece room).2 where
  bytes := by
    have hle : (s.serve piece room).1.reported ≤ room := Nat.min_le_right ..
    rw [handed, if_pos hle, remaining, serve, octets_extract_zero, octets_extract_size,
      ← List.append_assoc, List.take_append_drop]
  size := by
    intro delivery h _
    obtain rfl := Except.ok.inj h
    rw [serve, ByteArray.size_extract]
    dsimp only
    omega
  truthful := hs

theorem hands_readFrom (room : Nat) (answers : List SourceAnswer) (s : Source)
    (hp : s.piece.size = 0) (hs : ∀ answer ∈ answers, answer ≠ .lie 0) :
    Hands room (answers.flatMap SourceAnswer.bytes) (readFrom room answers s).1
      (readFrom room answers s).2 := by
  have hnil : octets s.piece = [] := (octets_eq_nil_iff _).mpr hp
  fun_induction readFrom room answers s with
  | case1 s => exact ⟨by rw [remaining, note, hnil]; rfl, by rintro _ ⟨⟩ _; rfl, hs⟩
  | case2 piece rest s =>
    refine ⟨?_, by rintro _ ⟨⟩ _; rfl, hs⟩
    rw [remaining, note, hnil]
    rfl
  | case3 piece rest s hroom delivery s' hserve =>
    have hrest : Source.Truthful { s with answers := rest } :=
      fun answer h => hs answer (List.mem_cons_of_mem _ h)
    have h := hands_serve hrest piece room
    rwa [hserve] at h
  | case4 e rest s =>
    refine ⟨?_, by rintro _ ⟨⟩ _, fun answer h => hs answer (List.mem_cons_of_mem _ h)⟩
    rw [remaining, note, hnil]
    rfl
  | case5 excess rest s =>
    have hexcess : ¬room + excess ≤ room := by
      have hzero : excess ≠ 0 := fun h => hs _ List.mem_cons_self (by rw [h])
      omega
    refine ⟨?_, ?_, fun answer h => hs answer (List.mem_cons_of_mem _ h)⟩
    · rw [handed, if_neg hexcess, remaining, note, hnil]
      rfl
    · rintro _ ⟨⟩ h
      exact absurd h hexcess
  | case6 p rest s ih => exact ih hp (fun answer h => hs answer (List.mem_cons_of_mem _ h)) hnil

theorem hands_read {s : Source} (hs : s.Truthful) (room : Nat) :
    Hands room s.remaining (s.read room).1 (s.read room).2 := by
  unfold read
  split
  · next hp =>
    rw [remaining, (octets_eq_nil_iff _).mpr hp, List.nil_append]
    exact hands_readFrom room s.answers s hp hs
  · exact hands_serve hs s.piece room

theorem remaining_read_zero {s : Source} (hs : s.Truthful) :
    s.remaining = (s.read 0).2.remaining := by
  obtain ⟨hbytes, hsize, -⟩ := hands_read hs 0
  have hnone : handed 0 (s.read 0).1 = [] := by
    rcases hread : (s.read 0).1 with e | delivery
    · rfl
    · dsimp only [handed]
      split
      · next hle =>
        rw [octets_eq_nil_iff, hsize delivery hread hle]
        omega
      · rfl
  rw [hbytes, hnone, List.nil_append]

theorem hands_readPatiently {s : Source} (hs : s.Truthful) (room : Nat) :
    Hands room s.remaining (s.readPatiently room).1 (s.readPatiently room).2 := by
  fun_induction readPatiently s room with
  | case1 s delivery s' h =>
    have := hands_read hs room
    rwa [h] at this
  | case2 s e s' h hi ih =>
    have hfirst := hands_read hs room
    rw [h] at hfirst
    rw [hfirst.bytes]
    exact ih hfirst.truthful
  | case3 s e s' h =>
    have := hands_read hs room
    rwa [h] at this

end Source

end StreamCodec
