import StreamCodec.Proofs.Queue
import StreamCodec.Stream.Decompressor

/-!
# Reading a source in pieces

A plain source only ever delivers, and never nothing before its end. What it
still holds is one list of bytes; a read takes a front part of it, however the
bytes are split into pieces, and none only where nothing is left.
-/
namespace StreamCodec

def SourceAnswer.bytes : SourceAnswer → List UInt8
  | .data piece => octets piece
  | _ => []

namespace Source

/-- A source that delivers its bytes in pieces that are not empty. -/
def Plain (s : Source) : Prop := ∀ answer ∈ s.answers, ∃ piece, answer = .data piece ∧ 0 < piece.size

/-- All bytes that are still to come. -/
def remaining (s : Source) : List UInt8 := octets s.piece ++ s.answers.flatMap SourceAnswer.bytes

/-- What a read of a plain source delivers: a front part of what remains, and nothing only if
nothing remains or there is no room. -/
structure Delivers (s : Source) (room : Nat) (delivery : Delivery) (s' : Source) : Prop where
  le : delivery.reported ≤ room
  bytes : octets delivery.bytes = s.remaining.take delivery.reported
  size : delivery.bytes.size = delivery.reported
  remaining : s'.remaining = s.remaining.drop delivery.reported
  plain : s'.Plain
  none : delivery.reported = 0 → 0 < room → s.remaining = []

theorem delivers_serve {s held : Source} {piece : ByteArray} (room : Nat)
    (hheld : held.remaining = octets piece ++ s.answers.flatMap SourceAnswer.bytes)
    (hpiece : 0 < piece.size) (hs : s.Plain) :
    held.Delivers room (s.serve piece room).1 (s.serve piece room).2 := by
  have hle : min piece.size room ≤ (octets piece).length := by
    rw [length_octets]
    exact Nat.min_le_left ..
  refine ⟨Nat.min_le_right .., ?_, ?_, ?_, hs, fun hz hroom => ?_⟩
  · rw [hheld, serve, octets_extract_zero, List.take_append_of_le_length hle]
  · rw [serve, ByteArray.size_extract]
    dsimp only
    omega
  · rw [hheld, remaining, serve, octets_extract_size, List.drop_append_of_le_length hle]
  · rw [serve] at hz
    dsimp only at hz
    omega

theorem read_delivers {s : Source} (hs : s.Plain) (room : Nat) :
    ∃ delivery s', s.read room = (.ok delivery, s') ∧ s.Delivers room delivery s' := by
  unfold read
  by_cases hpiece : s.piece.size = 0
  · have hnil : octets s.piece = [] := (octets_eq_nil_iff _).mpr hpiece
    rw [if_pos hpiece]
    cases hanswers : s.answers with
    | nil =>
      have hnone : s.remaining = [] := by
        rw [remaining, hnil, hanswers]
        rfl
      refine ⟨_, _, rfl, Nat.zero_le _, rfl, rfl, ?_, nofun, fun _ _ => hnone⟩
      rw [hnone]
      exact (List.append_nil _).trans hnil
    | cons answer rest =>
      obtain ⟨piece, rfl, hpos⟩ := hs answer (by simp [hanswers])
      have hremaining : s.remaining = octets piece ++ rest.flatMap SourceAnswer.bytes := by
        rw [remaining, hnil, hanswers]
        rfl
      rw [readFrom]
      split
      · next hroom =>
        refine ⟨_, _, rfl, Nat.zero_le _, rfl, rfl, ?_, ?_, fun _ h => by omega⟩
        · rw [List.drop_zero, remaining, remaining, hanswers]
          rfl
        · rw [Plain, ← hanswers]
          exact hs
      · refine ⟨_, _, rfl, delivers_serve room hremaining hpos fun a ha => hs a ?_⟩
        rw [hanswers]
        exact List.mem_cons_of_mem _ ha
  · rw [if_neg hpiece]
    exact ⟨_, _, rfl, delivers_serve room rfl (Nat.pos_of_ne_zero hpiece) hs⟩

/-- A plain source is never interrupted. -/
theorem readPatiently_delivers {s : Source} (hs : s.Plain) (room : Nat) :
    ∃ delivery s', s.readPatiently room = (.ok delivery, s') ∧ s.Delivers room delivery s' := by
  obtain ⟨delivery, s', hread, hdelivers⟩ := read_delivers hs room
  refine ⟨delivery, s', ?_, hdelivers⟩
  rw [readPatiently]
  split
  · next h => rw [← hread, h]
  · next h =>
    rw [hread] at h
    cases h

end Source

end StreamCodec
