import StreamCodec.Proofs.SourceSupply

/-!
# What a source brings before its first empty answer

A transfer reads a source into one chunk, over and over, up to the first read that
brings nothing. `Source.heard` are the bytes that stand in the chunk after each of
these reads, as many as the source reported. With a truthful source they are the
bytes of its pieces up to the first empty one, whatever the chunk holds and however
often the source is interrupted.
-/
namespace StreamCodec

/-- The bytes of prepared answers up to the first that brings none. -/
def SourceAnswer.untilEmpty : List SourceAnswer → List UInt8
  | [] => []
  | .data piece :: rest => if piece.size = 0 then [] else octets piece ++ untilEmpty rest
  | .lie _ :: _ => []
  | .fail _ :: rest | .pause _ :: rest => untilEmpty rest

namespace Source

/-- The bytes that are still to come up to the first empty answer. -/
def untilEmpty (s : Source) : List UInt8 := octets s.piece ++ SourceAnswer.untilEmpty s.answers

/-- The bytes that reads into one chunk bring, up to the first read that brings none. -/
def heard (s : Source) (chunk : ByteArray) : List UInt8 :=
  match _h : s.readPatiently chunk.size with
  | (.error _, _) => []
  | (.ok delivery, left) =>
    if _hz : delivery.reported = 0 then []
    else if _ho : chunk.size < delivery.reported then []
    else
      let filled := overlay chunk 0 delivery.bytes
      octets (filled.extract 0 delivery.reported) ++ left.heard filled
termination_by s.weight
decreasing_by
  have hw := weight_readPatiently s chunk.size
  rw [_h] at hw
  exact hw.2 delivery rfl (by omega) (by omega)

variable {s left : Source} {chunk : ByteArray} {delivery : Delivery}

theorem heard_of_empty (hread : s.readPatiently chunk.size = (.ok delivery, left))
    (hz : delivery.reported = 0) : s.heard chunk = [] := by
  rw [heard]
  split
  · rfl
  · next hread' =>
    obtain ⟨hok, -⟩ := Prod.mk.inj (hread'.symm.trans hread)
    obtain rfl := Except.ok.inj hok
    exact dif_pos hz

theorem heard_of_piece (hread : s.readPatiently chunk.size = (.ok delivery, left))
    (hz : ¬delivery.reported = 0) (ho : ¬chunk.size < delivery.reported) :
    s.heard chunk = octets ((overlay chunk 0 delivery.bytes).extract 0 delivery.reported) ++
      left.heard (overlay chunk 0 delivery.bytes) := by
  rw [heard]
  split
  · next hread' => cases hread'.symm.trans hread
  · next hread' =>
    obtain ⟨hok, rfl⟩ := Prod.mk.inj (hread'.symm.trans hread)
    obtain rfl := Except.ok.inj hok
    exact (dif_neg hz).trans (dif_neg ho)

/-- What a read does to the bytes up to the first empty answer: it brings the front of them, or, if
it brings nothing, there are none. A failed read leaves them. -/
structure Brings (text : List UInt8) (room : Nat) (result : Except IoError Delivery) (s : Source) :
    Prop where
  bytes : ∀ delivery, result = .ok delivery → delivery.reported ≠ 0 → delivery.reported ≤ room →
    text = octets delivery.bytes ++ s.untilEmpty
  none : ∀ delivery, result = .ok delivery → delivery.reported = 0 → text = []
  failed : ∀ e, result = .error e → text = s.untilEmpty

theorem brings_serve (s : Source) (piece : ByteArray) {room : Nat} (hroom : 0 < room) :
    Brings (if piece.size = 0 then [] else octets piece ++ SourceAnswer.untilEmpty s.answers) room
      (.ok (s.serve piece room).1) (s.serve piece room).2 where
  bytes := by
    rintro _ ⟨⟩ hcount -
    have hpiece : ¬piece.size = 0 := by
      intro hempty
      apply hcount
      show min piece.size room = 0
      omega
    rw [if_neg hpiece, untilEmpty, serve, octets_extract_zero, octets_extract_size,
      ← List.append_assoc, List.take_append_drop]
  none := by
    rintro _ ⟨⟩ hcount
    have hempty : min piece.size room = 0 := hcount
    exact if_pos (by omega)
  failed := nofun

theorem brings_readFrom {room : Nat} (hroom : 0 < room) (answers : List SourceAnswer) (s : Source)
    (hp : s.piece.size = 0) (hs : ∀ answer ∈ answers, answer ≠ .lie 0) :
    Brings (SourceAnswer.untilEmpty answers) room (readFrom room answers s).1
      (readFrom room answers s).2 := by
  have hnil : octets s.piece = [] := (octets_eq_nil_iff _).mpr hp
  fun_induction readFrom room answers s with
  | case1 s =>
    refine ⟨?_, fun _ _ _ => rfl, ?_⟩
    · rintro _ ⟨⟩ hcount
      exact absurd rfl hcount
    · rintro _ ⟨⟩
  | case2 piece rest s => omega
  | case3 piece rest s hroom' delivery s' hserve =>
    have h := brings_serve { s with answers := rest } piece hroom
    rwa [hserve] at h
  | case4 e rest s =>
    refine ⟨?_, ?_, ?_⟩
    · rintro _ ⟨⟩
    · rintro _ ⟨⟩
    · rintro _ ⟨⟩
      rw [SourceAnswer.untilEmpty, untilEmpty, note, hnil]
      rfl
  | case5 excess rest s =>
    have hexcess : excess ≠ 0 := fun h => hs _ List.mem_cons_self (by rw [h])
    refine ⟨?_, fun _ _ _ => rfl, ?_⟩
    · rintro _ ⟨⟩ - hle
      have : room + excess ≤ room := hle
      omega
    · rintro _ ⟨⟩
  | case6 p rest s ih => exact ih hp (fun answer h => hs answer (List.mem_cons_of_mem _ h)) hnil

theorem brings_read (hs : s.Truthful) {room : Nat} (hroom : 0 < room) :
    Brings s.untilEmpty room (s.read room).1 (s.read room).2 := by
  unfold read
  split
  · next hp =>
    rw [untilEmpty, (octets_eq_nil_iff _).mpr hp, List.nil_append]
    exact brings_readFrom hroom s.answers s hp hs
  · next hp =>
    have h := brings_serve s s.piece hroom
    rwa [if_neg hp] at h

theorem brings_readPatiently (hs : s.Truthful) {room : Nat} (hroom : 0 < room) :
    Brings s.untilEmpty room (s.readPatiently room).1 (s.readPatiently room).2 := by
  fun_induction readPatiently s room with
  | case1 s delivery s' h =>
    have hread := brings_read hs hroom
    rwa [h] at hread
  | case2 s e s' h hi ih =>
    have hread := brings_read hs hroom
    have hhands := hands_read hs room
    rw [h] at hread hhands
    rw [hread.failed e rfl]
    exact ih hhands.truthful
  | case3 s e s' h =>
    have hread := brings_read hs hroom
    rwa [h] at hread

end Source

end StreamCodec
