import StreamCodec.Proofs.SourceFailures

/-!
# What is asked of a source

A pull asks a source once, and once more for every interruption. `Source.Asks`
says what a row of requests leaves behind: an entry in the journal for each of
them, with the room that it gave.

How many requests there can be is bounded by what the source has to deliver
before it answers zero, since no request that delivers a byte leaves that as it
was. `Source.Fills` is the opposite question: whether a source has enough for a
room of some size, asked until the room is filled.
-/
namespace StreamCodec

namespace SourceAnswer

/-- An answer that a read into some room does not show to its caller. -/
def interrupts : SourceAnswer → Bool
  | .fail e => e.kind = .interrupted
  | .data _ | .lie _ | .pause _ => false

/-- How many bytes a row of answers delivers before one of them is zero. A claim counts for the
one byte that it claims at least. -/
def due : List SourceAnswer → Nat
  | [] => 0
  | .data piece :: rest => if piece.size = 0 then 0 else piece.size + due rest
  | .lie _ :: rest => 1 + due rest
  | .fail _ :: rest | .pause _ :: rest => due rest

end SourceAnswer

/-- The room of a request. -/
def SourceEvent.room : SourceEvent → Nat
  | .read room _ | .readFailed room | .readPaused room => room
  | .dropped => 0

namespace Source

/-- How many bytes a source has to deliver before it answers zero. -/
def due (s : Source) : Nat := s.piece.size + SourceAnswer.due s.answers

/-- How many interruptions are still to come. -/
def interruptions (s : Source) : Nat := s.faults SourceAnswer.interrupts

/-- The source after a row of requests, the last first, of which so many were interrupted. Each of
them had room. -/
structure Asks (s : Source) (asked : List SourceEvent) (interrupted : Nat) (s' : Source) : Prop where
  journal : s'.journal = asked ++ s.journal
  interruptions : s.interruptions = interrupted + s'.interruptions
  room : ∀ event ∈ asked, 0 < event.room

namespace Asks

variable {s s' s'' : Source} {asked asked' : List SourceEvent} {interrupted interrupted' : Nat}

theorem refl (s : Source) : Asks s [] 0 s :=
  ⟨rfl, (Nat.zero_add _).symm, fun _ h => absurd h List.not_mem_nil⟩

theorem trans (first : Asks s asked interrupted s') (second : Asks s' asked' interrupted' s'') :
    Asks s (asked' ++ asked) (interrupted + interrupted') s'' where
  journal := by rw [second.journal, first.journal, List.append_assoc]
  interruptions := by rw [first.interruptions, second.interruptions, Nat.add_assoc]
  room := by
    intro event h
    rcases List.mem_append.mp h with h | h
    · exact second.room event h
    · exact first.room event h

end Asks

variable {room : Nat}

/-- Whether a read was interrupted, as a number. -/
def interruption : Except IoError Delivery → Nat
  | .error e => if e.kind = .interrupted then 1 else 0
  | .ok _ => 0

/-- A read that delivers something leaves less to be delivered, and one that fails no more. -/
def Spends (s : Source) (result : Except IoError Delivery) (s' : Source) : Prop :=
  match result with
  | .ok delivery => 0 < delivery.reported → s'.due < s.due
  | .error _ => s'.due ≤ s.due

theorem Spends.of_le {s s₁ s' : Source} {result : Except IoError Delivery}
    (h : s₁.Spends result s') (hs : s₁.due ≤ s.due) : s.Spends result s' := by
  rcases result with e | delivery
  · exact Nat.le_trans h hs
  · intro hsome
    exact Nat.lt_of_lt_of_le (h hsome) hs

theorem asks_note {s : Source} {answers : List SourceAnswer} {event : SourceEvent}
    {interrupted : Nat} (hroom : 0 < event.room)
    (hinterrupted : s.interruptions =
      interrupted + Source.interruptions { s with answers := answers }) :
    Asks s [event] interrupted ({ s with answers := answers }.note event) where
  journal := rfl
  interruptions := hinterrupted
  room := by
    intro event' h
    rw [List.mem_singleton.mp h]
    exact hroom

theorem interruptions_cons {answer : SourceAnswer} (h : answer.interrupts = false) (s : Source)
    (rest : List SourceAnswer) :
    Source.interruptions { s with answers := answer :: rest } =
      0 + Source.interruptions { s with answers := rest } := by
  rw [interruptions, interruptions, faults, faults, List.countP_cons_of_neg (by simp [h]),
    Nat.zero_add]

/-- One read is one request. -/
theorem asks_readFrom (hroom : 0 < room) (answers : List SourceAnswer) (s : Source) :
    ∃ event, Asks { s with answers } [event] (interruption (readFrom room answers s).1)
      (readFrom room answers s).2 := by
  fun_induction readFrom room answers s with
  | case1 s => exact ⟨_, asks_note hroom (Nat.zero_add _).symm⟩
  | case2 piece rest s hnone => omega
  | case3 piece rest s hsome delivery s' hserve =>
    obtain ⟨rfl, rfl⟩ := Prod.mk.inj hserve
    refine ⟨.read room (min piece.size room), rfl, interruptions_cons rfl s rest, ?_⟩
    intro event h
    rw [List.mem_singleton.mp h]
    exact hroom
  | case4 e rest s =>
    refine ⟨_, asks_note hroom ?_⟩
    by_cases he : e.kind = .interrupted
    · have hcount : (SourceAnswer.fail e).interrupts = true := decide_eq_true he
      rw [interruption, if_pos he, interruptions, interruptions, faults, faults,
        List.countP_cons_of_pos hcount, Nat.add_comm]
    · have hnone : (SourceAnswer.fail e).interrupts = false := decide_eq_false he
      rw [interruption, if_neg he]
      exact interruptions_cons hnone s rest
  | case5 excess rest s => exact ⟨_, asks_note hroom (interruptions_cons rfl s rest)⟩
  | case6 p rest s ih =>
    obtain ⟨event, h⟩ := ih
    have hpause : (SourceAnswer.pause p).interrupts = false := rfl
    have hrest := (interruptions_cons hpause s rest).trans (Nat.zero_add _)
    exact ⟨event, h.journal, hrest.trans h.interruptions, h.room⟩

theorem asks_read (hroom : 0 < room) (s : Source) :
    ∃ event, Asks s [event] (interruption (s.read room).1) (s.read room).2 := by
  unfold read
  split
  · exact asks_readFrom hroom s.answers s
  · refine ⟨.read room (min s.piece.size room), rfl, (Nat.zero_add _).symm, ?_⟩
    intro event h
    rw [List.mem_singleton.mp h]
    exact hroom

theorem spends_readFrom (hroom : 0 < room) (answers : List SourceAnswer) (s : Source)
    (hpiece : s.piece.size = 0) :
    Spends { s with answers } (readFrom room answers s).1 (readFrom room answers s).2 := by
  fun_induction readFrom room answers s with
  | case1 s =>
    intro h
    exact absurd h (Nat.lt_irrefl 0)
  | case2 piece rest s hnone => omega
  | case3 piece rest s hsome delivery s' hserve =>
    obtain ⟨rfl, rfl⟩ := Prod.mk.inj hserve
    intro hsome
    have hcount : 0 < min piece.size room := hsome
    have hfull : piece.size ≠ 0 := by omega
    simp only [due, SourceAnswer.due, ByteArray.size_extract, if_neg hfull]
    omega
  | case4 e rest s => exact Nat.le_refl _
  | case5 excess rest s =>
    intro _
    simp only [due, SourceAnswer.due, note]
    omega
  | case6 p rest s ih => exact ih hpiece

theorem spends_read (hroom : 0 < room) (s : Source) :
    s.Spends (s.read room).1 (s.read room).2 := by
  unfold read
  split
  · next hpiece => exact spends_readFrom hroom s.answers s hpiece
  · intro hsome
    have hcount : 0 < min s.piece.size room := hsome
    simp only [serve, due, ByteArray.size_extract]
    omega

theorem asks_readPatiently (hroom : 0 < room) (s : Source) :
    s.Spends (s.readPatiently room).1 (s.readPatiently room).2 ∧
      ∃ asked interrupted, Asks s asked interrupted (s.readPatiently room).2 ∧
        asked.length = interrupted + 1 := by
  fun_induction readPatiently s room with
  | case1 s delivery s' h =>
    obtain ⟨event, hasks⟩ := s.asks_read hroom
    have hspends := s.spends_read hroom
    rw [h] at hasks hspends
    exact ⟨hspends, [event], 0, hasks, rfl⟩
  | case2 s e s' h hi ih =>
    obtain ⟨event, hasks⟩ := s.asks_read hroom
    have hspends := s.spends_read hroom
    obtain ⟨hrest, asked, interrupted, hasked, hlength⟩ := ih
    rw [h, interruption, if_pos hi] at hasks
    rw [h] at hspends
    refine ⟨hrest.of_le hspends, asked ++ [event], 1 + interrupted, hasks.trans hasked, ?_⟩
    rw [List.length_append, List.length_singleton]
    omega
  | case3 s e s' h hi =>
    obtain ⟨event, hasks⟩ := s.asks_read hroom
    have hspends := s.spends_read hroom
    rw [h, interruption, if_neg hi] at hasks
    rw [h] at hspends
    exact ⟨hspends, [event], 0, hasks, rfl⟩

/-- A source that delivers so many bytes before it ends or fails, if it is asked for as many as are
still missing each time. -/
inductive Fills : Source → Nat → Prop
  | full (s : Source) : Fills s 0
  | more {s s' : Source} {room : Nat} {delivery : Delivery}
      (read : s.readPatiently room = (.ok delivery, s')) (some : 0 < delivery.reported)
      (within : delivery.reported ≤ room) (rest : Fills s' (room - delivery.reported)) :
      Fills s room

namespace Fills

variable {s s' : Source} {delivery : Delivery}

/-- A source that fails first does not fill the room. -/
theorem not_of_error {e : IoError} (hroom : 0 < room)
    (hread : s.readPatiently room = (.error e, s')) : ¬s.Fills room := by
  intro h
  cases h with
  | full => omega
  | more hread' =>
    rw [hread] at hread'
    cases hread'

/-- A source that delivers fills the room if it delivers something that fits and the source behind
it fills what is left. -/
theorem of_ok_iff (hroom : 0 < room) (hread : s.readPatiently room = (.ok delivery, s')) :
    s.Fills room ↔
      0 < delivery.reported ∧ delivery.reported ≤ room ∧ s'.Fills (room - delivery.reported) := by
  constructor
  · intro h
    cases h with
    | full => omega
    | more hread' some within rest =>
      rw [hread] at hread'
      cases hread'
      exact ⟨some, within, rest⟩
  · rintro ⟨some, within, rest⟩
    exact .more hread some within rest

end Fills

end Source

end StreamCodec
