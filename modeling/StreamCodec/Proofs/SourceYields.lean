import StreamCodec.Proofs.Unpaused
import StreamCodec.Stream.Decompressor

/-!
# Sources that only yield

To a caller that no one cancels a source that yields before its answers is the
same source as the one without its pauses. A fair source is one where nothing
else tells the two kinds of caller apart: it is not interrupted, which one of
them tries again and the other reports, and it does not claim what it did not
deliver, which only one of them can hear.
-/
namespace StreamCodec

def SourceAnswer.isPause : SourceAnswer → Bool
  | .pause _ => true
  | .data _ | .fail _ | .lie _ => false

def SourceEvent.isPause : SourceEvent → Bool
  | .readPaused _ => true
  | .read .. | .readFailed _ | .dropped => false

/-- An answer that both kinds of caller hear alike: a piece, an empty one included, a failure that
is no interruption, or a pause that wakes its caller at once. -/
def SourceAnswer.Fair : SourceAnswer → Prop
  | .data _ => True
  | .fail e => e.kind ≠ .interrupted
  | .lie _ => False
  | .pause p => p = .yield

namespace Source

/-- The source without its pauses. -/
def unpaused (s : Source) : Source where
  piece := s.piece
  answers := s.answers.filter (!·.isPause)
  journal := s.journal.filter (!·.isPause)

def Fair (s : Source) : Prop := ∀ answer ∈ s.answers, answer.Fair

/-- What an uncancelled read does to a source, and a plain read to the same source without its
pauses. -/
structure Together (room : Nat) (cancelled : Cancelled)
    (suspending : Wait (Except IoError Delivery) × Source × Cancelled)
    (blocking : Except IoError Delivery × Source) : Prop where
  heard : suspending.1 = .ready blocking.1
  same : blocking.2 = suspending.2.1.unpaused
  fair : suspending.2.1.Fair
  spares : ∀ token, cancelled.Spares token → suspending.2.2.Spares token
  within : ∀ delivery, blocking.1 = .ok delivery → delivery.reported ≤ room
  uninterrupted : ∀ e, blocking.1 = .error e → e.kind ≠ .interrupted

/-- Both hear the same answer of the same source. -/
theorem Together.alike {room : Nat} {cancelled : Cancelled}
    {suspending : Wait (Except IoError Delivery) × Source × Cancelled}
    {blocking : Except IoError Delivery × Source} (h : Together room cancelled suspending blocking) :
    ∃ answer s cancelled', suspending = (.ready answer, s, cancelled') ∧
      blocking = (answer, s.unpaused) ∧ s.Fair ∧
      (∀ token, cancelled.Spares token → cancelled'.Spares token) ∧
      ∀ delivery, answer = .ok delivery → delivery.reported ≤ room := by
  obtain ⟨wait, s, cancelled'⟩ := suspending
  obtain ⟨answer, s'⟩ := blocking
  obtain ⟨heard, same, fair, spares, within, -⟩ := h
  dsimp only at heard same
  subst heard same
  exact ⟨answer, s, cancelled', rfl, rfl, fair, spares, within⟩

theorem serve_together {s : Source} (hs : s.Fair) (piece : ByteArray) (room : Nat)
    (cancelled : Cancelled) :
    Together room cancelled (.ready (.ok (s.serve piece room).1), (s.serve piece room).2, cancelled)
      (.ok (s.unpaused.serve piece room).1, (s.unpaused.serve piece room).2) where
  heard := rfl
  same := rfl
  fair := hs
  spares := fun _ h => h
  within := by
    rintro _ ⟨⟩
    exact Nat.min_le_right ..
  uninterrupted := nofun

theorem readRacing_together (room : Nat) (token : Token) (answers : List SourceAnswer) (s : Source)
    (cancelled : Cancelled) (hs : cancelled.Spares token) (hf : ∀ answer ∈ answers, answer.Fair) :
    Together room cancelled (readRacing room token answers s cancelled)
      (readFrom room (answers.filter (!·.isPause)) s.unpaused) := by
  fun_induction readRacing room token answers s cancelled with
  | case1 s cancelled =>
    exact ⟨rfl, rfl, nofun, fun _ h => h, by rintro _ ⟨⟩; exact Nat.zero_le _, by rintro _ ⟨⟩⟩
  | case2 piece rest s cancelled hroom =>
    rw [List.filter_cons_of_pos rfl, readFrom, if_pos hroom]
    exact ⟨rfl, rfl, hf, fun _ h => h, by rintro _ ⟨⟩; exact Nat.zero_le _, by rintro _ ⟨⟩⟩
  | case3 piece rest s cancelled hroom delivery s' hserve =>
    have hrest : Fair { s with answers := rest } :=
      fun answer h => hf answer (List.mem_cons_of_mem _ h)
    have h := serve_together hrest piece room cancelled
    rw [hserve] at h
    rw [List.filter_cons_of_pos rfl, readFrom, if_neg hroom]
    exact h
  | case4 e rest s cancelled =>
    rw [List.filter_cons_of_pos rfl, readFrom]
    refine ⟨rfl, rfl, fun answer h => hf answer (List.mem_cons_of_mem _ h), fun _ h => h, by rintro _ ⟨⟩, ?_⟩
    rintro _ ⟨⟩
    exact hf _ List.mem_cons_self
  | case5 excess rest s cancelled => exact (hf _ List.mem_cons_self).elim
  | case6 p rest s cancelled s' k hwakes =>
    obtain rfl : p = .yield := hf _ List.mem_cons_self
    simp [Pause.wakes] at hwakes
  | case7 p rest s cancelled s' k hwakes hcancelled =>
    obtain rfl : p = .yield := hf _ List.mem_cons_self
    exact absurd hcancelled (Sink.spares_yield hs).1
  | case8 p rest s cancelled s' k hwakes hcancelled ih =>
    obtain rfl : p = .yield := hf _ List.mem_cons_self
    rw [List.filter_cons_of_neg (by simp [SourceAnswer.isPause])]
    obtain ⟨heard, same, fair, spares, within, uninterrupted⟩ :=
      ih (Sink.spares_yield hs) fun answer h => hf answer (List.mem_cons_of_mem _ h)
    exact ⟨heard, same, fair, fun t ht => spares t (Sink.spares_yield ht), within, uninterrupted⟩

theorem readOr_together {s : Source} (hs : s.Fair) (room : Nat) {token : Token}
    {cancelled : Cancelled} (hspares : cancelled.Spares token) :
    Together room cancelled (s.readOr room token cancelled) (s.unpaused.read room) := by
  have hlooked {suspending : Wait (Except IoError Delivery) × Source × Cancelled}
      {blocking : Except IoError Delivery × Source}
      (h : Together room cancelled.look suspending blocking) :
      Together room cancelled suspending blocking :=
    ⟨h.heard, h.same, h.fair, fun t ht => h.spares t ht.look, h.within, h.uninterrupted⟩
  have hpiece : s.unpaused.piece = s.piece := rfl
  unfold readOr read
  dsimp only
  rw [if_neg hspares.look.1, hpiece]
  split
  · exact hlooked (readRacing_together room token s.answers s cancelled.look hspares.look hs)
  · exact hlooked (serve_together hs s.piece room cancelled.look)

/-- A fair source is never asked again. -/
theorem Together.patiently {room : Nat} {cancelled : Cancelled} {s : Source}
    {suspending : Wait (Except IoError Delivery) × Source × Cancelled}
    (h : Together room cancelled suspending (s.read room)) :
    Together room cancelled suspending (s.readPatiently room) := by
  have hread : s.readPatiently room = s.read room := by
    rw [readPatiently]
    split
    · next hread => rw [hread]
    · next e s' hread =>
      have huninterrupted := h.uninterrupted e (by rw [hread])
      rw [if_neg huninterrupted, hread]
  rwa [hread]

end Source

end StreamCodec
