import StreamCodec.Stream.Sink

/-!
# Sinks that only yield

A pause that wakes its caller at once costs a suspending caller a round and
nothing else, as long as its token is not cancelled. `Sink.unpaused` is the
sink with the pauses, and whatever its journal says of them, left out: to a
caller that no one cancels both are the same sink, as long as it interrupts no
write. The answers to a write agree word for word, except that the two kinds of
caller word the refusal of a sink that takes nothing in their own way.
-/
namespace StreamCodec

def WriteAnswer.isPause : WriteAnswer → Bool
  | .pause _ => true
  | .accept _ | .fail _ => false

def SignalAnswer.isPause : SignalAnswer → Bool
  | .pause _ => true
  | .ok | .fail _ => false

def SinkEvent.isPause : SinkEvent → Bool
  | .writePaused _ | .signalPaused _ => true
  | .wrote .. | .writeFailed _ | .signalled _ | .signalFailed _ | .dropped => false

namespace Cancelled

/-- The token is not cancelled and never will be. -/
def Spares (cancelled : Cancelled) (token : Token) : Prop :=
  token ∉ cancelled ∧ ∀ batch ∈ cancelled.coming, token ∉ batch

theorem Spares.look {cancelled : Cancelled} {token : Token} (h : cancelled.Spares token) :
    cancelled.look.Spares token := by
  obtain ⟨hnow, hcoming⟩ := h
  rcases cancelled with ⟨tokens, _ | ⟨batch, later⟩⟩
  · exact ⟨hnow, hcoming⟩
  · refine ⟨fun hmem => ?_, fun b hb => hcoming b (List.mem_cons_of_mem _ hb)⟩
    rcases List.mem_append.mp hmem with hbatch | htokens
    · exact hcoming batch (List.mem_cons_self ..) hbatch
    · exact hnow htokens

end Cancelled

namespace Sink

/-- The sink without its pauses, under no runtime in particular. -/
def unpaused (s : Sink) : Sink where
  writes := s.writes.filter (!·.isPause)
  flushes := s.flushes.filter (!·.isPause)
  shutdowns := s.shutdowns.filter (!·.isPause)
  data := s.data
  offers := s.offers
  journal := s.journal.filter (!·.isPause)

/-- A sink that never suspends a caller without waking it. -/
structure Wakeful (s : Sink) : Prop where
  writes : ∀ p, .pause p ∈ s.writes → p = .yield
  flushes : ∀ p, .pause p ∈ s.flushes → p = .yield

/-- A sink that interrupts no write. Only the runtime knows what a suspending caller makes of that. -/
def Uninterrupted (s : Sink) : Prop := ∀ e, .fail e ∈ s.writes → e.kind ≠ .interrupted

theorem Uninterrupted.of_suffix {s s' : Sink} (h : s.Uninterrupted)
    (hwrites : s'.writes <:+ s.writes) : s'.Uninterrupted := fun e he => h e (hwrites.mem he)

/-- How a suspending caller and one that is not suspended hear the same answer. -/
inductive Heard : Wait (Except IoError Unit) → Except IoError Unit → Prop
  | same (result : Except IoError Unit) : Heard (.ready result) result
  | nothingTaken : Heard (.ready (.error .zeroWrite)) (.error .wholeBuffer)

example : IoError.zeroWrite.kind = IoError.wholeBuffer.kind := rfl

/-- What an uncancelled operation does to a sink, and to the same sink without its pauses. -/
structure Together (s : Sink) (cancelled : Cancelled)
    (suspending : Wait (Except IoError Unit) × Sink × Cancelled)
    (blocking : Except IoError Unit × Sink) : Prop where
  heard : Heard suspending.1 blocking.1
  same : blocking.2 = suspending.2.1.unpaused
  wakeful : suspending.2.1.Wakeful
  spares : ∀ token, cancelled.Spares token → suspending.2.2.Spares token

theorem spares_yield {cancelled : Cancelled} {token : Token} (h : cancelled.Spares token) :
    (Pause.yield.apply cancelled).look.Spares token := Cancelled.Spares.look h

theorem writeAllRacing_together (token : Token) (answers : List WriteAnswer) (s : Sink)
    (chunk : ByteArray) (cancelled : Cancelled) (hs : cancelled.Spares token)
    (hw : ∀ p, .pause p ∈ answers → p = .yield) (hf : ∀ p, .pause p ∈ s.flushes → p = .yield)
    (hu : ∀ e, .fail e ∈ answers → e.kind ≠ .interrupted) :
    Together s cancelled (writeAllRacing token answers s chunk cancelled)
      (writeAllFrom (answers.filter (!·.isPause)) s.unpaused chunk) := by
  have hrest {answer : WriteAnswer} {rest : List WriteAnswer}
      (h : ∀ p, .pause p ∈ answer :: rest → p = .yield) : ∀ p, .pause p ∈ rest → p = .yield :=
    fun p hp => h p (List.mem_cons_of_mem _ hp)
  have hlater {answer : WriteAnswer} {rest : List WriteAnswer}
      (h : ∀ e, .fail e ∈ answer :: rest → e.kind ≠ .interrupted) :
      ∀ e, .fail e ∈ rest → e.kind ≠ .interrupted :=
    fun e he => h e (List.mem_cons_of_mem _ he)
  fun_induction writeAllRacing token answers s chunk cancelled with
  | case1 answers s chunk cancelled hz =>
    rw [writeAllFrom.eq_def]
    dsimp only
    rw [if_pos hz]
    exact ⟨.same _, rfl, ⟨hw, hf⟩, fun _ h => h⟩
  | case2 s chunk cancelled hz =>
    rw [List.filter_nil, writeAllFrom, if_neg hz]
    exact ⟨.same _, rfl, ⟨hw, hf⟩, fun _ h => h⟩
  | case3 s chunk cancelled hz limit rest count s' hc =>
    rw [List.filter_cons_of_pos rfl, writeAllFrom, if_neg hz]
    dsimp only
    rw [if_pos hc]
    exact ⟨.nothingTaken, rfl, ⟨hrest hw, hf⟩, fun _ h => h⟩
  | case4 s chunk cancelled hz limit rest count s' hc ih =>
    rw [List.filter_cons_of_pos rfl, writeAllFrom, if_neg hz]
    dsimp only
    rw [if_neg hc]
    obtain ⟨heard, same, wakeful, spares⟩ := ih hs (hrest hw) hf (hlater hu)
    exact ⟨heard, same, wakeful, spares⟩
  | case5 s chunk cancelled hz e rest s' hi ih =>
    exact absurd hi.2 (hu e List.mem_cons_self)
  | case6 s chunk cancelled hz e rest s' hi =>
    rw [List.filter_cons_of_pos rfl, writeAllFrom, if_neg hz]
    dsimp only
    rw [if_neg (hu e List.mem_cons_self)]
    exact ⟨.same _, rfl, ⟨hrest hw, hf⟩, fun _ h => h⟩
  | case7 s chunk cancelled hz p rest s' k hwakes =>
    obtain rfl := hw p (List.mem_cons_self ..)
    simp [Pause.wakes] at hwakes
  | case8 s chunk cancelled hz p rest s' k hwakes hcancelled =>
    obtain rfl := hw p (List.mem_cons_self ..)
    exact absurd hcancelled (spares_yield hs).1
  | case9 s chunk cancelled hz p rest s' k hwakes hcancelled ih =>
    obtain rfl := hw p (List.mem_cons_self ..)
    rw [List.filter_cons_of_neg (by simp [WriteAnswer.isPause])]
    obtain ⟨heard, same, wakeful, spares⟩ := ih (spares_yield hs) (hrest hw) hf (hlater hu)
    exact ⟨heard, same, wakeful, fun t ht => spares t (spares_yield ht)⟩

theorem writeAllOr_together {s : Sink} (h : s.Wakeful) (hu : s.Uninterrupted) {token : Token} {cancelled : Cancelled}
    (hs : cancelled.Spares token) (chunk : ByteArray) :
    Together s cancelled (s.writeAllOr token chunk cancelled) (s.unpaused.writeAll chunk) := by
  obtain ⟨heard, same, wakeful, spares⟩ :=
    writeAllRacing_together token s.writes s chunk cancelled.look hs.look h.writes h.flushes hu
  unfold writeAllOr
  dsimp only
  rw [if_neg hs.look.1]
  exact ⟨heard, same, wakeful, fun t ht => spares t ht.look⟩

theorem signalRacing_together (token : Token) (answers : List SignalAnswer) (s : Sink)
    (cancelled : Cancelled) (hs : cancelled.Spares token)
    (hf : ∀ p, .pause p ∈ answers → p = .yield) (hw : ∀ p, .pause p ∈ s.writes → p = .yield) :
    Together s cancelled (signalRacing .flush (some token) answers s cancelled)
      { s.unpaused with flushes := answers.filter (!·.isPause) }.flush := by
  have hrest {answer : SignalAnswer} {rest : List SignalAnswer}
      (h : ∀ p, .pause p ∈ answer :: rest → p = .yield) : ∀ p, .pause p ∈ rest → p = .yield :=
    fun p hp => h p (List.mem_cons_of_mem _ hp)
  generalize hsignal : Signal.flush = signal
  generalize htoken : some token = racing
  fun_induction signalRacing signal racing answers s cancelled with
  | case1 s cancelled =>
    subst hsignal
    exact ⟨.same _, rfl, ⟨hw, hf⟩, fun _ h => h⟩
  | case2 rest s cancelled =>
    subst hsignal
    exact ⟨.same _, rfl, ⟨hw, hrest hf⟩, fun _ h => h⟩
  | case3 e rest s cancelled =>
    subst hsignal
    exact ⟨.same _, rfl, ⟨hw, hrest hf⟩, fun _ h => h⟩
  | case4 p rest s cancelled s' k hwakes =>
    obtain rfl := hf p (List.mem_cons_self ..)
    simp [Pause.wakes] at hwakes
  | case5 p rest s cancelled s' k hwakes hcancelled =>
    subst htoken
    obtain rfl := hf p (List.mem_cons_self ..)
    exact absurd (by simpa using hcancelled) (spares_yield hs).1
  | case6 p rest s cancelled s' k hwakes hcancelled ih =>
    obtain rfl := hf p (List.mem_cons_self ..)
    obtain ⟨heard, same, wakeful, spares⟩ := ih (spares_yield hs) (hrest hf) hw
    exact ⟨heard, same, wakeful, fun t ht => spares t (spares_yield ht)⟩

theorem flush_together {s : Sink} (h : s.Wakeful) {token : Token} {cancelled : Cancelled}
    (hs : cancelled.Spares token) :
    Together s cancelled (s.signalOr .flush (some token) cancelled) s.unpaused.flush := by
  obtain ⟨heard, same, wakeful, spares⟩ :=
    signalRacing_together token s.flushes s cancelled.look hs.look h.flushes h.writes
  unfold signalOr
  dsimp only
  rw [if_neg (by simpa using hs.look.1)]
  exact ⟨heard, same, wakeful, fun t ht => spares t ht.look⟩

end Sink

end StreamCodec
