import StreamCodec.Proofs.SinkWrites

/-!
# Writing whole chunks while racing a token

A racing write gives the sink a front part of the chunk as well, the whole of it
exactly where the write succeeds. Besides failing it may be cancelled, before the
sink is asked or after a pause, or be given up for good in a pause. Neither of
the two says how much of the chunk was taken by then.

An unfailing sink never makes a racing write fail, whatever the runtime, and its
answers are only used up: what is left of them is unfailing as well. `cutAfter`
turns a sink into one that parks for good after some more answers: what it was
given by then is what the sink itself was given at that moment.
-/
namespace StreamCodec

namespace Sink

theorem silent_writePaused (offered : Nat) : Silent (.writePaused offered) :=
  fun left events => chunkSizes.eq_3 left (.writePaused offered) events (by simp)

/-- The sink, were it to park for good after so many more answers to writes. -/
def cutAfter (s : Sink) (answers : Nat) : Sink :=
  { s with writes := s.writes.take answers ++ [.pause .forever] }

/-- What a racing write of a chunk does: a front part of the chunk is taken, the whole exactly
where it succeeds. -/
structure TakesFront (s : Sink) (chunk : ByteArray) (wait : Wait (Except IoError Unit)) (s' : Sink)
    (taken : Nat) : Prop where
  data : octets s'.data = octets s.data ++ (octets chunk).take taken
  whole : wait = .ready (.ok ()) → taken = chunk.size
  part : wait ≠ .ready (.ok ()) → taken < chunk.size

theorem writeAllRacing_takes (token : Token) (answers : List WriteAnswer) (s : Sink)
    (chunk : ByteArray) (cancelled : Cancelled) :
    ∃ taken, TakesFront s chunk (writeAllRacing token answers s chunk cancelled).1
      (writeAllRacing token answers s chunk cancelled).2.1 taken := by
  fun_induction writeAllRacing token answers s chunk cancelled with
  | case1 answers s chunk cancelled hz =>
    exact ⟨0, by simp, fun _ => hz.symm, fun h => absurd rfl h⟩
  | case2 s chunk cancelled hz =>
    exact ⟨chunk.size, octets_data_take _ _ _, fun _ => rfl, fun h => absurd rfl h⟩
  | case3 s chunk cancelled hz limit rest count s' hc =>
    refine ⟨count, octets_data_take _ _ _, by rintro ⟨⟩, fun _ => ?_⟩
    rw [hc]
    exact Nat.pos_of_ne_zero hz
  | case4 s chunk cancelled hz limit rest count s' hc ih =>
    obtain ⟨more, hdata, hwhole, hpart⟩ := ih
    have hle : count ≤ chunk.size := taken_le limit chunk
    have hsize : (chunk.extract count chunk.size).size = chunk.size - count := by
      rw [ByteArray.size_extract, Nat.min_self]
    refine ⟨count + more, ?_, fun hok => ?_, fun hno => ?_⟩
    · rw [hdata, octets_data_take, octets_extract_size, List.append_assoc, List.take_add]
    · have := hwhole hok
      omega
    · have := hpart hno
      omega
  | case5 s chunk cancelled hz e rest s' hi ih =>
    obtain ⟨taken, h⟩ := ih
    exact ⟨taken, h.data, h.whole, h.part⟩
  | case6 s chunk cancelled hz e rest s' hi =>
    exact ⟨0, by simp [s', refuse], by rintro ⟨⟩, fun _ => Nat.pos_of_ne_zero hz⟩
  | case7 s chunk cancelled hz p rest s' k hwakes =>
    exact ⟨0, by simp [s', note], by rintro ⟨⟩, fun _ => Nat.pos_of_ne_zero hz⟩
  | case8 s chunk cancelled hz p rest s' k hwakes hcancelled =>
    exact ⟨0, by simp [s', note], by rintro ⟨⟩, fun _ => Nat.pos_of_ne_zero hz⟩
  | case9 s chunk cancelled hz p rest s' k hwakes hcancelled ih =>
    obtain ⟨taken, h⟩ := ih
    exact ⟨taken, h.data, h.whole, h.part⟩

/-- A write that is cancelled before the sink is asked leaves the sink alone. -/
theorem writeAllOr_takes (s : Sink) (token : Token) {chunk : ByteArray} (hchunk : chunk.size ≠ 0)
    (cancelled : Cancelled) :
    ∃ taken, TakesFront s chunk (s.writeAllOr token chunk cancelled).1
      (s.writeAllOr token chunk cancelled).2.1 taken := by
  unfold writeAllOr
  dsimp only
  split
  · exact ⟨0, by simp, nofun, fun _ => Nat.pos_of_ne_zero hchunk⟩
  · exact writeAllRacing_takes token s.writes s chunk cancelled.look

theorem writeAllRacing_writes (token : Token) (answers : List WriteAnswer) (s : Sink)
    (chunk : ByteArray) (cancelled : Cancelled) :
    (writeAllRacing token answers s chunk cancelled).2.1.writes <:+ answers := by
  fun_induction writeAllRacing token answers s chunk cancelled with
  | case1 | case2 => exact List.suffix_rfl
  | case3 | case6 | case7 | case8 => exact List.suffix_cons ..
  | case4 _ _ _ _ _ _ _ _ _ ih | case5 _ _ _ _ _ _ _ _ ih | case9 _ _ _ _ _ _ _ _ _ _ ih =>
    exact ih.trans (List.suffix_cons ..)

theorem writeAllOr_writes (s : Sink) (token : Token) (chunk : ByteArray) (cancelled : Cancelled) :
    (s.writeAllOr token chunk cancelled).2.1.writes <:+ s.writes := by
  unfold writeAllOr
  dsimp only
  split
  · exact List.suffix_rfl
  · exact writeAllRacing_writes token s.writes s chunk cancelled.look

theorem Unfailing.of_suffix {s s' : Sink} (h : s.Unfailing) (hwrites : s'.writes <:+ s.writes) :
    s'.Unfailing := fun answer hmem => h answer (hwrites.mem hmem)

/-- How a racing write of an unfailing sink may end: the chunk was taken whole, or its caller was
cancelled or given up. -/
def RacesOn (s : Sink) (chunk : ByteArray)
    (result : Wait (Except IoError Unit) × Sink × Cancelled) : Prop :=
  (result.1 = .ready (.ok ()) ∧ ∃ events, TakesWhole s chunk (.ok (), result.2.1) events) ∨
    result.1 = .cancelled ∨ result.1 = .abandoned

theorem writeAllRacing_unfailing (token : Token) (answers : List WriteAnswer) (s : Sink)
    (chunk : ByteArray) (cancelled : Cancelled)
    (hs : ∀ answer ∈ answers, answer.isUnfailing = true) :
    RacesOn s chunk (writeAllRacing token answers s chunk cancelled) := by
  have hrest {answer : WriteAnswer} {rest : List WriteAnswer}
      (h : ∀ a ∈ answer :: rest, a.isUnfailing = true) : ∀ a ∈ rest, a.isUnfailing = true :=
    fun a ha => h a (List.mem_cons_of_mem _ ha)
  have hnever {e : IoError} {rest : List WriteAnswer} :
      ¬∀ a ∈ .fail e :: rest, a.isUnfailing = true := fun h =>
    Bool.false_ne_true (h _ List.mem_cons_self)
  fun_induction writeAllRacing token answers s chunk cancelled with
  | case1 answers s chunk cancelled hz =>
    refine .inl ⟨rfl, [], rfl, ?_, fun a ha => WriteAnswer.isSteady_of_isUnfailing (hs a ha), rfl, rfl,
      fun more => by rw [hz, List.nil_append], fun h => absurd hz h⟩
    rw [(octets_eq_nil_iff chunk).mpr hz, List.append_nil]
  | case2 s chunk cancelled hz =>
    refine .inl ⟨rfl, [.wrote chunk.size chunk.size], rfl, ?_, nofun, rfl, rfl, fun more => ?_,
      fun _ more => ?_⟩
    · rw [octets_data_take, ← length_octets, List.take_length]
    · simp [chunkSizes, hz]
    · simp [chunkSizes]
  | case3 s chunk cancelled hz limit rest count s' hc =>
    have hlimit := hs _ (List.mem_cons_self ..)
    cases limit with
    | none => exact absurd hc hz
    | some n =>
      simp only [WriteAnswer.isUnfailing, decide_eq_true_eq] at hlimit
      simp only [count, taken, Option.elim_some] at hc
      omega
  | case4 s chunk cancelled hz limit rest count s' hc ih =>
    rcases ih (hrest hs) with ⟨hok, events, h⟩ | hended
    · have hmore : ∀ more, chunkSizes (chunk.size - count) (events ++ more) = chunkSizes 0 more := by
        intro more
        have := h.rest more
        rwa [ByteArray.size_extract, Nat.min_self] at this
      refine .inl ⟨hok, .wrote chunk.size count :: events, rfl, ?_, h.steady, h.flushes, ?_,
        fun more => ?_, fun _ more => ?_⟩
      · rw [h.data, octets_data_take, octets_extract_size, List.append_assoc, List.take_append_drop]
      · rw [h.journal]
        simp [s', Sink.take]
      · rw [List.cons_append, chunkSizes, if_neg hz, hmore]
      · rw [List.cons_append, chunkSizes, if_pos rfl, hmore]
    · exact .inr hended
  | case5 | case6 => exact absurd hs hnever
  | case7 => exact .inr (.inr rfl)
  | case8 => exact .inr (.inl rfl)
  | case9 s chunk cancelled hz p rest s' k hwakes hcancelled ih =>
    rcases ih (hrest hs) with ⟨hok, events, h⟩ | hended
    · have hsilent := silent_writePaused chunk.size
      refine .inl ⟨hok, .writePaused chunk.size :: events, rfl, h.data, h.steady, h.flushes, ?_,
        fun more => ?_, fun hne more => ?_⟩
      · rw [h.journal]
        simp [s', note]
      · rw [List.cons_append, hsilent, h.rest]
      · rw [List.cons_append, hsilent, h.fresh hne]
    · exact .inr hended

theorem writeAllOr_unfailing {s : Sink} (hs : s.Unfailing) (token : Token) (chunk : ByteArray)
    (cancelled : Cancelled) : RacesOn s chunk (s.writeAllOr token chunk cancelled) := by
  unfold writeAllOr
  dsimp only
  split
  · exact .inr (.inl rfl)
  · exact writeAllRacing_unfailing token s.writes s chunk cancelled.look hs

theorem signalRacing_keeps (signal : Signal) (token : Option Token) (answers : List SignalAnswer)
    (s : Sink) (cancelled : Cancelled) :
    (signalRacing signal token answers s cancelled).2.1.data = s.data ∧
      (signalRacing signal token answers s cancelled).2.1.writes = s.writes := by
  fun_induction signalRacing signal token answers s cancelled with
  | case1 | case2 | case3 | case4 | case5 => cases signal <;> exact ⟨rfl, rfl⟩
  | case6 _ _ _ _ _ _ _ _ ih => exact ih

/-- A signal leaves the sink's bytes and its answers to writes alone. -/
theorem signalOr_keeps (s : Sink) (signal : Signal) (token : Option Token) (cancelled : Cancelled) :
    (s.signalOr signal token cancelled).2.1.data = s.data ∧
      (s.signalOr signal token cancelled).2.1.writes = s.writes := by
  unfold signalOr
  dsimp only
  split
  · exact ⟨rfl, rfl⟩
  · exact signalRacing_keeps signal token (s.queue signal) s cancelled.look

end Sink

end StreamCodec
