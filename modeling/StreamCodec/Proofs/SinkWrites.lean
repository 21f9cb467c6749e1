import StreamCodec.Proofs.Queue
import StreamCodec.Stream.Sink

/-!
# Writing whole chunks to a sink

Whatever its answers, a sink that is handed a chunk takes a front part of it:
the whole chunk exactly where the writing succeeds. A steady sink may answer
with any positive count, pause or be interrupted, but never fails; a caller who
tries again after an interruption finds every chunk taken whole. An unfailing
sink is not interrupted either, and then it does not matter who writes. Its journal then shows the chunks it was handed:
`chunkSizes` reads them off, one size for each chunk however many writes it took.
-/
namespace StreamCodec

/-- Whether a blocking write of a whole chunk gets over the answer: it tries again where it is
interrupted. -/
def WriteAnswer.isSteady : WriteAnswer → Bool
  | .accept none => true
  | .accept (some limit) => 0 < limit
  | .fail e => e.kind = .interrupted
  | .pause _ => true

/-- Whether any write of a whole chunk gets over the answer: it is no failure of any kind. -/
def WriteAnswer.isUnfailing : WriteAnswer → Bool
  | .accept none => true
  | .accept (some limit) => 0 < limit
  | .fail _ => false
  | .pause _ => true

theorem WriteAnswer.isSteady_of_isUnfailing {answer : WriteAnswer} (h : answer.isUnfailing = true) :
    answer.isSteady = true := by
  cases answer with
  | accept limit => cases limit <;> exact h
  | fail => cases h
  | pause => rfl

/-- Whether a signal gets over the answer. -/
def SignalAnswer.isSteady : SignalAnswer → Bool
  | .ok => true
  | .fail _ => false
  | .pause _ => true

namespace Sink

/-- A sink all of whose blocking writes go through. -/
def Steady (s : Sink) : Prop := ∀ answer ∈ s.writes, answer.isSteady = true

/-- A sink that answers no write with a failure and takes something of everything it is offered. -/
def Unfailing (s : Sink) : Prop := ∀ answer ∈ s.writes, answer.isUnfailing = true

theorem Unfailing.steady {s : Sink} (h : s.Unfailing) : s.Steady :=
  fun answer hmem => WriteAnswer.isSteady_of_isUnfailing (h answer hmem)

/-- A sink none of whose flushes fails. -/
def Flushable (s : Sink) : Prop := ∀ answer ∈ s.flushes, answer.isSteady = true

/-- The sizes of the chunks in a row of events, the oldest first. `left` is what is left of a
chunk that is being written; where nothing is, the next write offers a new chunk. -/
def chunkSizes : (left : Nat) → List SinkEvent → List Nat
  | _, [] => []
  | left, .wrote offered taken :: events =>
    if left = 0 then offered :: chunkSizes (offered - taken) events
    else chunkSizes (offered - taken) events
  | left, _ :: events => chunkSizes left events

/-- An event that is no write begins no chunk and carries none on. -/
def Silent (event : SinkEvent) : Prop :=
  ∀ left events, chunkSizes left (event :: events) = chunkSizes left events

theorem silent_signalled (signal : Signal) : Silent (.signalled signal) :=
  fun left events => chunkSizes.eq_3 left (.signalled signal) events (by simp)

theorem silent_signalFailed (signal : Signal) : Silent (.signalFailed signal) :=
  fun left events => chunkSizes.eq_3 left (.signalFailed signal) events (by simp)

theorem silent_dropped : Silent .dropped :=
  fun left events => chunkSizes.eq_3 left .dropped events (by simp)

theorem flush_silent (s : Sink) :
    ∃ event, Silent event ∧ s.flush.2.journal = event :: s.journal ∧ s.flush.2.data = s.data ∧
      s.flush.2.writes = s.writes := by
  unfold flush
  split
  · exact ⟨_, silent_signalled .flush, rfl, rfl, rfl⟩
  · exact ⟨_, silent_signalFailed .flush, rfl, rfl, rfl⟩

theorem signalFrom_steady (signal : Signal) (answers : List SignalAnswer)
    (h : ∀ answer ∈ answers, answer.isSteady = true) :
    ∃ rest, signalFrom signal answers = (.ok (), rest) ∧ ∀ answer ∈ rest, answer.isSteady = true := by
  fun_induction signalFrom signal answers with
  | case1 => exact ⟨[], rfl, h⟩
  | case2 rest => exact ⟨rest, rfl, fun a ha => h a (List.mem_cons_of_mem _ ha)⟩
  | case3 e rest =>
    have := h _ (List.mem_cons_self ..)
    simp [SignalAnswer.isSteady] at this
  | case4 p rest ih => exact ih fun a ha => h a (List.mem_cons_of_mem _ ha)

theorem flush_steady {s : Sink} (h : s.Flushable) :
    ∃ s', s.flush = (.ok (), s') ∧ s'.Flushable ∧ s'.data = s.data ∧ s'.writes = s.writes := by
  obtain ⟨rest, hflush, hrest⟩ := signalFrom_steady .flush s.flushes h
  rw [flush, hflush]
  exact ⟨_, rfl, hrest, rfl, rfl⟩

theorem taken_le (limit : Option Nat) (offered : ByteArray) : taken limit offered ≤ offered.size := by
  cases limit with
  | none => exact Nat.le_refl _
  | some n => exact Nat.min_le_right ..

theorem octets_data_take (s : Sink) (offered : ByteArray) (count : Nat) :
    octets (s.take offered count).data = octets s.data ++ (octets offered).take count := by
  rw [Sink.take, octets_append, octets_extract_zero]

/-- A sink takes a front part of what it is handed, the whole exactly where it succeeds. -/
theorem writeAllFrom_takes (answers : List WriteAnswer) (s : Sink) (chunk : ByteArray) :
    ∃ count, octets (writeAllFrom answers s chunk).2.data =
        octets s.data ++ (octets chunk).take count ∧
      (((writeAllFrom answers s chunk).1 = .ok () ∧ count = chunk.size) ∨
        (∃ e, (writeAllFrom answers s chunk).1 = .error e) ∧ count < chunk.size) := by
  fun_induction writeAllFrom answers s chunk with
  | case1 answers s chunk hz => exact ⟨0, by simp, .inl ⟨rfl, hz.symm⟩⟩
  | case2 s chunk hz => exact ⟨chunk.size, octets_data_take _ _ _, .inl ⟨rfl, rfl⟩⟩
  | case3 s chunk hz limit rest count s' hc =>
    refine ⟨count, octets_data_take _ _ _, .inr ⟨⟨_, rfl⟩, ?_⟩⟩
    rw [hc]
    exact Nat.pos_of_ne_zero hz
  | case4 s chunk hz limit rest count s' hc ih =>
    obtain ⟨more, hdata, hend⟩ := ih
    have hle : count ≤ chunk.size := taken_le limit chunk
    refine ⟨count + more, ?_, ?_⟩
    · rw [hdata, octets_data_take, octets_extract_size, List.append_assoc, List.take_add]
    · simp only [ByteArray.size_extract] at hend
      rcases hend with ⟨hok, hm⟩ | ⟨herr, hm⟩
      · exact .inl ⟨hok, by omega⟩
      · exact .inr ⟨herr, by omega⟩
  | case5 s chunk hz e rest s' hi ih => exact ih
  | case6 s chunk hz e rest s' hi =>
    exact ⟨0, by simp [s', refuse], .inr ⟨⟨_, rfl⟩, Nat.pos_of_ne_zero hz⟩⟩
  | case7 s chunk hz p rest ih => exact ih

/-- What a steady sink answers to a chunk that is `left` to be written, and what its journal
shows of it. -/
structure TakesWhole (s : Sink) (chunk : ByteArray) (result : Except IoError Unit × Sink)
    (events : List SinkEvent) : Prop where
  ok : result.1 = .ok ()
  data : octets result.2.data = octets s.data ++ octets chunk
  steady : result.2.Steady
  flushes : result.2.flushes = s.flushes
  journal : result.2.journal = events.reverse ++ s.journal
  /-- Where the chunk was under way already, its events begin no other. -/
  rest : ∀ more, chunkSizes chunk.size (events ++ more) = chunkSizes 0 more
  fresh : chunk.size ≠ 0 → ∀ more, chunkSizes 0 (events ++ more) = chunk.size :: chunkSizes 0 more

theorem writeAllFrom_steady (answers : List WriteAnswer) (s : Sink) (chunk : ByteArray)
    (hs : ∀ answer ∈ answers, answer.isSteady = true) :
    ∃ events, TakesWhole s chunk (writeAllFrom answers s chunk) events := by
  fun_induction writeAllFrom answers s chunk with
  | case1 answers s chunk hz =>
    refine ⟨[], rfl, ?_, hs, rfl, rfl, fun more => by rw [hz, List.nil_append], fun h => absurd hz h⟩
    rw [(octets_eq_nil_iff chunk).mpr hz, List.append_nil]
  | case2 s chunk hz =>
    refine ⟨[.wrote chunk.size chunk.size], rfl, ?_, hs, rfl, rfl, fun more => ?_, fun _ more => ?_⟩
    · rw [octets_data_take, ← length_octets, List.take_length]
    · simp [chunkSizes, hz]
    · simp [chunkSizes]
  | case3 s chunk hz limit rest count s' hc =>
    have hlimit := hs _ (List.mem_cons_self ..)
    cases limit with
    | none => exact absurd hc hz
    | some n =>
      simp only [WriteAnswer.isSteady, decide_eq_true_eq] at hlimit
      simp only [count, taken, Option.elim_some] at hc
      omega
  | case4 s chunk hz limit rest count s' hc ih =>
    obtain ⟨events, h⟩ := ih fun a ha => hs a (List.mem_cons_of_mem _ ha)
    have hle : count ≤ chunk.size := taken_le limit chunk
    have hrest : ∀ more, chunkSizes (chunk.size - count) (events ++ more) = chunkSizes 0 more := by
      intro more
      have := h.rest more
      rwa [ByteArray.size_extract, Nat.min_self] at this
    refine ⟨.wrote chunk.size count :: events, h.ok, ?_, h.steady, h.flushes, ?_, fun more => ?_,
      fun _ more => ?_⟩
    · rw [h.data, octets_data_take, octets_extract_size, List.append_assoc, List.take_append_drop]
    · rw [h.journal]
      simp [s', Sink.take]
    · rw [List.cons_append, chunkSizes, if_neg hz, hrest]
    · rw [List.cons_append, chunkSizes, if_pos rfl, hrest]
  | case5 s chunk hz e rest s' hi ih =>
    obtain ⟨events, h⟩ := ih fun a ha => hs a (List.mem_cons_of_mem _ ha)
    refine ⟨.writeFailed chunk.size :: events, h.ok, h.data, h.steady, h.flushes, ?_, h.rest,
      h.fresh⟩
    rw [h.journal]
    simp [s', refuse]
  | case6 s chunk hz e rest s' hi =>
    have := hs _ (List.mem_cons_self ..)
    simp only [WriteAnswer.isSteady, decide_eq_true_eq] at this
    exact absurd this hi
  | case7 s chunk hz p rest ih => exact ih fun a ha => hs a (List.mem_cons_of_mem _ ha)

end Sink

end StreamCodec
