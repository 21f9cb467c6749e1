import StreamCodec.Proofs.SinkRaces

/-!
# What a journal says of the flushes

A sink's journal only ever grows. `sinceWrite` is the part of it that follows
the last write, whether that was taken, failed or paused. A flush adds to that
part, and what its caller was told of it is noted there.
-/
namespace StreamCodec

/-- Whether bytes were offered to the sink. -/
def SinkEvent.isWrite : SinkEvent → Bool
  | .wrote .. | .writeFailed _ | .writePaused _ => true
  | .signalled _ | .signalFailed _ | .signalPaused _ | .dropped => false

/-- What followed the last write in a row of events, the last event first. -/
def sinceWrite (events : List SinkEvent) : List SinkEvent := events.takeWhile (!·.isWrite)

theorem sinceWrite_append {events : List SinkEvent} (h : ∀ event ∈ events, event.isWrite = false)
    (before : List SinkEvent) : sinceWrite (events ++ before) = events ++ sinceWrite before :=
  List.takeWhile_append_of_pos fun event hmem => by rw [h event hmem]; rfl

namespace Sink

/-- From one state of the sink to the other these were the events, and none of them a write. -/
structure Signals (s s' : Sink) (events : List SinkEvent) : Prop where
  data : s'.data = s.data
  journal : s'.journal = events ++ s.journal
  noWrite : ∀ event ∈ events, event.isWrite = false

theorem Signals.refl (s : Sink) : Signals s s [] := ⟨rfl, rfl, nofun⟩

theorem Signals.trans {s s' s'' : Sink} {a b : List SinkEvent} (first : Signals s s' a)
    (second : Signals s' s'' b) : Signals s s'' (b ++ a) where
  data := second.data.trans first.data
  journal := by rw [second.journal, first.journal, List.append_assoc]
  noWrite event hmem := by
    rcases List.mem_append.mp hmem with h | h
    · exact second.noWrite event h
    · exact first.noWrite event h

theorem signals_drop (s : Sink) : Signals s s.drop [.dropped] := ⟨rfl, rfl, by simp [SinkEvent.isWrite]⟩

structure Noted (signal : Signal) (events : List SinkEvent) (answer : Except IoError Unit) : Prop where
  ok : answer = .ok () → .signalled signal ∈ events
  error : ∀ e, answer = .error e → .signalFailed signal ∈ events

theorem flush_signals (s : Sink) :
    ∃ events, Signals s s.flush.2 events ∧ Noted .flush events s.flush.1 := by
  unfold flush
  split
  · exact ⟨[.signalled .flush], ⟨rfl, rfl, by simp [SinkEvent.isWrite]⟩, by simp, nofun⟩
  · exact ⟨[.signalFailed .flush], ⟨rfl, rfl, by simp [SinkEvent.isWrite]⟩, nofun, by simp⟩

theorem signals_note_withQueue (s : Sink) (signal : Signal) (answers : List SignalAnswer)
    {e : SinkEvent} (h : e.isWrite = false) :
    Signals s ((s.withQueue signal answers).note e) [e] := by
  cases signal <;> exact ⟨rfl, rfl, by simp [h]⟩

/-- A racing signal may pause before it is answered, or end in a pause. -/
theorem signalRacing_signals (signal : Signal) (token : Option Token) (answers : List SignalAnswer)
    (s : Sink) (cancelled : Cancelled) :
    ∃ events, Signals s (signalRacing signal token answers s cancelled).2.1 events ∧
      ∀ answer, (signalRacing signal token answers s cancelled).1 = .ready answer →
        Noted signal events answer := by
  fun_induction signalRacing signal token answers s cancelled with
  | case1 s cancelled =>
    refine ⟨_, signals_note_withQueue s signal [] rfl, ?_⟩
    rintro _ ⟨⟩
    exact ⟨by simp, by rintro _ ⟨⟩⟩
  | case2 rest s cancelled =>
    refine ⟨_, signals_note_withQueue s signal rest rfl, ?_⟩
    rintro _ ⟨⟩
    exact ⟨by simp, by rintro _ ⟨⟩⟩
  | case3 e rest s cancelled =>
    refine ⟨_, signals_note_withQueue s signal rest rfl, ?_⟩
    rintro _ ⟨⟩
    exact ⟨by rintro ⟨⟩, by simp⟩
  | case4 p rest s cancelled s' k hwakes | case5 p rest s cancelled s' k hwakes hcancelled =>
    have hparked := signals_note_withQueue s signal rest (e := .signalPaused signal) rfl
    refine ⟨[.signalPaused signal], ?_, by rintro _ ⟨⟩⟩
    cases signal <;> exact hparked
  | case6 p rest s cancelled s' k hwakes hcancelled ih =>
    obtain ⟨events, hsignals, hnoted⟩ := ih
    have hpaused : Signals s s' [.signalPaused signal] := ⟨rfl, rfl, by simp [SinkEvent.isWrite]⟩
    refine ⟨_, hpaused.trans hsignals, fun answer h => ?_⟩
    obtain ⟨hok, herror⟩ := hnoted answer h
    exact ⟨fun h => List.mem_append_left _ (hok h), fun e h => List.mem_append_left _ (herror e h)⟩

theorem signalOr_signals (s : Sink) (signal : Signal) (token : Option Token) (cancelled : Cancelled) :
    ∃ events, Signals s (s.signalOr signal token cancelled).2.1 events ∧
      ∀ answer, (s.signalOr signal token cancelled).1 = .ready answer →
        Noted signal events answer := by
  unfold signalOr
  dsimp only
  split
  · exact ⟨[], .refl s, nofun⟩
  · exact signalRacing_signals signal token (s.queue signal) s cancelled.look

theorem writeAllFrom_journal (answers : List WriteAnswer) (s : Sink) (chunk : ByteArray) :
    s.journal <:+ (writeAllFrom answers s chunk).2.journal := by
  fun_induction writeAllFrom answers s chunk with
  | case1 => exact List.suffix_rfl
  | case2 | case3 | case6 => exact List.suffix_cons ..
  | case4 s chunk hz limit rest count s' hc ih => exact (List.suffix_cons ..).trans ih
  | case5 s chunk hz e rest s' hi ih => exact (List.suffix_cons ..).trans ih
  | case7 s chunk hz p rest ih => exact ih

theorem writeAllRacing_journal (token : Token) (answers : List WriteAnswer) (s : Sink)
    (chunk : ByteArray) (cancelled : Cancelled) :
    s.journal <:+ (writeAllRacing token answers s chunk cancelled).2.1.journal := by
  fun_induction writeAllRacing token answers s chunk cancelled with
  | case1 => exact List.suffix_rfl
  | case2 | case3 | case6 | case7 | case8 => exact List.suffix_cons ..
  | case4 s chunk cancelled hz limit rest count s' hc ih => exact (List.suffix_cons ..).trans ih
  | case5 s chunk cancelled hz e rest s' hi ih => exact (List.suffix_cons ..).trans ih
  | case9 s chunk cancelled hz p rest s' k hwakes hcancelled ih =>
    exact (List.suffix_cons ..).trans ih

theorem writeAllOr_journal (s : Sink) (token : Token) (chunk : ByteArray) (cancelled : Cancelled) :
    s.journal <:+ (s.writeAllOr token chunk cancelled).2.1.journal := by
  unfold writeAllOr
  dsimp only
  split
  · exact List.suffix_rfl
  · exact writeAllRacing_journal token s.writes s chunk cancelled.look

end Sink

end StreamCodec
