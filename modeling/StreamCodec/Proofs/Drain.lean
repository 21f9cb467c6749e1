import StreamCodec.Proofs.SinkWrites
import StreamCodec.Stream.Compressor

/-!
# Draining

A drain hands the output buffer to the sink as one chunk. A steady sink takes
it whole; any other takes a front part of it, and the buffer then stays as it
was.
-/
namespace StreamCodec.Compressor

variable {ω σ : Type}

/-- What a successful drain leaves: all of the output is in the sink, handed over in chunks of
these sizes. -/
structure Drained (c c' : Compressor ω σ) (sizes : List Nat) : Prop where
  session : c'.session = c.session
  holdsSink : c'.holdsSink = c.holdsSink
  isCompleted : c'.isCompleted = c.isCompleted
  flushes : c'.sink.flushes = c.sink.flushes
  steady : c'.sink.Steady
  empty : octets c'.output.unread = []
  pos : c'.output.pos = 0
  capacity : c'.output.capacity = c.output.capacity
  data : octets c'.sink.data = octets c.sink.data ++ octets c.output.unread
  journal : ∃ events, c'.sink.journal = events.reverse ++ c.sink.journal ∧
    ∀ more, Sink.chunkSizes 0 (events ++ more) = sizes ++ Sink.chunkSizes 0 more

/-- In front of a steady sink draining succeeds; it takes one chunk, or none if there is no
output. -/
theorem drain_steady {c : Compressor ω σ} (hs : c.sink.Steady) (hh : c.holdsSink = true)
    (hp : c.output.pos = 0) :
    ∃ c', c.drain = (.ok (), c') ∧
      Drained c c' (if c.output.availableRead = 0 then [] else [c.output.availableRead]) := by
  unfold drain
  by_cases hempty : c.output.isEmpty = true
  · have hnil : octets c.output.unread = [] := c.output.octets_unread_eq_nil_iff.mpr hempty
    rw [if_pos hempty, if_pos (c.output.isEmpty_iff.mp hempty)]
    exact ⟨c, rfl, rfl, rfl, rfl, rfl, hs, hnil, hp, rfl, by rw [hnil, List.append_nil],
      [], rfl, fun _ => rfl⟩
  · have hsize : c.output.availableRead ≠ 0 := fun hz => hempty (c.output.isEmpty_iff.mpr hz)
    obtain ⟨events, hwhole⟩ := Sink.writeAllFrom_steady c.sink.writes c.sink c.output.unread hs
    have hok : c.sink.writeAll c.output.unread = (.ok (), (c.sink.writeAll c.output.unread).2) :=
      Prod.ext hwhole.ok rfl
    rw [if_neg hempty, if_neg (by simp [hh]), if_neg hsize, hok]
    refine ⟨_, rfl, rfl, rfl, rfl, hwhole.flushes, hwhole.steady,
      CursorBuffer.octets_unread_clear _, rfl, rfl, hwhole.data, events, hwhole.journal, ?_⟩
    rw [← CursorBuffer.size_unread] at hsize ⊢
    exact hwhole.fresh hsize

/-- What any drain does: the sink takes a front part of the output, which stays in the buffer
unless all of it was taken. -/
structure Hands (c c' : Compressor ω σ) (taken : Nat) : Prop where
  session : c'.session = c.session
  le : taken ≤ c.output.availableRead
  data : octets c'.sink.data = octets c.sink.data ++ (octets c.output.unread).take taken
  rest : (taken = c.output.availableRead ∧ octets c'.output.unread = []) ∨
    (taken < c.output.availableRead ∧ c'.output = c.output)

theorem drain_idle {c c' : Compressor ω σ} {result : Except CodecError Unit}
    (hidle : c.output.isEmpty = true ∨ c.holdsSink = false) (h : c.drain = (result, c')) :
    c' = c := by
  unfold drain at h
  split at h
  · exact (Prod.mk.inj h).2.symm
  · next hempty =>
    rw [if_pos (by simp [hidle.resolve_left hempty])] at h
    exact (Prod.mk.inj h).2.symm

theorem drain_hands {c c' : Compressor ω σ} {result : Except CodecError Unit}
    (hfull : c.output.isEmpty = false) (hh : c.holdsSink = true) (h : c.drain = (result, c')) :
    ∃ taken, Hands c c' taken := by
  obtain ⟨taken, hdata, hend⟩ := Sink.writeAllFrom_takes c.sink.writes c.sink c.output.unread
  have hwrites : Sink.writeAllFrom c.sink.writes c.sink c.output.unread =
    c.sink.writeAll c.output.unread := rfl
  rw [hwrites, CursorBuffer.size_unread] at hend
  rw [hwrites] at hdata
  unfold drain at h
  rw [if_neg (by simp [hfull]), if_neg (by simp [hh])] at h
  split at h
  · next hok =>
    obtain ⟨-, rfl⟩ := Prod.mk.inj h
    rw [hok] at hend hdata
    rcases hend with ⟨-, htaken⟩ | ⟨⟨e, he⟩, -⟩
    · exact ⟨taken, rfl, by omega, hdata, .inl ⟨htaken, CursorBuffer.octets_unread_clear _⟩⟩
    · cases he
  · next herr =>
    obtain ⟨-, rfl⟩ := Prod.mk.inj h
    rw [herr] at hend hdata
    rcases hend with ⟨hok, -⟩ | ⟨-, htaken⟩
    · cases hok
    · exact ⟨taken, rfl, by omega, hdata, .inr ⟨htaken, rfl⟩⟩

end StreamCodec.Compressor
