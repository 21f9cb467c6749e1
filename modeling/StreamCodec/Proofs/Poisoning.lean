import StreamCodec.Proofs.AsyncRecording
import StreamCodec.Proofs.Conservation
import StreamCodec.Proofs.SinkRaces

/-!
# What an interrupted compressor leaves in the sink

In front of an unfailing sink the bytes of the sink trail those of the engine at
every moment, also inside a write that has only begun: the sink has a front part
of what was produced. Between two calls it has all of it, unless one of them was
cancelled or dropped, and then the guard keeps the compressor from handing the
rest of a torn chunk over again.

`During` are the moments of a drive and `Moment` those of a call. A call that is
under way rests either between two of its own steps or in a write of the sink,
and a write that has got some answers so far is one of a sink which parks for
good after them.
-/
namespace StreamCodec.AsyncCompressor

open Compressor (Balanced Drained Hands Request)

variable {ω σ δ : Type}

/-- The sink has the bytes it began with and then a front part of what the engine produced. -/
def Trails (base : List UInt8) (c : Compressor (ω × Ledger) σ) : Prop :=
  ∃ accepted, octets c.sink.data = base ++ accepted ∧ accepted <+: c.ledger.produced

theorem Trails.of_balanced {base : List UInt8} {c : Compressor (ω × Ledger) σ}
    (h : Balanced base c) : Trails base c :=
  ⟨_, h.sink, List.prefix_refl _⟩

/-- A balanced compressor in front of a sink that gets over every write. -/
structure Poised (base : List UInt8) (c : Compressor (ω × Ledger) σ) : Prop extends
    Balanced base c where
  unfailing : c.sink.Unfailing

section Poised

variable {base : List UInt8} {c : Compressor (ω × Ledger) σ}

theorem poised_completed (h : Poised base c) : Poised base { c with isCompleted := true } :=
  ⟨⟨h.engine, h.ready, h.holds, h.steady, h.empty, h.pos, h.sink, h.totalIn, h.totalOut⟩,
    h.unfailing⟩

theorem poised_signalled (h : Poised base c) {sink : Sink} (data : sink.data = c.sink.data)
    (writes : sink.writes = c.sink.writes) : Poised base { c with sink } where
  engine := h.engine
  ready := h.ready
  holds := h.holds
  steady := by
    rw [Sink.Steady, writes]
    exact h.steady
  empty := h.empty
  pos := h.pos
  sink := by
    rw [data]
    exact h.sink
  totalIn := h.totalIn
  totalOut := h.totalOut
  unfailing := h.unfailing.of_suffix (writes ▸ List.suffix_rfl)

theorem poised_flushSink (h : Poised base c) (token : Token) (cancelled : Cancelled) :
    Poised base (flushSink token c cancelled).2.1 := by
  unfold flushSink
  split
  · exact h
  · obtain ⟨hdata, hwrites⟩ := c.sink.signalOr_keeps .flush (some token) cancelled
    exact poised_signalled h hdata hwrites

end Poised

/-- How a drain ends in front of an unfailing sink: all of the output was taken, or a front part of
it, and the drain was interrupted. -/
def Races (c : Compressor ω σ) (result : Outcome Unit × Compressor ω σ × Cancelled) : Prop :=
  (result.1 = .returned (.ok ()) ∧ ∃ sizes, Drained c result.2.1 sizes) ∨
    (result.1.Interrupted ∧ ∃ taken, Hands c result.2.1 taken)

/-- A drain hands over a front part of the output, whatever the sink answers. -/
theorem drain_takes (token : Token) (c : Compressor ω σ) (cancelled : Cancelled) :
    ∃ taken, octets (drain token c cancelled).2.1.sink.data =
        octets c.sink.data ++ (octets c.output.unread).take taken ∧
      (drain token c cancelled).2.1.session = c.session := by
  unfold drain
  split
  · exact ⟨0, by simp, rfl⟩
  · next hfull =>
    split
    · exact ⟨0, by simp, rfl⟩
    · have hsize : c.output.unread.size ≠ 0 := fun hz =>
        hfull (c.output.isEmpty_iff.mpr (c.output.size_unread ▸ hz))
      obtain ⟨taken, htakes⟩ := c.sink.writeAllOr_takes token hsize cancelled
      split
      all_goals
        next hwrite =>
        rw [hwrite] at htakes
        exact ⟨taken, htakes.data, rfl⟩

/-- A drain uses up answers of the sink and nothing else. -/
theorem drain_writes (token : Token) (c : Compressor ω σ) (cancelled : Cancelled) :
    (drain token c cancelled).2.1.sink.writes <:+ c.sink.writes := by
  unfold drain
  split
  · exact List.suffix_rfl
  · split
    · exact List.suffix_rfl
    · have hwrites := c.sink.writeAllOr_writes token c.output.unread cancelled
      split
      all_goals
        next hwrite =>
        rw [hwrite] at hwrites
        exact hwrites

theorem drain_races {c : Compressor ω σ} (hs : c.sink.Unfailing) (hh : c.holdsSink = true)
    (hp : c.output.pos = 0) (token : Token) (cancelled : Cancelled) :
    Races c (drain token c cancelled) := by
  unfold drain
  by_cases hempty : c.output.isEmpty = true
  · have hnil : octets c.output.unread = [] := c.output.octets_unread_eq_nil_iff.mpr hempty
    rw [if_pos hempty]
    exact .inl ⟨rfl, [], rfl, rfl, rfl, rfl, hs.steady, hnil, hp, rfl, by rw [hnil, List.append_nil],
      [], rfl, fun _ => rfl⟩
  have hsize : c.output.unread.size ≠ 0 := fun hz =>
    hempty (c.output.isEmpty_iff.mpr (c.output.size_unread ▸ hz))
  obtain ⟨taken, htakes⟩ := c.sink.writeAllOr_takes token hsize cancelled
  have hraces := c.sink.writeAllOr_unfailing hs token c.output.unread cancelled
  rw [if_neg hempty, if_neg (by simp [hh])]
  rcases hwrite : c.sink.writeAllOr token c.output.unread cancelled with ⟨wait, sink, cancelled'⟩
  rw [hwrite] at htakes hraces
  rcases hraces with ⟨hok, events, hwhole⟩ | hended
  · obtain rfl : wait = .ready (.ok ()) := hok
    exact .inl ⟨rfl, [c.output.unread.size], rfl, rfl, rfl, hwhole.flushes, hwhole.steady,
      CursorBuffer.octets_unread_clear _, rfl, rfl, hwhole.data, events, hwhole.journal,
      hwhole.fresh hsize⟩
  · have hno : wait ≠ .ready (.ok ()) := by rcases hended with rfl | rfl <;> exact nofun
    have hlt := htakes.part hno
    rw [CursorBuffer.size_unread] at hlt
    rcases hended with rfl | rfl
    · exact .inr ⟨.inl rfl, taken, rfl, by omega, htakes.data, .inr ⟨hlt, rfl⟩⟩
    · exact .inr ⟨.inr rfl, taken, rfl, by omega, htakes.data, .inr ⟨hlt, rfl⟩⟩

/-- The moments of a drive: its passes begin, the session has run, the sink has given so many
answers to the drain, a pass has ended. -/
inductive During (token : Token) (op : FlushOp) :
    Compressor ω σ → CursorBuffer → Cancelled → Compressor ω σ → Prop
  | start {c : Compressor ω σ} {src : CursorBuffer} {cancelled : Cancelled} :
      During token op c src cancelled c
  | ran {c : Compressor ω σ} {src : CursorBuffer} {cancelled : Cancelled}
      {result : Except CodecError Status} {session : EncoderSession ω σ} {w : Windows}
      (h : c.session.compress op ⟨src, c.output⟩ = (result, session, w)) :
      During token op c src cancelled { c with session, output := w.dst }
  | draining {c : Compressor ω σ} {src : CursorBuffer} {cancelled : Cancelled} {status : Status}
      {session : EncoderSession ω σ} {w : Windows}
      (h : c.session.compress op ⟨src, c.output⟩ = (.ok status, session, w)) (answers : Nat) :
      During token op c src cancelled
        (drain token { c with session, output := w.dst, sink := c.sink.cutAfter answers }
          cancelled).2.1
  | ended {c c' : Compressor ω σ} {src src' : CursorBuffer} {cancelled cancelled' : Cancelled}
      {outcome : Outcome Unit} (h : pass token op c src cancelled = .inr (outcome, c', src', cancelled')) :
      During token op c src cancelled c'
  | again {c c' m : Compressor ω σ} {src src' : CursorBuffer} {cancelled cancelled' : Cancelled}
      (h : pass token op c src cancelled = .inl (c', src', cancelled'))
      (rest : During token op c' src' cancelled' m) : During token op c src cancelled m

/-- What an operation leaves when it ends: the sink trails the engine, and there is nothing left
to hand over unless the operation was interrupted. -/
structure Leaves {α : Type} (base : List UInt8) (outcome : Outcome α)
    (c : Compressor (ω × Ledger) σ) : Prop where
  trails : Trails base c
  poised : ¬outcome.Interrupted → Poised base c

theorem Leaves.of_poised {α : Type} {base : List UInt8} {c : Compressor (ω × Ledger) σ}
    (h : Poised base c) (outcome : Outcome α) : Leaves base outcome c :=
  ⟨.of_balanced h.toBalanced, fun _ => h⟩

section Drive

variable {base : List UInt8} {c : Compressor (ω × Ledger) σ} {op : FlushOp} {src : CursorBuffer}

theorem trails_ran (hb : Balanced base c) {result : Except CodecError Status}
    {session : EncoderSession (ω × Ledger) σ} {w : Windows}
    (h : c.session.compress op ⟨src, c.output⟩ = (result, session, w)) {taken : Nat}
    {d : Compressor (ω × Ledger) σ} (hsession : d.session = session)
    (hdata : octets d.sink.data = octets c.sink.data ++ (octets w.dst.unread).take taken) :
    Trails base d := by
  obtain ⟨engine, he⟩ := hb.engine
  rcases EncoderSession.compress_ends op c.session he hb.ready ⟨src, c.output⟩ with
    ⟨e, hrefused⟩ | ⟨-, status, s', w', calls, hran, hends⟩
  · rw [hrefused] at h
    obtain ⟨-, rfl, rfl⟩ := h
    have hledger : d.ledger = c.ledger := congrArg (·.world.2) hsession
    refine ⟨c.ledger.produced, ?_, hledger ▸ List.prefix_refl _⟩
    rw [hdata, hb.sink, hb.empty, List.take_nil, List.append_nil]
  · rw [hran] at h
    obtain ⟨-, rfl, rfl⟩ := h
    have hout : octets w.dst.unread = calls.produced := by
      rw [hends.moved.dst, hb.empty, List.nil_append]
    have hledger : d.ledger = c.ledger ++ calls := by
      rw [Compressor.ledger, hsession]
      exact hends.charged.ledger
    refine ⟨c.ledger.produced ++ calls.produced.take taken, ?_, ?_⟩
    · rw [hdata, hb.sink, hout, List.append_assoc]
    · rw [hledger, Ledger.produced_append]
      exact (List.prefix_append_right_inj _).mpr (List.take_prefix ..)

/-- What one pass does: it leaves what an operation does, and it asks for another only where all
of the output was handed over. -/
theorem pass_leaves (hb : Poised base c) (token : Token) (op : FlushOp) (src : CursorBuffer)
    (cancelled : Cancelled) :
    (∃ outcome c' src' cancelled', pass token op c src cancelled =
        .inr (outcome, c', src', cancelled') ∧ Leaves base outcome c') ∨
      ∃ c' src' cancelled', pass token op c src cancelled = .inl (c', src', cancelled') ∧
        Poised base c' := by
  obtain ⟨engine, he⟩ := hb.engine
  rcases EncoderSession.compress_ends op c.session he hb.ready ⟨src, c.output⟩ with
    ⟨e, hrefused⟩ | ⟨hopen, status, session, w, calls, hran, hends⟩
  · have hpass : pass token op c src cancelled = .inr (.returned (.error e), c, src, cancelled) := by
      simp only [pass, hrefused]
    exact .inl ⟨_, c, src, cancelled, hpass, .of_poised hb _⟩
  have hpos : w.dst.pos = 0 := hends.moved.pos.trans hb.pos
  have hraces := drain_races (c := { c with session, output := w.dst }) hb.unfailing
    (hb.holds hopen) hpos token cancelled
  have hwrites := drain_writes token { c with session, output := w.dst } cancelled
  rcases hdrain : drain token { c with session, output := w.dst } cancelled with
    ⟨outcome, d, cancelled'⟩
  rw [hdrain] at hraces hwrites
  rcases hraces with ⟨hok, sizes, hd⟩ | ⟨hinterrupted, taken, hands⟩
  · obtain rfl : outcome = .returned (.ok ()) := hok
    have hpoised : Poised base d :=
      ⟨(hb.toBalanced.drained rfl hends hd).1, hb.unfailing.of_suffix hwrites⟩
    unfold pass
    rw [hran]
    dsimp only
    rw [hdrain]
    cases status with
    | destinationTooSmall => exact .inr ⟨d, w.src, cancelled', rfl, hpoised⟩
    | done | needMoreData | invalidData =>
      exact .inl ⟨_, d, w.src, cancelled', rfl, .of_poised hpoised _⟩
  · have htrails : Trails base d := trails_ran hb.toBalanced hran hands.session hands.data
    refine .inl ⟨outcome, d, w.src, cancelled', ?_, htrails, fun h => absurd hinterrupted h⟩
    rcases hinterrupted with rfl | rfl <;> simp only [pass, hran, hdrain]

/-- At every moment of a drive the sink trails the engine. The induction is on the passes before
the moment: they were drained whole. -/
theorem During.trails {token : Token} {cancelled : Cancelled} {m : Compressor (ω × Ledger) σ}
    (h : During token op c src cancelled m) (hb : Poised base c) : Trails base m := by
  induction h with
  | start => exact .of_balanced hb.toBalanced
  | ran h => exact trails_ran hb.toBalanced h rfl (by rw [List.take_zero, List.append_nil])
  | draining h answers =>
    obtain ⟨taken, hdata, hsession⟩ := drain_takes token _ _
    exact trails_ran hb.toBalanced h hsession hdata
  | @ended c c' src src' cancelled cancelled' outcome h =>
    rcases pass_leaves hb token op src cancelled with
      ⟨outcome', d, _, _, hpass, hleaves⟩ | ⟨_, _, _, hpass, -⟩
    · rw [hpass] at h
      obtain ⟨-, rfl, -⟩ := Sum.inr.inj h
      exact hleaves.trails
    · rw [hpass] at h
      cases h
  | @again c c' m src src' cancelled cancelled' h _ ih =>
    rcases pass_leaves hb token op src cancelled with
      ⟨_, _, _, _, hpass, -⟩ | ⟨d, _, _, hpass, hpoised⟩
    · rw [hpass] at h
      cases h
    · rw [hpass] at h
      obtain ⟨rfl, -⟩ := Sum.inl.inj h
      exact ih hpoised

theorem drive_leaves (hb : Poised base c) (token : Token) (op : FlushOp) (src : CursorBuffer)
    (cancelled : Cancelled) :
    Leaves base (drive token op c src cancelled).1 (drive token op c src cancelled).2.1 := by
  unfold drive
  cases hloop : loop (fun x => pass token op x.1 x.2.1 x.2.2) (c, src, cancelled) with
  | none => exact .of_poised hb _
  | some result =>
    obtain ⟨⟨d, rest, looked⟩, hd, hlast⟩ := loop_invariant (fun x => Poised base x.1)
      (fun x x' hx hpass => by
        rcases pass_leaves hx token op x.2.1 x.2.2 with
          ⟨_, _, _, _, hpass', -⟩ | ⟨_, _, _, hpass', hpoised⟩
        · rw [hpass'] at hpass
          cases hpass
        · rw [hpass'] at hpass
          obtain rfl := Sum.inl.inj hpass
          exact hpoised) hb hloop
    rcases pass_leaves hd token op rest looked with
      ⟨_, _, _, _, hpass, hleaves⟩ | ⟨_, _, _, hpass, -⟩
    · rw [hpass] at hlast
      obtain rfl := Sum.inr.inj hlast
      exact hleaves
    · rw [hpass] at hlast
      cases hlast

theorem flushInner_leaves (hb : Poised base c) (token : Token) (cancelled : Cancelled) :
    Leaves base (flushInner token c cancelled).1 (flushInner token c cancelled).2.1 := by
  have hdrive := drive_leaves hb token .flush (.filled ByteArray.empty) cancelled
  unfold flushInner
  split
  · exact .of_poised (poised_flushSink hb token cancelled) _
  · split
    · next h =>
      rw [h] at hdrive
      have hdrained := hdrive.poised (by simp [Outcome.Interrupted])
      exact .of_poised (poised_flushSink hdrained token _) _
    · next h =>
      rw [h] at hdrive
      exact hdrive

theorem completeInner_leaves (hb : Poised base c) (token : Token) (cancelled : Cancelled) :
    Leaves base (completeInner token c cancelled).1 (completeInner token c cancelled).2.1 := by
  have hdrive := drive_leaves hb token .finish (.filled ByteArray.empty) cancelled
  unfold completeInner
  split
  · next h =>
    rw [h] at hdrive
    have hdrained := poised_completed (hdrive.poised (by simp [Outcome.Interrupted]))
    exact .of_poised (poised_flushSink hdrained token _) _
  · next h =>
    rw [h] at hdrive
    exact hdrive

end Drive

theorem poised_disposed {base : List UInt8} {c d : Compressor (ω × Ledger) σ} (h : Poised base c)
    (session : d.session = c.session.dispose) (output : d.output = c.output)
    (data : d.sink.data = c.sink.data) (writes : d.sink.writes = c.sink.writes) :
    Poised base d := by
  have hdisposed : d.session.isDisposed = true := congrArg (·.isDisposed) session
  have hledger : d.ledger = c.ledger := congrArg (·.world.2) session
  refine ⟨⟨?_, ?_, ?_, ?_, ?_, ?_, ?_, ?_, ?_⟩, h.unfailing.of_suffix (writes ▸ List.suffix_rfl)⟩
  · rw [session]
    exact h.engine
  · intro hopen
    rw [hdisposed] at hopen
    cases hopen
  · intro hopen
    rw [hdisposed] at hopen
    cases hopen
  · rw [Sink.Steady, writes]
    exact h.steady
  · rw [output, h.empty]
  · rw [output, h.pos]
  · rw [data, hledger, h.sink]
  · rw [hledger, ← h.totalIn]
    exact congrArg (·.totalIn) session
  · rw [hledger, ← h.totalOut]
    exact congrArg (·.totalOut) session

/-- The invariant between two calls. -/
structure Settled (base : List UInt8) (c : AsyncCompressor (ω × Ledger) σ) : Prop where
  trails : Trails base c.base
  poised : c.inFlight = false → Poised base c.base

namespace Settled

variable {base : List UInt8} {c : AsyncCompressor (ω × Ledger) σ}

/-- The guard is left as the outcome has it. -/
theorem of_leaves {α : Type} {outcome : Outcome α} {d : Compressor (ω × Ledger) σ}
    (h : Leaves base outcome d) : Settled base { base := d, inFlight := outcome.poisons } where
  trails := h.trails
  poised hidle := h.poised fun hinterrupted => by
    rw [(Outcome.poisons_iff outcome).mpr hinterrupted] at hidle
    cases hidle

theorem write (hc : Settled base c) (token : Token) (data : ByteArray) (cancelled : Cancelled) :
    Settled base (c.write token data cancelled).2.1 := by
  unfold AsyncCompressor.write
  dsimp only
  split
  · exact hc
  · next hbegun =>
    split
    · exact hc
    · exact of_leaves (drive_leaves (hc.poised (of_refusal_none hbegun).1) token .process _ _)

theorem flush (hc : Settled base c) (token : Token) (cancelled : Cancelled) :
    Settled base (c.flush token cancelled).2.1 := by
  unfold AsyncCompressor.flush
  dsimp only
  split
  · exact hc
  · next hbegun =>
    exact of_leaves (flushInner_leaves (hc.poised (of_refusal_none hbegun).1) token _)

theorem complete (hc : Settled base c) (token : Token) (cancelled : Cancelled) :
    Settled base (c.complete token cancelled).2.1 := by
  unfold AsyncCompressor.complete
  split
  · exact hc
  · dsimp only
    split
    · exact hc
    · next hbegun =>
      exact of_leaves (completeInner_leaves (hc.poised (of_refusal_none hbegun).1) token _)

theorem dispose (hc : Settled base c) : Settled base c.dispose := by
  obtain ⟨session, output, data, writes⟩ : c.dispose.base.session = c.base.session.dispose ∧
      c.dispose.base.output = c.base.output ∧ c.dispose.base.sink.data = c.base.sink.data ∧
      c.dispose.base.sink.writes = c.base.sink.writes := by
    unfold AsyncCompressor.dispose Compressor.releaseSink
    dsimp only
    split
    · exact ⟨rfl, rfl, rfl, rfl⟩
    · split <;> exact ⟨rfl, rfl, rfl, rfl⟩
  have hledger : c.dispose.base.ledger = c.base.ledger := congrArg (·.world.2) session
  refine ⟨?_, fun hidle => poised_disposed (hc.poised hidle) session output data writes⟩
  rw [Trails, data, hledger]
  exact hc.trails

theorem serve (hc : Settled base c) (call : Call) (cancelled : Cancelled) :
    Settled base (c.serve call cancelled).2.1 := by
  unfold AsyncCompressor.serve
  cases call.request with
  | write data => exact hc.write call.token data cancelled
  | flush => exact hc.flush call.token cancelled
  | complete => exact hc.complete call.token cancelled
  | dispose => exact hc.dispose

theorem serveAll {x : AsyncCompressor (ω × Ledger) σ × Cancelled} (hx : Settled base x.1)
    (calls : List Call) : Settled base (serveAll x calls).1 := by
  induction calls generalizing x with
  | nil => exact hx
  | cons call rest ih => exact ih (hx.serve call x.2)

end Settled

/-- What a call drives: the operation and its input. -/
def Call.drives (call : Call) : Option (FlushOp × ByteArray) :=
  match call.request with
  | .write data => some (.process, data)
  | .flush => some (.flush, ByteArray.empty)
  | .complete => some (.finish, ByteArray.empty)
  | .dispose => none

/-- The moments of a call: those of its drive, unless it does not get past the guard or finds the
stream completed, and what it began and ended with. A flush of the sink moves no byte. -/
inductive Moment (x : AsyncCompressor ω σ × Cancelled) (call : Call) : Compressor ω σ → Prop
  | before : Moment x call x.1.base
  | driving {op : FlushOp} {data : ByteArray} {m : Compressor ω σ}
      (drives : call.drives = some (op, data))
      (begun : x.1.refusal call.token x.2.look = none) (unfinished : x.1.base.isCompleted = false)
      (during : During call.token op x.1.base (.filled data) x.2.look m) : Moment x call m
  | after : Moment x call (x.1.serve call x.2).2.1.base

theorem Settled.moment {base : List UInt8} {x : AsyncCompressor (ω × Ledger) σ × Cancelled}
    (hx : Settled base x.1) {call : Call} {m : Compressor (ω × Ledger) σ} (h : Moment x call m) :
    Trails base m := by
  cases h with
  | before => exact hx.trails
  | driving _ begun _ during => exact during.trails (hx.poised (of_refusal_none begun).1)
  | after => exact (hx.serve call x.2).trails

/-- What holds after some calls. Where the sink fails or takes nothing of a chunk, the compressor
is not poisoned and keeps the whole chunk, so `trails` and `level` are about unfailing sinks. -/
structure Poisoned (sink : Sink) (c : AsyncCompressor ω σ) (cancelled : Cancelled)
    (calls : List Call) : Prop where
  /-- The guard is set exactly if an earlier call began and was cancelled or dropped. -/
  guard : (serveAll (c, cancelled) calls).1.inFlight = true ↔
    ∃ before call after, calls = before ++ call :: after ∧
      Interrupts (serveAll (c, cancelled) before) call
  /-- From then on it stays set, and whoever is asked refuses. -/
  refuses : (serveAll (c, cancelled) calls).1.inFlight = true → ∀ later,
    (serveAll (c, cancelled) (calls ++ later)).1.inFlight = true ∧
      Refuses (serveAll (c, cancelled) (calls ++ later)).1
  /-- At every moment of the next call the sink has a front part of what was produced. -/
  trails : sink.Unfailing → ∀ call m, Moment (serveAll (c.recorded [], cancelled) calls) call m →
    Trails (octets sink.data) m
  /-- Between two calls it has all of it, unless the guard is set. -/
  level : sink.Unfailing → (serveAll (c.recorded [], cancelled) calls).1.inFlight = false →
    octets (serveAll (c.recorded [], cancelled) calls).1.base.sink.data = octets sink.data ++
      (serveAll (c.recorded [], cancelled) calls).1.base.ledger.produced

theorem settled_new {registry : Registry ω σ δ} {world world' : ω} {sink : Sink} {o : CodecOptions}
    {options : StreamOptions} {retries : Bool} {c : AsyncCompressor ω σ}
    (hbase : Compressor.new registry world (sink.under retries) o options = (.ok c.base, world'))
    (hunfailing : sink.Unfailing) : Settled (octets sink.data) (c.recorded []) := by
  have hfresh := Compressor.fresh_new registry world (sink.under retries) o options hbase
  have hbalanced : Balanced (octets sink.data) (c.base.recorded []) :=
    hfresh.balanced hunfailing.steady
  have hpoised : Poised (octets sink.data) (c.base.recorded []) :=
    ⟨hbalanced, hfresh.sink ▸ hunfailing⟩
  exact ⟨.of_balanced hbalanced, fun _ => hpoised⟩

/-- Calls on a compressor over any engine and under any runtime, with any tokens, whenever these are
cancelled and wherever the sink suspends a call for good. -/
theorem interruptions_poison (registry : Registry ω σ δ) (world : ω) (sink : Sink) (o : CodecOptions)
    (options : StreamOptions) {c : AsyncCompressor ω σ} {world' : ω}
    (hnew : AsyncCompressor.new registry world sink o options = (.ok c, world'))
    (cancelled : Cancelled) (calls : List Call) : Poisoned sink c cancelled calls := by
  obtain ⟨hbase, hidle⟩ := new_base hnew
  have hsettled (hunfailing : sink.Unfailing) : Settled (octets sink.data)
      (serveAll (c.recorded [], cancelled) calls).1 :=
    Settled.serveAll (settled_new hbase hunfailing) calls
  refine ⟨?_, fun hset later => ?_, fun hunfailing call m hm => (hsettled hunfailing).moment hm,
    fun hunfailing hclear => ((hsettled hunfailing).poised hclear).sink⟩
  · simp [serveAll_inFlight, hidle]
  · have hstays : (serveAll (c, cancelled) (calls ++ later)).1.inFlight = true := by
      rw [serveAll_append, serveAll_inFlight]
      exact .inl hset
    exact ⟨hstays, refuses_of_inFlight hstays⟩

theorem interruptions_poison_marked :
    ∃ c, AsyncCompressor.new Marked.registry () Marked.parkingSink Marked.options Marked.stream₃ =
        (.ok c, ()) ∧
      Marked.parkingSink.Unfailing ∧
      Poisoned Marked.parkingSink c {} [⟨"stop", .write ⟨#[97]⟩⟩, ⟨"go", .complete⟩] :=
  ⟨_, rfl, by unfold Sink.Unfailing; decide, interruptions_poison Marked.registry ()
    Marked.parkingSink Marked.options Marked.stream₃ rfl _ _⟩

/-- The outcome of a pass, as that of a drive which ends with it. -/
def outcome (token : Token) (op : FlushOp) (c : Compressor ω σ) (src : CursorBuffer)
    (cancelled : Cancelled) : Outcome Unit × Compressor ω σ × CursorBuffer × Cancelled :=
  (pass token op c src cancelled).elim (fun x => (.returned (.error c.restless), x)) id

theorem drive_of_last (token : Token) (op : FlushOp) (c : Compressor ω σ) (src : CursorBuffer)
    (cancelled : Cancelled) (h : (pass token op c src cancelled).isRight = true) :
    drive token op c src cancelled = outcome token op c src cancelled := by
  obtain ⟨result, hpass⟩ := Sum.isRight_iff.mp h
  unfold drive outcome
  rw [loop_eq]
  dsimp only
  rw [hpass]
  rfl

/-- A sink that never fails, but once takes nothing of a chunk of which it has a part. The write
fails, the compressor is not poisoned, and its completion hands the same chunk over again: the
bytes of the sink are no front part of what the engine produced. -/
theorem sink_given_twice_unpoisoned :
    (∀ error, .fail error ∉ Marked.idlingSink.writes) ∧
      ∃ c, AsyncCompressor.new Marked.registry () Marked.idlingSink Marked.options Marked.stream₃ =
          (.ok c, ()) ∧
        ∃ x, serveAll (c.recorded [], {}) [⟨"go", .write ⟨#[97]⟩⟩, ⟨"go", .complete⟩] = x ∧
          x.1.inFlight = false ∧ ¬octets x.1.base.sink.data <+: x.1.base.ledger.produced := by
  refine ⟨by simp [Marked.idlingSink],
    { base := Marked.compressor Marked.idlingSink Marked.stream₃ }, rfl, _, rfl, ?_⟩
  generalize hc : (Marked.compressor Marked.idlingSink Marked.stream₃).recorded [] = c
  -- Each of the two calls is a single pass, which can be computed.
  have hwrite := drive_of_last "go" .process c (.filled ⟨#[97]⟩) (Cancelled.look {})
    (by subst hc; cbv)
  generalize hpassed : (outcome "go" .process c (.filled ⟨#[97]⟩) (Cancelled.look {})).2.1 = passed
  have hwritten : ({ base := c : AsyncCompressor _ _ }.serve ⟨"go", .write ⟨#[97]⟩⟩ {}).2 =
      ({ base := passed }, {}) := by
    simp only [serve, write, hwrite]
    subst hc hpassed
    cbv
  have hcomplete := drive_of_last "go" .finish passed (.filled ByteArray.empty) (Cancelled.look {})
    (by subst hc hpassed; cbv)
  generalize hlast : ({ base := passed : AsyncCompressor _ _ }.serve ⟨"go", .complete⟩ {}).2 = last
  have hrun : serveAll ({ base := c }, {}) [⟨"go", .write ⟨#[97]⟩⟩, ⟨"go", .complete⟩] = last := by
    simp only [serveAll, List.foldl_cons, List.foldl_nil, hwritten, hlast]
  simp only [serve, complete, completeInner, hcomplete] at hlast
  have hidle : last.1.inFlight = false := by
    subst hc hpassed hlast
    cbv
  have hsink : octets last.1.base.sink.data = [1, 1, 97, 0] := by
    subst hc hpassed hlast
    cbv
  have hproduced : last.1.base.ledger.produced = [1, 97, 0] := by
    subst hc hpassed hlast
    cbv
  have hrecorded : recorded { base := Marked.compressor Marked.idlingSink Marked.stream₃ } [] =
      { base := c } := by
    rw [← hc]
    rfl
  rw [hrecorded, hrun, hsink, hproduced]
  exact ⟨hidle, by decide⟩

end StreamCodec.AsyncCompressor
