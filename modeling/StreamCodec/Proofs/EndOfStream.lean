import StreamCodec.Proofs.Announcement
import StreamCodec.Proofs.AsyncReadRecording
import StreamCodec.Proofs.FailedReads
import StreamCodec.Proofs.ReadConservation

/-!
# What the end of a stream is told from

A read into some room that answers zero says that the stream is over. It says so
on two grounds: the engine reported the end, or the source ended and no byte was
consumed so far. The second ground is one about the engine. It is one about the
source as long as an engine that is offered bytes consumes some of them sooner
or later; an engine that consumes none makes a stream that is cut off look like
an empty one.

`Kept` is what both kinds of decompressor keep up from read to read, `Told` what
an answer says in the state after it.
-/
namespace StreamCodec

variable {ω ε σ : Type}

/-- The last call ended the stream. -/
def Ledger.Closed (calls : Ledger) : Prop :=
  ∃ call, calls.getLast? = some call ∧ call.reply.code = .streamEnd

namespace DecoderSession

/-- The engine reported the end of the stream: it is finished, or its last call says so. -/
def Ended (s : DecoderSession ω σ) (calls : Ledger) : Prop := s.isFinished = true ∨ calls.Closed

/-- The flag follows what was consumed. -/
def Seen (s : DecoderSession ω σ) : Prop := s.hasSeenInput = true ↔ 0 < s.totalIn

theorem Seen.record {s : DecoderSession ω σ} {w : Windows} {reply : Reply} {handle : σ} {world : ω}
    (h : s.Seen) : (s.record w reply handle world).Seen := by
  unfold Seen at h ⊢
  simp only [DecoderSession.record, Bool.or_eq_true, decide_eq_true_eq, h]
  omega

theorem Seen.fail {s : DecoderSession ω σ} (h : s.Seen) (detail : String) : (s.fail detail).Seen := h

/-- How an operation of a session over a recording engine stopped. -/
structure Stops (s : DecoderSession (ω × Ledger) σ) (w : Windows) (status : Status)
    (s' : DecoderSession (ω × Ledger) σ) (w' : Windows) : Prop where
  seen : s.Seen → s'.Seen
  capacity : w'.dst.capacity = w.dst.capacity
  full : status = .destinationTooSmall → w'.dst.availableWrite = 0
  ended : status = .done → s'.Ended s'.world.2
  announced : s.engine.Announces → status = .done → s'.isFinished = true

namespace Stops

variable {s s' : DecoderSession (ω × Ledger) σ} {w w' : Windows}

/-- One that stops for want of input, or because the input is corrupt. -/
theorem other {status : Status} (hseen : s.Seen → s'.Seen)
    (hcapacity : w'.dst.capacity = w.dst.capacity)
    (hstatus : status = .needMoreData ∨ status = .invalidData) : Stops s w status s' w' := by
  have hfull : status ≠ .destinationTooSmall := by rcases hstatus with rfl | rfl <;> decide
  have hdone : status ≠ .done := by rcases hstatus with rfl | rfl <;> decide
  exact ⟨hseen, hcapacity, fun h => absurd h hfull, fun h => absurd h hdone,
    fun _ h => absurd h hdone⟩

theorem of_full (hseen : s.Seen → s'.Seen) (hcapacity : w'.dst.capacity = w.dst.capacity)
    (hfull : w'.dst.availableWrite = 0) : Stops s w .destinationTooSmall s' w' := by
  have hdone : Status.destinationTooSmall ≠ .done := by decide
  exact ⟨hseen, hcapacity, fun _ => hfull, fun h => absurd h hdone, fun _ h => absurd h hdone⟩

theorem of_done (hseen : s.Seen → s'.Seen) (hcapacity : w'.dst.capacity = w.dst.capacity)
    (hended : s'.Ended s'.world.2) (hannounced : s.engine.Announces → s'.isFinished = true) :
    Stops s w .done s' w' := by
  have hfull : Status.done ≠ .destinationTooSmall := by decide
  exact ⟨hseen, hcapacity, fun h => absurd h hfull, fun _ => hended, fun h _ => hannounced h⟩

/-- A call that does not stop the operation goes before the rest of it. -/
theorem after_call {status : Status} {reply : Reply} {handle : σ} {world : ω × Ledger}
    (h : Stops (s.record w reply handle world) (w.settle reply) status s' w') :
    Stops s w status s' w' :=
  ⟨fun hseen => h.seen hseen.record, h.capacity.trans (w.dst.capacity_poke reply.room), h.full,
    h.ended, h.announced⟩

end Stops

/-- A drive, by induction on its calls: only a call that ends the stream has it done. -/
theorem drive_stops {engine : DecoderEngine ω σ} (s : DecoderSession (ω × Ledger) σ)
    (he : s.engine = engine.recording) (handle : σ) (w : Windows) (stalled : Nat) :
    Stops s w (drive s handle w stalled).1 (drive s handle w stalled).2.1
      (drive s handle w stalled).2.2 := by
  have hcapacity (w : Windows) (reply : Reply) : (w.settle reply).dst.capacity = w.dst.capacity :=
    w.dst.capacity_poke reply.room
  fun_induction drive s handle w stalled with
  | case1 s handle w stalled hfull => exact .of_full id rfl hfull
  | case2 | case7 => exact .other (fun h => h.record.fail _) (hcapacity ..) (.inr rfl)
  | case3 s handle w stalled hroom reply handle' world hcall s' w' hcode =>
    refine .of_done Seen.record (hcapacity ..) (.inr ?_) fun hannounces => ?_
    · rw [he] at hcall
      have hledger := engine.decompress_recording _ _ handle s.world hcall
      refine ⟨⟨.decode, w.src.unread, w.dst.unwritten, reply⟩, ?_, hcode⟩
      exact (congrArg List.getLast? hledger).trans List.getLast?_concat
    · have hfinished := hannounces w.src.unread w.dst.unwritten handle s.world
      rw [hcall] at hfinished
      exact hfinished hcode
  | case4 s handle w stalled hroom reply handle' world hcall s' w' hfull =>
    exact .of_full Seen.record (hcapacity ..) hfull
  | case5 | case6 => exact .other Seen.record (hcapacity ..) (.inl rfl)
  | case8 | case9 =>
    rename_i ih
    exact (ih he).after_call

theorem decompress_stops {engine : DecoderEngine ω σ} {s s' : DecoderSession (ω × Ledger) σ}
    (he : s.engine = engine.recording) (hd : s.isDisposed = false) (hh : s.handle.isSome)
    {w w' : Windows} {status : Status} (hrun : s.decompress w = (.ok status, s', w')) :
    Stops s w status s' w' := by
  obtain ⟨handle, hh⟩ := Option.isSome_iff_exists.mp hh
  simp only [decompress, opened_of_handle hd hh] at hrun
  split at hrun
  · next hfinished =>
    cases hrun
    have hended : s.isFinished = true := by rw [isFinished, hh]; exact hfinished
    exact .of_done id rfl (.inl hended) fun _ => hended
  · split at hrun
    · cases hrun
      exact .other id rfl (.inl rfl)
    · cases hrun
      exact drive_stops s he handle w 0

end DecoderSession

namespace Source

def reported : Wait (Except IoError Delivery) → Nat
  | .ready (.ok delivery) => delivery.reported
  | .ready (.error _) | .cancelled | .abandoned => 0

/-- A suspending read reports what it enters into the journal, and never more than the room. -/
structure Reports (room : Nat) (s : Source) (wait : Wait (Except IoError Delivery)) (s' : Source) :
    Prop where
  within : reported wait ≤ room
  journal : s'.delivered = s.delivered + reported wait

theorem reports_serve (s : Source) (piece : ByteArray) (room : Nat) :
    Reports room s (.ready (.ok (s.serve piece room).1)) (s.serve piece room).2 := by
  have hle : (s.serve piece room).1.reported ≤ room := Nat.min_le_right ..
  refine ⟨hle, ?_⟩
  rw [delivered_serve, Source.within, if_pos hle]
  rfl

theorem reports_readRacing (room : Nat) (token : Token) (answers : List SourceAnswer) (s : Source)
    (cancelled : Cancelled) :
    Reports room s (readRacing room token answers s cancelled).1
      (readRacing room token answers s cancelled).2.1 := by
  have hnone (s : Source) {event : SourceEvent} (h : event.delivered = 0) :
      (s.note event).delivered = s.delivered := by
    simp [note, delivered, h]
  have hzero : (SourceEvent.read room 0).delivered = 0 := by simp [SourceEvent.delivered]
  fun_induction readRacing room token answers s cancelled with
  | case1 | case2 | case5 => exact ⟨Nat.zero_le _, hnone _ hzero⟩
  | case3 piece rest s cancelled hroom delivery s' hserve =>
    have h := reports_serve { s with answers := rest } piece room
    rw [hserve] at h
    exact ⟨h.within, h.journal⟩
  | case4 | case6 | case7 => exact ⟨Nat.zero_le _, hnone _ rfl⟩
  | case8 p rest s cancelled s' k hwakes hcancelled ih =>
    exact ⟨ih.within, by rw [ih.journal, hnone s rfl]⟩

theorem reports_readOr (s : Source) (room : Nat) (token : Token) (cancelled : Cancelled) :
    Reports room s (s.readOr room token cancelled).1 (s.readOr room token cancelled).2.1 := by
  unfold readOr
  dsimp only
  split
  · exact ⟨Nat.zero_le _, rfl⟩
  · split
    · exact reports_readRacing room token s.answers s cancelled.look
    · exact reports_serve s s.piece room

end Source

namespace Decompressor

variable {engine : DecoderEngine ω σ} {source : Source} {d decoded d' : Decompressor (ω × Ledger) σ}
  {dst dst' : ByteArray}

theorem availableRead_accept (d : Decompressor ω σ) {delivery : Delivery} (s : Source)
    (h : delivery.reported ≤ d.input.availableWrite) :
    (d.accept delivery s).input.availableRead = d.input.availableRead + delivery.reported := by
  unfold accept
  split
  · next hzero => rw [hzero]; rfl
  · rw [← CursorBuffer.length_octets_unread, CursorBuffer.octets_unread_commit,
      CursorBuffer.octets_unread_poke, List.length_append, CursorBuffer.length_octets_unread,
      List.length_take, length_octets, CursorBuffer.size_unwritten, CursorBuffer.availableWrite_poke,
      Nat.min_eq_left h]

theorem session_accept (d : Decompressor ω σ) (delivery : Delivery) (s : Source) :
    (d.accept delivery s).session = d.session := by
  unfold accept
  split <;> rfl

/-- An open decompressor over a recording engine that was only read so far. What its source
delivered was consumed, or is still in the input buffer. -/
structure Kept (engine : DecoderEngine ω σ) (source : Source) (d : Decompressor (ω × Ledger) σ) :
    Prop where
  engine : d.session.engine = engine.recording
  isDisposed : d.session.isDisposed = false
  handle : d.session.handle.isSome
  seen : d.session.Seen
  balance : d.source.delivered = source.delivered + d.totalIn + d.input.availableRead

/-- What an answer to a read into some room says, in the state after it. -/
structure Told (engine : DecoderEngine ω σ) (result : Except CodecError Nat)
    (d : Decompressor (ω × Ledger) σ) : Prop where
  zero : result = .ok 0 →
    d.session.Ended d.ledger ∧ (engine.Announces → d.isFinished = true) ∨
      d.sourceEnded = true ∧ d.totalIn = 0
  failed : ∀ e, result = .error e → d.sourceEnded = true →
    e = .truncated d.codec ∨ ∃ detail, e = .invalidData d.codec detail
  truncated : ∀ codec, result = .error (.truncated codec) → 0 < d.totalIn

namespace Told

theorem of_bytes {n : Nat} (hn : 0 < n) : Told engine (.ok n) d where
  zero h := absurd (Except.ok.inj h) (by omega)
  failed _ h := by cases h
  truncated _ h := by cases h

theorem of_invalid (detail : String) : Told engine (.error (.invalidData d.codec detail)) d where
  zero h := by cases h
  failed _ h _ := .inr ⟨detail, (Except.error.inj h).symm⟩
  truncated _ h := by cases h

theorem of_failure {e : CodecError} (hopen : d.sourceEnded = false)
    (he : ∀ codec, e ≠ .truncated codec) : Told engine (.error e) d where
  zero h := by cases h
  failed _ _ hended := absurd hended (ne_true_of_eq_false hopen)
  truncated codec h := absurd (Except.error.inj h) (he codec)

theorem of_endOfSource (hended : d.sourceEnded = true) (hseen : d.session.Seen) :
    Told engine d.endOfSource d := by
  have htotal : d.session.totalIn = d.totalIn := rfl
  unfold endOfSource
  unfold DecoderSession.Seen at hseen
  by_cases hin : d.session.hasSeenInput = true
  · rw [if_pos hin]
    refine ⟨nofun, fun e h _ => .inl (Except.error.inj h).symm, fun _ _ => hseen.mp hin⟩
  · rw [if_neg hin]
    refine ⟨fun _ => .inr ⟨hended, ?_⟩, nofun, nofun⟩
    rw [hseen] at hin
    omega

end Told

namespace Kept

/-- An operation of the session leaves the balance as it is: what it consumes leaves the buffer. -/
theorem decompress {status : Status} {session : DecoderSession (ω × Ledger) σ} {w : Windows}
    (h : Kept engine source d)
    (hrun : d.session.decompress ⟨d.input, .empty dst⟩ = (.ok status, session, w)) :
    Kept engine source { d with session, input := w.src } ∧
      DecoderSession.Stops d.session ⟨d.input, .empty dst⟩ status session w := by
  obtain ⟨_, _, _, calls, hrun', hruns⟩ :=
    d.session.decompress_runs h.engine h.isDisposed h.handle ⟨d.input, .empty dst⟩
  cases hrun'.symm.trans hrun
  have hstops := DecoderSession.decompress_stops h.engine h.isDisposed h.handle hrun
  have htaken := congrArg List.length hruns.moved.src
  rw [List.length_append, CursorBuffer.length_octets_unread, CursorBuffer.length_octets_unread] at htaken
  refine ⟨⟨hruns.engine.trans h.engine, hruns.isDisposed.trans h.isDisposed, hruns.handle h.handle,
    hstops.seen h.seen, ?_⟩, hstops⟩
  have hbalance := h.balance
  have htotal : d.totalIn = d.session.totalIn := rfl
  have htotal' := hruns.totalIn
  dsimp only [Decompressor.totalIn] at *
  omega

theorem pulled {count : Nat} (h : Kept engine source d) (hsession : d'.session = d.session)
    (hjournal : d'.source.delivered = d.source.delivered + count)
    (hinput : d'.input.availableRead = d.input.availableRead + count) : Kept engine source d' := by
  refine ⟨hsession ▸ h.engine, hsession ▸ h.isDisposed, hsession ▸ h.handle, hsession ▸ h.seen, ?_⟩
  have hbalance := h.balance
  dsimp only [Decompressor.totalIn] at hbalance ⊢
  rw [hsession]
  omega

theorem waits (h : Kept engine source d) (hsession : d'.session = d.session)
    (hjournal : d'.source.delivered = d.source.delivered)
    (hinput : d'.input.availableRead = d.input.availableRead) : Kept engine source d' :=
  h.pulled hsession (hjournal.trans (Nat.add_zero _).symm) (hinput.trans (Nat.add_zero _).symm)

theorem accept (h : Kept engine source d) {delivery : Delivery} {s : Source}
    (hroom : delivery.reported ≤ d.input.availableWrite)
    (hjournal : s.delivered = d.source.delivered + delivery.reported) :
    Kept engine source (d.accept delivery s) :=
  h.pulled (d.session_accept delivery s) (by rw [source_accept]; exact hjournal)
    (d.availableRead_accept s hroom)

theorem of_moves {supplied : List UInt8} (h : Kept engine source d) (hmoves : Moves d supplied [] d')
    (hsession : d'.session = d.session) : Kept engine source d' := by
  have hinput := congrArg List.length hmoves.input
  rw [List.length_append, List.length_append, CursorBuffer.length_octets_unread,
    CursorBuffer.length_octets_unread] at hinput
  exact h.pulled hsession hmoves.journal (hinput.trans (Nat.zero_add _)).symm

/-- A round that answers: only a session that is done, or the end of the source, answers zero. -/
theorem answer {result : Except CodecError Nat} (h : Kept engine source d) (hdst : dst.size ≠ 0)
    (hround : d.round dst = .inr (result, dst', d')) : Kept engine source d' ∧ Told engine result d' := by
  obtain ⟨status, session, w, calls, hrun, -⟩ :=
    d.session.decompress_runs h.engine h.isDisposed h.handle ⟨d.input, .empty dst⟩
  obtain ⟨hkept, hstops⟩ := h.decompress hrun
  obtain ⟨_, session', w', hrun', -, rfl, hanswer⟩ := round_answers hround
  obtain ⟨rfl, hrest⟩ := Prod.mk.inj (hrun.symm.trans hrun')
  obtain ⟨rfl, rfl⟩ := Prod.mk.inj hrest
  refine ⟨hkept, ?_⟩
  cases hanswer with
  | done =>
    refine ⟨fun _ => .inl ⟨hstops.ended rfl, fun hannounces => ?_⟩, nofun, nofun⟩
    refine hstops.announced ?_ rfl
    rw [h.engine]
    exact fun input room handle world => hannounces input room handle world.1
  | full =>
    have hfull := hstops.full rfl
    have hcapacity : w.dst.capacity = dst.size := hstops.capacity
    rw [CursorBuffer.availableWrite] at hfull
    exact .of_bytes (by omega)
  | corrupt => exact .of_invalid _
  | bytes hsome => exact .of_bytes hsome
  | ended _ hended => exact .of_endOfSource hended hkept.seen

/-- A round that asks finds the source open, and has the room that it had. -/
theorem ask (h : Kept engine source d) (hround : d.round dst = .inl (dst', decoded)) :
    Kept engine source decoded ∧ decoded.sourceEnded = false ∧ dst'.size = dst.size := by
  obtain ⟨session, w, hrun, -, hopen, rfl, rfl⟩ := round_asks hround
  obtain ⟨hkept, hstops⟩ := h.decompress hrun
  exact ⟨hkept, hopen, hstops.capacity⟩

theorem fill (h : Kept engine source d) : Kept engine source d.fill.2 :=
  h.of_moves d.moves_fill d.session_fill

end Kept

/-- A pull that fails finds no end, neither of the source nor of the stream. -/
theorem fill_failure {e : CodecError} {filled : Decompressor ω σ} {d : Decompressor ω σ}
    (h : d.fill = (.error e, filled)) :
    filled.sourceEnded = d.sourceEnded ∧ ∀ codec, e ≠ .truncated codec := by
  unfold fill at h
  dsimp only at h
  split at h
  · cases h
    exact ⟨rfl, nofun⟩
  · split at h
    · cases h
      exact ⟨rfl, nofun⟩
    · split at h
      · cases h
        exact ⟨rfl, nofun⟩
      · cases h

theorem Kept.readSome (h : Kept engine source d) (hdst : dst.size ≠ 0) :
    Kept engine source (d.readSome dst).2.2 ∧ Told engine (d.readSome dst).1 (d.readSome dst).2.2 := by
  induction d, dst using readSome_rounds with
  | answers d dst answer hround => exact h.answer hdst hround
  | fails d dst dst' decoded e filled hround hfill =>
    obtain ⟨hkept, hopen, -⟩ := h.ask hround
    have hfilled := hkept.fill
    obtain ⟨hsame, he⟩ := fill_failure hfill
    rw [hfill] at hfilled
    exact ⟨hfilled, .of_failure (hsame.trans hopen) he⟩
  | pulls d dst dst' decoded filled hround hfill ih =>
    obtain ⟨hkept, -, hsize⟩ := h.ask hround
    have hfilled := hkept.fill
    rw [hfill] at hfilled
    exact ih hfilled (by rwa [hsize])

theorem session_readNothing (d : Decompressor ω σ) : d.readNothing.2.session = d.session := by
  unfold readNothing
  split
  · rfl
  · split
    · rfl
    · split <;> rfl

theorem Kept.read (h : Kept engine source d) (dst : ByteArray) :
    Kept engine source (d.read dst).2.2 ∧
      (dst.size ≠ 0 → Told engine (d.read dst).1 (d.read dst).2.2) := by
  unfold Decompressor.read
  rw [if_neg (ne_true_of_eq_false h.isDisposed)]
  split
  · next hdst =>
    exact ⟨h.of_moves d.moves_readNothing.1 d.session_readNothing, fun hsome => absurd hdst hsome⟩
  · next hdst => exact ⟨(h.readSome hdst).1, fun _ => (h.readSome hdst).2⟩

theorem Kept.afterReads (h : Kept engine source d) (dsts : List ByteArray) :
    Kept engine source (d.afterReads dsts) := by
  induction dsts generalizing d with
  | nil => exact h
  | cons dst dsts ih => exact ih (h.read dst).1

end Decompressor

namespace AsyncDecompressor

open Decompressor (Kept Told)

variable {engine : DecoderEngine ω σ} {source : Source} {d : Decompressor (ω × Ledger) σ}
  {dst : ByteArray}

/-- A pull that races a token enters what it reports into the buffer. -/
theorem kept_fill (h : Kept engine source d) (token : Token) (cancelled : Cancelled) :
    Kept engine source (fill token d cancelled).2.1 := by
  have hcompacted : Kept engine source { d with input := d.input.compact } :=
    h.waits rfl rfl d.input.availableRead_compact
  have hreports := d.source.reports_readOr d.input.compact.availableWrite token cancelled
  unfold fill
  dsimp only
  split
  · exact hcompacted
  · rcases hread : d.source.readOr d.input.compact.availableWrite token cancelled with
      ⟨(e | delivery) | _ | _, s, cancelled'⟩
    all_goals rw [hread] at hreports
    · exact hcompacted.waits rfl hreports.journal rfl
    · exact hcompacted.accept hreports.within hreports.journal
    · exact hcompacted.waits rfl hreports.journal rfl
    · exact hcompacted.waits rfl hreports.journal rfl

theorem fill_failure {d filled : Decompressor ω σ} {token : Token} {cancelled cancelled' : Cancelled}
    {outcome : Outcome Unit} (h : fill token d cancelled = (outcome, filled, cancelled'))
    (hfails : outcome ≠ .returned (.ok ())) :
    filled.sourceEnded = d.sourceEnded ∧ ∀ codec, outcome ≠ .returned (.error (.truncated codec)) := by
  unfold fill at h
  dsimp only at h
  split at h
  · cases h
    exact ⟨rfl, nofun⟩
  · split at h
    all_goals cases h
    · exact absurd rfl hfails
    · exact ⟨rfl, nofun⟩
    · exact ⟨rfl, nofun⟩
    · exact ⟨rfl, nofun⟩

/-- What the outcome of a read into some room says; one that is given up waits for a source that
goes on. -/
def Concludes (engine : DecoderEngine ω σ) (outcome : Outcome Nat) (d : Decompressor (ω × Ledger) σ) :
    Prop :=
  match outcome with
  | .returned result => Told engine result d
  | .abandoned => d.sourceEnded = false

theorem kept_readSome (h : Kept engine source d) (hdst : dst.size ≠ 0) (token : Token)
    (cancelled : Cancelled) :
    Kept engine source (readSome token d dst cancelled).2.2.1 ∧
      Concludes engine (readSome token d dst cancelled).1 (readSome token d dst cancelled).2.2.1 := by
  induction d, dst, cancelled using readSome_rounds with
  | answers d dst cancelled result dst' d' hround => exact h.answer hdst hround
  | fails d dst cancelled dst' decoded e filled cancelled' hround hfill =>
    obtain ⟨hkept, hopen, -⟩ := h.ask hround
    have hfilled := kept_fill hkept token cancelled
    obtain ⟨hsame, he⟩ := fill_failure hfill nofun
    rw [hfill] at hfilled
    refine ⟨hfilled, .of_failure (hsame.trans hopen) fun codec hcodec => he codec ?_⟩
    rw [hcodec]
  | abandons d dst cancelled dst' decoded filled cancelled' hround hfill =>
    obtain ⟨hkept, hopen, -⟩ := h.ask hround
    have hfilled := kept_fill hkept token cancelled
    rw [hfill] at hfilled
    exact ⟨hfilled, (fill_failure hfill nofun).1.trans hopen⟩
  | pulls d dst cancelled dst' decoded filled cancelled' hround hfill ih =>
    obtain ⟨hkept, -, hsize⟩ := h.ask hround
    have hfilled := kept_fill hkept token cancelled
    rw [hfill] at hfilled
    exact ih hfilled (by rwa [hsize])

theorem kept_readNothing (h : Kept engine source d) (token : Token) (cancelled : Cancelled) :
    Kept engine source (readNothing token d cancelled).2.1 := by
  have hreports := d.source.reports_readOr 0 token cancelled
  unfold readNothing
  split
  · exact h
  · rcases hread : d.source.readOr 0 token cancelled with ⟨(e | delivery) | _ | _, s, cancelled'⟩
    all_goals
      rw [hread] at hreports
      have hjournal := hreports.journal
      rw [Nat.le_zero.mp hreports.within] at hjournal
      exact h.waits rfl hjournal rfl

theorem take_refused {a : AsyncDecompressor ω σ} {reading : Reading} {e : CodecError}
    (h : a.refusal reading.token reading.cancelled.look = some e) :
    a.take reading = (.returned (.error e), reading.dst, a) := by
  unfold take read
  dsimp only
  rw [h]

theorem kept_take {a : AsyncDecompressor (ω × Ledger) σ} (h : Kept engine source a.base)
    (reading : Reading) :
    Kept engine source (a.take reading).2.2.base ∧
      (reading.dst.size ≠ 0 → a.refusal reading.token reading.cancelled.look = none →
        Concludes engine (a.take reading).1 (a.take reading).2.2.base) := by
  cases hrefusal : a.refusal reading.token reading.cancelled.look with
  | some e =>
    rw [take_refused hrefusal]
    exact ⟨h, fun _ => nofun⟩
  | none =>
    unfold take read
    dsimp only
    rw [hrefusal]
    dsimp only
    split
    · next hdst =>
      have hkept := kept_readNothing h reading.token reading.cancelled.look
      refine ⟨?_, fun hsome => absurd hdst hsome⟩
      rcases hread : readNothing reading.token a.base reading.cancelled.look with
        ⟨_ | _, base, cancelled'⟩
      all_goals
        rw [hread] at hkept
        exact hkept
    · next hdst =>
      obtain ⟨hkept, htold⟩ := kept_readSome h hdst reading.token reading.cancelled.look
      rcases hread : readSome reading.token a.base reading.dst reading.cancelled.look with
        ⟨_ | _, dst', base, cancelled'⟩
      all_goals
        rw [hread] at hkept htold
        exact ⟨hkept, fun _ _ => htold⟩

theorem kept_takeAll {a : AsyncDecompressor (ω × Ledger) σ} (h : Kept engine source a.base)
    (readings : List Reading) : Kept engine source (a.takeAll readings).base := by
  induction readings generalizing a with
  | nil => exact h
  | cons reading readings ih => exact ih (kept_take h reading).1

end AsyncDecompressor

/-- An answer that is never wrong about the source: zero says that the stream ended or that the source
delivered nothing, and where the source ended in mid-stream the answer are bytes or a failure. -/
structure Honest (source : Source) (Ended : Prop) (result : Except CodecError Nat)
    (d : Decompressor ω σ) : Prop where
  zero : result = .ok 0 → Ended ∨ d.source.delivered = source.delivered
  cut : d.sourceEnded = true → source.delivered < d.source.delivered → ¬Ended →
    (∃ n, 0 < n ∧ result = .ok n) ∨ result = .error (.truncated d.codec) ∨
      ∃ detail, result = .error (.invalidData d.codec detail)

/-- What an answer tells after the calls of a ledger. -/
structure Tells (engine : DecoderEngine ω σ) (source : Source) (calls : Ledger)
    (result : Except CodecError Nat) (d : Decompressor ω σ) : Prop where
  grounds : result = .ok 0 → d.session.Ended calls ∨ d.sourceEnded = true ∧ d.totalIn = 0
  truncated : ∀ codec, result = .error (.truncated codec) → 0 < d.totalIn
  honest : 0 < d.totalIn ∨ d.source.delivered = source.delivered →
    Honest source (d.session.Ended calls) result d ∧
      (engine.Announces → Honest source (d.isFinished = true) result d)

namespace Decompressor

theorem Told.honest {engine : DecoderEngine ω σ} {source : Source} {result : Except CodecError Nat}
    {d : Decompressor (ω × Ledger) σ} (h : Told engine result d) {Ended : Prop}
    (hended : d.session.Ended d.ledger ∧ (engine.Announces → d.isFinished = true) → Ended)
    (hin : 0 < d.totalIn ∨ d.source.delivered = source.delivered) : Honest source Ended result d := by
  refine ⟨fun hzero => ?_, fun hsource hsome hopen => ?_⟩
  · rcases h.zero hzero with hdone | ⟨-, hnone⟩
    · exact .inl (hended hdone)
    · exact .inr (hin.resolve_left (by omega))
  · rcases result with e | _ | n
    · rcases h.failed e rfl hsource with rfl | ⟨detail, rfl⟩
      · exact .inr (.inl rfl)
      · exact .inr (.inr ⟨detail, rfl⟩)
    · rcases h.zero rfl with hdone | ⟨-, hnone⟩
      · exact absurd (hended hdone) hopen
      · omega
    · exact .inl ⟨n + 1, Nat.succ_pos n, rfl⟩

/-- The recording engine aside, an answer tells what it tells over the recording one. -/
theorem Told.tells {engine : DecoderEngine ω σ} {result : Except CodecError Nat}
    {d : Decompressor ω σ} {calls : Ledger} (h : Told engine result (d.recorded calls))
    (source : Source) : Tells engine source calls result d where
  grounds hzero := (h.zero hzero).imp And.left id
  truncated := h.truncated
  honest hin := by
    have hplain {Ended : Prop} (h : Honest source Ended result (d.recorded calls)) :
        Honest source Ended result d := ⟨h.zero, h.cut⟩
    exact ⟨hplain (h.honest And.left hin),
      fun hannounces => hplain (h.honest (fun hended => hended.2 hannounces) hin)⟩

theorem kept_new {registry : Registry ω ε σ} {world world' : ω} {source : Source} {o : CodecOptions}
    {options : StreamOptions} {factory : Factory ω ε σ} {d : Decompressor ω σ}
    (hfactory : registry.factory o.codec = .ok factory)
    (hnew : Decompressor.new registry world source o options = (.ok d, world')) :
    Kept factory.decoder source (d.recorded []) := by
  obtain ⟨factory', _, _, handle, hfactory', -, -, rfl⟩ := created hnew
  obtain rfl := Except.ok.inj (hfactory.symm.trans hfactory')
  exact ⟨rfl, rfl, rfl, ⟨nofun, nofun⟩, rfl⟩

end Decompressor

/-- Over any engine, behind any source and after any row of reads, what a read into some room
answers of the end of the stream is grounded on what the engine reported and consumed; it is right
about the source too unless the source delivered bytes of which the engine consumed none. This
holds of a blocking decompressor and of the reads of a suspending one that may begin. -/
theorem ends_told (registry : Registry ω ε σ) (world : ω) (source : Source) (o : CodecOptions)
    (options : StreamOptions) {factory : Factory ω ε σ}
    (hfactory : registry.factory o.codec = .ok factory) :
    (∀ d world', Decompressor.new registry world source o options = (.ok d, world') →
      ∀ dsts dst, dst.size ≠ 0 →
        Tells factory.decoder source (((d.recorded []).afterReads dsts).read dst).2.2.ledger
          ((d.afterReads dsts).read dst).1 ((d.afterReads dsts).read dst).2.2) ∧
    ∀ a world', AsyncDecompressor.new registry world source o options = (.ok a, world') →
      ∀ readings reading, reading.dst.size ≠ 0 →
        (∀ e, (a.takeAll readings).refusal reading.token reading.cancelled.look = some e →
          (a.takeAll readings).take reading =
            (.returned (.error e), reading.dst, a.takeAll readings)) ∧
        ((a.takeAll readings).refusal reading.token reading.cancelled.look = none →
          (∀ result, ((a.takeAll readings).take reading).1 = .returned result →
            Tells factory.decoder source
              (((a.recorded []).takeAll readings).take reading).2.2.base.ledger result
              ((a.takeAll readings).take reading).2.2.base) ∧
          (((a.takeAll readings).take reading).1 = .abandoned →
            ((a.takeAll readings).take reading).2.2.base.sourceEnded = false)) := by
  refine ⟨fun d world' hnew dsts dst hdst => ?_, fun a world' hnew readings reading hdst => ?_⟩
  · have hkept := (Decompressor.kept_new hfactory hnew).afterReads dsts
    obtain ⟨ledger, hafter⟩ := d.recorded_afterReads dsts []
    obtain ⟨ledger', hread⟩ := (d.afterReads dsts).recorded_read dst ledger
    rw [hafter] at hkept ⊢
    have htold := (hkept.read dst).2 hdst
    rw [hread] at htold ⊢
    exact htold.tells source
  · obtain ⟨hbase, -⟩ := AsyncDecompressor.new_base hnew
    have hstart : Decompressor.Kept factory.decoder source (a.recorded []).base :=
      Decompressor.kept_new hfactory hbase
    have hkept := AsyncDecompressor.kept_takeAll hstart readings
    obtain ⟨ledger, hafter⟩ := a.recorded_takeAll readings []
    obtain ⟨ledger', htake⟩ := (a.takeAll readings).recorded_take reading ledger
    rw [hafter] at hkept ⊢
    have htold := (AsyncDecompressor.kept_take hkept reading).2 hdst
    rw [htake, AsyncDecompressor.recorded_refusal] at htold
    rw [htake]
    refine ⟨fun e => AsyncDecompressor.take_refused, fun hbegins => ?_⟩
    have hconcludes := htold hbegins
    refine ⟨fun result hresult => ?_, fun habandoned => ?_⟩
    · dsimp only at hconcludes
      rw [hresult] at hconcludes
      exact hconcludes.tells source
    · dsimp only at hconcludes
      rw [habandoned] at hconcludes
      exact hconcludes

theorem ends_told_marked :
    ∃ d a, Decompressor.new Marked.registry () Marked.cutSource Marked.options Marked.stream₃ =
        (.ok d, ()) ∧
      AsyncDecompressor.new Marked.registry () Marked.cutSource Marked.options Marked.stream₃ =
        (.ok a, ()) ∧
      (∀ dsts, Tells Marked.Decoder.engine Marked.cutSource
        (((d.recorded []).afterReads dsts).read ⟨#[0]⟩).2.2.ledger
        ((d.afterReads dsts).read ⟨#[0]⟩).1 ((d.afterReads dsts).read ⟨#[0]⟩).2.2) ∧
      a.refusal "go" (Cancelled.look {}) = none ∧
      ∀ result, (a.take ⟨"go", ⟨#[0]⟩, {}⟩).1 = .returned result →
        Tells Marked.Decoder.engine Marked.cutSource
          ((a.recorded []).take ⟨"go", ⟨#[0]⟩, {}⟩).2.2.base.ledger result
          (a.take ⟨"go", ⟨#[0]⟩, {}⟩).2.2.base := by
  have hfactory : Marked.registry.factory Marked.options.codec = .ok Marked.factory := rfl
  obtain ⟨hblocking, hsuspending⟩ := ends_told Marked.registry () Marked.cutSource Marked.options
    Marked.stream₃ hfactory
  refine ⟨_, { base := Marked.decompressor Marked.cutSource Marked.stream₃ },
    Marked.new_decompressor .., rfl,
    fun dsts => hblocking _ _ (Marked.new_decompressor ..) dsts ⟨#[0]⟩ (by decide), rfl, ?_⟩
  exact ((hsuspending _ _ rfl [] ⟨"go", ⟨#[0]⟩, {}⟩ (by decide)).2 rfl).1

/-- Over a decoder that takes nothing a source that ends after a byte looks like an empty one, to
either kind of decompressor. -/
theorem cut_source_looks_empty :
    Marked.deaf.Announces ∧
    ∃ d a, Decompressor.new Marked.deafRegistry () Marked.shortSource Marked.options Marked.stream₃ =
        (.ok d, ()) ∧
      AsyncDecompressor.new Marked.deafRegistry () Marked.shortSource Marked.options Marked.stream₃ =
        (.ok a, ()) ∧
      ¬Honest Marked.shortSource ((d.read ⟨#[0]⟩).2.2.isFinished = true) (d.read ⟨#[0]⟩).1
        (d.read ⟨#[0]⟩).2.2 ∧
      ∃ result, (a.take ⟨"go", ⟨#[0]⟩, {}⟩).1 = .returned result ∧
        ¬Honest Marked.shortSource ((a.take ⟨"go", ⟨#[0]⟩, {}⟩).2.2.base.isFinished = true) result
          (a.take ⟨"go", ⟨#[0]⟩, {}⟩).2.2.base := by
  have hempty {σ : Type} {d : Decompressor Unit σ} (hopen : d.isFinished = false)
      (hone : d.source.delivered = 1) :
      ¬Honest Marked.shortSource (d.isFinished = true) (.ok 0) d := by
    intro h
    rcases h.zero rfl with hfinished | hnone
    · rw [hopen] at hfinished
      cases hfinished
    · rw [hone] at hnone
      cases hnone
  refine ⟨nofun, Marked.deafDecompressor, { base := Marked.deafDecompressor }, rfl, rfl, ?_,
    .ok 0, by cbv, hempty (by cbv) (by cbv)⟩
  -- The first round asks without a call, the second offers the byte in vain.
  generalize hd : Marked.deafDecompressor = d
  have hfirst : d.round ⟨#[0]⟩ = .inl (⟨#[0]⟩, d) := by subst hd; cbv
  have hfill : d.fill = (.ok (), d.fill.2) := by subst hd; cbv
  have hsecond : d.fill.2.round ⟨#[0]⟩ = .inl (⟨#[0]⟩, d.fill.2) := by subst hd; cbv
  have hend : d.fill.2.fill = (.ok (), d.fill.2.fill.2) := by subst hd; cbv
  have hlast : d.fill.2.fill.2.round ⟨#[0]⟩ = .inr (.ok 0, ⟨#[0]⟩, d.fill.2.fill.2) := by
    subst hd
    cbv
  have hread : d.read ⟨#[0]⟩ = (.ok 0, ⟨#[0]⟩, d.fill.2.fill.2) := by
    have hsome : d.read ⟨#[0]⟩ = d.readSome ⟨#[0]⟩ := by subst hd; rfl
    rw [hsome, Decompressor.readSome_of_pull hfirst hfill,
      Decompressor.readSome_of_pull hsecond hend, Decompressor.readSome_of_answer hlast]
  rw [hread]
  subst hd
  exact hempty (by cbv) (by cbv)

end StreamCodec
