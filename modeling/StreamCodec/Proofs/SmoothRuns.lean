import StreamCodec.Proofs.EncoderOutcome
import StreamCodec.Proofs.Lifecycle

/-!
# Runs in which nothing fails

A drive that succeeds is a row of passes in each of which the session ran and the
sink took all of the output. Between two passes the compressor is `Ready`: its
engine is open, the sink is its own, and its output buffer is empty. Over a
recording engine it is `Level` as well: what the engine produced is in the sink,
and the totals are those of the ledger, whatever the sink answers as long as it
does not fail. A smooth run is a row of writes and flushes that all succeed.
-/
namespace StreamCodec

variable {ω σ δ : Type}

namespace EncoderSession

theorem drive_ne_needMoreData (op : FlushOp) (s : EncoderSession ω σ) (handle : σ) (w : Windows)
    (stalled : Nat) : (drive op s handle w stalled).1 ≠ .needMoreData := by
  fun_induction drive op s handle w stalled with
  | case1 | case2 | case3 | case4 | case5 | case6 => simp
  | case7 _ _ _ _ _ _ _ _ _ _ _ _ _ _ _ _ _ _ ih => exact ih
  | case8 _ _ _ _ _ _ _ _ _ _ _ _ _ _ _ ih => exact ih

/-- What an operation on an open session answers: it moves the bytes of some engine calls. -/
theorem compress_moved {op : FlushOp} {s s' : EncoderSession ω σ} {w w' : Windows} {status : Status}
    (hlive : s.isDisposed = false) (hopen : s.handle.isSome)
    (h : s.compress op w = (.ok status, s', w')) :
    status ≠ .needMoreData ∧ ∃ calls, Moved calls w w' := by
  obtain ⟨handle, hhandle⟩ := Option.isSome_iff_exists.mp hopen
  have hopened := opened_of_handle hlive hhandle
  constructor
  · have hfed := drive_ne_needMoreData op s handle w 0
    simp only [compress, hopened] at h
    split at h
    · split at h <;> cases h
      decide
    · split at h <;> cases h
      · decide
      · exact hfed
  · have hout : Outcome op s w _ _ := outcome_opened hopened w
    rw [h] at hout
    exact ⟨_, hout.moved⟩

end EncoderSession

namespace Compressor

/-- A pass in which nothing failed: the session ran, and the sink took all of the output. -/
def Passed (op : FlushOp) (c : Compressor ω σ) (src : CursorBuffer) (status : Status)
    (c' : Compressor ω σ) (src' : CursorBuffer) : Prop :=
  ∃ session w, c.session.compress op ⟨src, c.output⟩ = (.ok status, session, w) ∧
    { c with session, output := w.dst }.drain = (.ok (), c') ∧ src' = w.src

theorem passed_of_again {op : FlushOp} {c c' : Compressor ω σ} {src src' : CursorBuffer}
    (h : pass op c src = .inl (c', src')) : Passed op c src .destinationTooSmall c' src' := by
  unfold pass at h
  split at h
  · cases h
  · next status session w hran =>
    split at h
    · cases h
    · next d hdrained =>
      cases status with
      | destinationTooSmall =>
        cases h
        exact ⟨session, w, hran, hdrained, rfl⟩
      | done | needMoreData | invalidData => cases h

theorem passed_of_last {op : FlushOp} {c c' : Compressor ω σ} {src src' : CursorBuffer}
    (h : pass op c src = .inr (.ok (), c', src')) :
    ∃ status, (status = .done ∨ status = .needMoreData) ∧ Passed op c src status c' src' := by
  unfold pass at h
  split at h
  · cases h
  · next status session w hran =>
    split at h
    · cases h
    · next d hdrained =>
      cases status with
      | done =>
        cases h
        exact ⟨_, .inl rfl, session, w, hran, hdrained, rfl⟩
      | needMoreData =>
        cases h
        exact ⟨_, .inr rfl, session, w, hran, hdrained, rfl⟩
      | destinationTooSmall | invalidData => cases h

/-- A compressor between two passes in front of a sink that fails nothing: its engine is open, the
sink is its own, and it has nothing to hand on. -/
structure Ready (c : Compressor ω σ) : Prop where
  live : c.session.isDisposed = false
  handle : c.session.handle.isSome
  holdsSink : c.holdsSink = true
  notCompleted : c.isCompleted = false
  isEmpty : c.output.isEmpty = true
  pos : c.output.pos = 0
  room : 0 < c.output.capacity

theorem Ready.availableWrite {c : Compressor ω σ} (h : c.Ready) :
    c.output.availableWrite = c.output.capacity := by
  have hread := c.output.isEmpty_iff.mp h.isEmpty
  have hall := c.output.availableRead_add_availableWrite h.pos
  omega

/-- What a drain that succeeded leaves of the output. -/
theorem output_of_drained {c c' : Compressor ω σ} (hpos : c.output.pos = 0)
    (h : c.drain = (.ok (), c')) : c'.output.pos = 0 ∧ c'.output.capacity = c.output.capacity := by
  unfold drain at h
  split at h
  · cases h
    exact ⟨hpos, rfl⟩
  · split at h
    · cases h
    · split at h <;> cases h
      exact ⟨rfl, rfl⟩

theorem Passed.frame {op : FlushOp} {c c' : Compressor ω σ} {src src' : CursorBuffer}
    {status : Status} (h : Passed op c src status c' src') : Frame c c' := by
  obtain ⟨session, w, hran, hdrained, -⟩ := h
  have hsession := EncoderSession.compress_frame op c.session ⟨src, c.output⟩
  rw [hran] at hsession
  rw [drain_frame hdrained]
  exact ⟨hsession, rfl, rfl, rfl⟩

theorem Ready.passed {op : FlushOp} {c c' : Compressor ω σ} {src src' : CursorBuffer}
    {status : Status} (h : c.Ready) (hpassed : Passed op c src status c' src') :
    c'.Ready ∧ status ≠ .needMoreData := by
  have hframe := hpassed.frame
  obtain ⟨session, w, hran, hdrained, -⟩ := hpassed
  obtain ⟨hfed, calls, hmoved⟩ := EncoderSession.compress_moved h.live h.handle hran
  obtain ⟨hpos, hcapacity⟩ := output_of_drained (hmoved.pos.trans h.pos) hdrained
  have hlive := hframe.session.isDisposed.trans h.live
  refine ⟨⟨hlive, hframe.session.ready (fun _ => h.handle) hlive, hframe.holdsSink.trans h.holdsSink,
    hframe.isCompleted.trans h.notCompleted, (drained_of_ok hdrained).1, hpos, ?_⟩, hfed⟩
  rw [hcapacity, hmoved.capacity]
  exact h.room

/-- A drive that succeeds: what its passes keep holds in its last pass, and that pass is done. -/
theorem drive_passes {op : FlushOp} {c c' : Compressor ω σ} {src src' : CursorBuffer}
    {P : Compressor ω σ → CursorBuffer → Prop} (hready : c.Ready) (start : P c src)
    (kept : ∀ d rest d' rest', d.Ready → P d rest →
      Passed op d rest .destinationTooSmall d' rest' → P d' rest')
    (h : drive op c src = (.ok (), c', src')) :
    ∃ d rest, d.Ready ∧ P d rest ∧ Passed op d rest .done c' src' := by
  rcases drive_cases op c src with hloop | hrefused
  · rw [h] at hloop
    obtain ⟨⟨d, rest⟩, ⟨hd, hp⟩, hlast⟩ := loop_invariant (fun x => x.1.Ready ∧ P x.1 x.2)
      (fun x x' hx hpass => by
        have hpassed := passed_of_again hpass
        exact ⟨(hx.1.passed hpassed).1, kept _ _ _ _ hx.1 hx.2 hpassed⟩)
      ⟨hready, start⟩ hloop
    obtain ⟨status, hend, hpassed⟩ := passed_of_last hlast
    obtain rfl := hend.resolve_right (hd.passed hpassed).2
    exact ⟨d, rest, hd, hp, hpassed⟩
  · rw [h] at hrefused
    cases hrefused

theorem Ready.drive {op : FlushOp} {c c' : Compressor ω σ} {src src' : CursorBuffer} (hready : c.Ready)
    (h : drive op c src = (.ok (), c', src')) : c'.Ready := by
  obtain ⟨d, rest, hd, -, hpassed⟩ := drive_passes (P := fun _ _ => True) hready trivial
    (fun _ _ _ _ _ _ _ => trivial) h
  exact (hd.passed hpassed).1

theorem Ready.drive_of_write {c c' : Compressor ω σ} {data : ByteArray} {n : Nat} (hready : c.Ready)
    (h : c.write data = (.ok n, c')) :
    ∃ src', Compressor.drive .process c (.filled data) = (.ok (), c', src') ∧
      n = data.size - src'.availableRead := by
  unfold write at h
  rw [if_neg (by rw [hready.live]; simp), if_neg (by rw [hready.notCompleted]; simp)] at h
  split at h
  · cases h
  · next src' hdrive =>
    cases h
    exact ⟨src', hdrive, rfl⟩

/-- A flush is a drive and, once that has succeeded, a flush of the sink. -/
theorem Ready.flush_eq {c : Compressor ω σ} (hready : c.Ready) :
    c.flush = match c.driveIdle .flush with
      | (.error e, c) => (.error e, c)
      | (.ok (), c) => c.flushSink := by
  have hlive : ¬c.session.isDisposed = true := by simp [hready.live]
  have hrunning : ¬c.isCompleted = true := by simp [hready.notCompleted]
  exact (if_neg hlive).trans (if_neg hrunning)

theorem driveIdle_eq (op : FlushOp) (c : Compressor ω σ) :
    c.driveIdle op =
      ((drive op c (.filled ByteArray.empty)).1, (drive op c (.filled ByteArray.empty)).2.1) := rfl

theorem Ready.drive_of_flush {c c' : Compressor ω σ} (hready : c.Ready)
    (h : c.flush = (.ok (), c')) :
    ∃ d src', Compressor.drive .flush c (.filled ByteArray.empty) = (.ok (), d, src') ∧
      d.Ready ∧ d.sink.flush.1 = .ok () ∧ c' = { d with sink := d.sink.flush.2 } := by
  rw [hready.flush_eq, driveIdle_eq] at h
  rcases hdrive : Compressor.drive .flush c (.filled ByteArray.empty) with ⟨_ | _, d, src'⟩
  all_goals simp only [hdrive] at h
  · cases h
  · have hd := hready.drive hdrive
    exact ⟨d, src', rfl, hd, flushSink_ok hd.holdsSink h⟩

theorem Ready.drive_of_complete {c c' : Compressor ω σ} (hready : c.Ready)
    (h : c.complete = (.ok (), c')) :
    ∃ d src', Compressor.drive .finish c (.filled ByteArray.empty) = (.ok (), d, src') ∧
      d.Ready ∧ d.sink.flush.1 = .ok () ∧
      c' = { d with isCompleted := true, sink := d.sink.flush.2 } := by
  have hlive : ¬c.session.isDisposed = true := by simp [hready.live]
  have hrunning : ¬c.isCompleted = true := by simp [hready.notCompleted]
  rw [complete, if_neg hlive, if_neg hrunning, driveIdle_eq] at h
  rcases hdrive : Compressor.drive .finish c (.filled ByteArray.empty) with ⟨_ | _, d, src'⟩
  all_goals simp only [hdrive] at h
  · cases h
  · have hd := hready.drive hdrive
    exact ⟨d, src', rfl, hd, flushSink_ok (c := { d with isCompleted := true }) hd.holdsSink h⟩

theorem Ready.withSink {c : Compressor ω σ} (h : c.Ready) (sink : Sink) :
    Ready { c with sink } :=
  ⟨h.live, h.handle, h.holdsSink, h.notCompleted, h.isEmpty, h.pos, h.room⟩

theorem ready_new {registry : Registry ω σ δ} {world world' : ω} {sink : Sink} {o : CodecOptions}
    {options : StreamOptions} {c : Compressor ω σ}
    (h : Compressor.new registry world sink o options = (.ok c, world')) : c.Ready := by
  obtain ⟨factory, handle₁, world₁, handle, -, -, -, rfl⟩ := created h
  refine ⟨rfl, rfl, rfl, rfl, rfl, rfl, ?_⟩
  show 0 < (CursorBuffer.withCapacity options.capacity).capacity
  rw [CursorBuffer.capacity_withCapacity]
  exact options.capacity_pos

theorem Ready.recorded {c : Compressor ω σ} (h : c.Ready) (ledger : Ledger) :
    (c.recorded ledger).Ready :=
  ⟨h.live, h.handle, h.holdsSink, h.notCompleted, h.isEmpty, h.pos, h.room⟩

section Level

/-- What the engine produced is in the sink behind the bytes that were there before, and the
totals are those of the ledger. -/
structure Level (base : List UInt8) (c : Compressor (ω × Ledger) σ) : Prop where
  engine : ∃ engine : EncoderEngine ω σ, c.session.engine = engine.recording
  sink : octets c.sink.data = base ++ c.ledger.produced
  totalIn : c.totalIn = c.ledger.consumed.length
  totalOut : c.totalOut = c.ledger.produced.length

variable {base : List UInt8} {op : FlushOp} {c c' : Compressor (ω × Ledger) σ}
  {src src' : CursorBuffer}

theorem Level.passed {status : Status} (h : Level base c) (hready : c.Ready)
    (hpassed : Passed op c src status c' src') :
    ∃ calls, Level base c' ∧ c'.ledger = c.ledger ++ calls ∧
      octets src.unread = calls.consumed ++ octets src'.unread := by
  obtain ⟨session, w, hran, hdrained, rfl⟩ := hpassed
  obtain ⟨engine, he⟩ := h.engine
  rcases EncoderSession.compress_ends op c.session he (fun _ => hready.handle) ⟨src, c.output⟩ with
    ⟨e, hrefused⟩ | ⟨-, status', session', w', calls, hran', hends⟩
  · rw [hran] at hrefused
    cases hrefused
  obtain ⟨hstatus, hrest⟩ := Prod.mk.inj (hran'.symm.trans hran)
  obtain ⟨rfl, rfl⟩ := Prod.mk.inj hrest
  have hcharged := hends.charged
  have hsession : c'.session = session' := congrArg (·.session) (drain_frame hdrained)
  have hledger : c'.ledger = c.ledger ++ calls := by
    rw [ledger, hsession]
    exact hcharged.ledger
  have hempty : octets c.output.unread = [] := c.output.octets_unread_eq_nil_iff.mpr hready.isEmpty
  have hout : octets w'.dst.unread = calls.produced := by
    rw [hends.moved.dst, hempty, List.nil_append]
  refine ⟨calls, ⟨⟨engine, ?_⟩, ?_, ?_, ?_⟩, hledger, hends.moved.src⟩
  · rw [hsession, hcharged.engine, he]
  · rw [(drained_of_ok hdrained).2, hout, h.sink, hledger, Ledger.produced_append, List.append_assoc]
  · rw [hledger, Ledger.consumed_append, List.length_append, ← h.totalIn, Compressor.totalIn, hsession]
    exact hcharged.totalIn
  · rw [hledger, Ledger.produced_append, List.length_append, ← h.totalOut, Compressor.totalOut, hsession]
    exact hcharged.totalOut

/-- A drive that succeeds keeps the level, and what it consumed left the front of the source. -/
theorem Level.drive (h : Level base c) (hready : c.Ready)
    (hdrive : drive op c src = (.ok (), c', src')) :
    ∃ calls, Level base c' ∧ c'.ledger = c.ledger ++ calls ∧
      octets src.unread = calls.consumed ++ octets src'.unread := by
  obtain ⟨d, rest, hd, ⟨calls, hlevel, hledger, hsrc⟩, hlast⟩ := drive_passes
    (P := fun d rest => ∃ calls, Level base d ∧ d.ledger = c.ledger ++ calls ∧
      octets src.unread = calls.consumed ++ octets rest.unread) hready
    ⟨[], h, (List.append_nil _).symm, rfl⟩
    (fun d rest d' rest' hd ⟨calls, hlevel, hledger, hsrc⟩ hpassed => by
      obtain ⟨more, hlevel', hledger', hsrc'⟩ := hlevel.passed hd hpassed
      refine ⟨calls ++ more, hlevel', ?_, ?_⟩
      · rw [hledger', hledger, List.append_assoc]
      · rw [hsrc, hsrc', Ledger.consumed_append, List.append_assoc]) hdrive
  obtain ⟨more, hlevel', hledger', hsrc'⟩ := hlevel.passed hd hlast
  refine ⟨calls ++ more, hlevel', ?_, ?_⟩
  · rw [hledger', hledger, List.append_assoc]
  · rw [hsrc, hsrc', Ledger.consumed_append, List.append_assoc]

theorem Level.write {data : ByteArray} {n : Nat} (h : Level base c) (hready : c.Ready)
    (hwrite : c.write data = (.ok n, c')) :
    ∃ calls, Level base c' ∧ c'.Ready ∧ c'.ledger = c.ledger ++ calls ∧
      calls.consumed = (octets data).take n ∧ n ≤ data.size := by
  obtain ⟨src', hdrive, rfl⟩ := hready.drive_of_write hwrite
  obtain ⟨calls, hlevel, hledger, hsrc⟩ := h.drive hready hdrive
  rw [CursorBuffer.octets_unread_filled] at hsrc
  have hlength : data.size = calls.consumed.length + src'.availableRead := by
    rw [← length_octets, hsrc, List.length_append, CursorBuffer.length_octets_unread]
  refine ⟨calls, hlevel, hready.drive hdrive, hledger, ?_, Nat.sub_le ..⟩
  rw [hsrc, List.take_left' (by omega)]

theorem Level.flushSink (h : Level base c) : Level base { c with sink := c.sink.flush.2 } := by
  obtain ⟨event, -, -, hdata, -⟩ := c.sink.flush_silent
  refine ⟨h.engine, ?_, h.totalIn, h.totalOut⟩
  show octets c.sink.flush.2.data = base ++ c.ledger.produced
  rw [hdata]
  exact h.sink

theorem Level.flush (h : Level base c) (hready : c.Ready) (hflush : c.flush = (.ok (), c')) :
    ∃ calls, Level base c' ∧ c'.Ready ∧ c'.ledger = c.ledger ++ calls ∧ calls.consumed = [] := by
  obtain ⟨d, src', hdrive, hd, -, rfl⟩ := hready.drive_of_flush hflush
  obtain ⟨calls, hlevel, hledger, hsrc⟩ := h.drive hready hdrive
  rw [CursorBuffer.octets_unread_filled, octets_empty] at hsrc
  exact ⟨calls, hlevel.flushSink, hd.withSink _, hledger, (List.append_eq_nil_iff.mp hsrc.symm).1⟩

theorem Fresh.level {sink : Sink} {options : StreamOptions} (h : Fresh c sink options) :
    Level (octets sink.data) c where
  engine := h.engine
  sink := by rw [h.sink, h.ledger, Ledger.produced_nil, List.append_nil]
  totalIn := by rw [h.totalIn, h.ledger]; rfl
  totalOut := by rw [h.totalOut, h.ledger]; rfl

end Level

/-- Requests that feed a stream and leave it open. -/
def Request.Feeds : Request → Prop
  | .write _ | .flush => True
  | .complete | .dispose => False

def Smooth (c : Compressor ω σ) : List Request → Prop
  | [] => True
  | request :: rest =>
    request.Feeds ∧ (c.serve request).1.isOk = true ∧ (c.serve request).2.Smooth rest

theorem serveAll_concat (c : Compressor ω σ) (requests : List Request) (request : Request) :
    c.serveAll (requests ++ [request]) = ((c.serveAll requests).serve request).2 := by
  rw [serveAll, List.foldl_append]
  rfl

theorem smooth_concat (requests : List Request) (c : Compressor ω σ) (request : Request) :
    c.Smooth (requests ++ [request]) ↔
      c.Smooth requests ∧ request.Feeds ∧ ((c.serveAll requests).serve request).1.isOk = true := by
  induction requests generalizing c with
  | nil =>
    constructor
    · rintro ⟨hfeeds, hok, -⟩
      exact ⟨trivial, hfeeds, hok⟩
    · rintro ⟨-, hfeeds, hok⟩
      exact ⟨hfeeds, hok, trivial⟩
  | cons first rest ih =>
    rw [List.cons_append, Smooth, Smooth, ih (c.serve first).2, and_assoc, and_assoc]
    rfl

theorem served_of_ok {c : Compressor ω σ} {request : Request} (hfeeds : request.Feeds)
    (hok : (c.serve request).1.isOk = true) :
    (∃ data n, request = .write data ∧ c.write data = (.ok n, (c.serve request).2)) ∨
      (request = .flush ∧ c.flush = (.ok (), (c.serve request).2)) := by
  cases request with
  | write data =>
    cases hwrite : (c.write data).1 with
    | error e => simp [serve, hwrite, Except.map, Except.isOk, Except.toBool] at hok
    | ok n => exact .inl ⟨data, n, rfl, Prod.ext hwrite rfl⟩
  | flush =>
    cases hflush : c.flush.1 with
    | error e => simp [serve, hflush, Except.map, Except.isOk, Except.toBool] at hok
    | ok n => exact .inr ⟨rfl, Prod.ext hflush rfl⟩
  | complete | dispose => exact hfeeds.elim

/-- What holds before any request and is kept by every write and every flush that succeeds holds
after a smooth run. -/
theorem smooth_induction {P : List Request → Prop} {c : Compressor ω σ} (start : P [])
    (write : ∀ requests data n, P requests →
      (c.serveAll requests).write data = (.ok n, c.serveAll (requests ++ [.write data])) →
      P (requests ++ [.write data]))
    (flush : ∀ requests, P requests →
      (c.serveAll requests).flush = (.ok (), c.serveAll (requests ++ [.flush])) →
      P (requests ++ [.flush]))
    (requests : List Request) (h : c.Smooth requests) : P requests := by
  induction requests using List.reverseRecOn with
  | nil => exact start
  | append_singleton requests request ih =>
    obtain ⟨hbefore, hfeeds, hok⟩ := (smooth_concat requests c request).mp h
    rcases served_of_ok hfeeds hok with ⟨data, n, rfl, hwrite⟩ | ⟨rfl, hflush⟩
    · rw [← serveAll_concat] at hwrite
      exact write requests data n (ih hbefore) hwrite
    · rw [← serveAll_concat] at hflush
      exact flush requests (ih hbefore) hflush

/-- The requests up to the last flush. -/
def upToFlush (requests : List Request) : List Request :=
  requests.rdropWhile fun
    | .flush => false
    | _ => true

theorem upToFlush_write (requests : List Request) (data : ByteArray) :
    upToFlush (requests ++ [.write data]) = upToFlush requests :=
  List.rdropWhile_concat_pos _ _ _ rfl

theorem upToFlush_flush (requests : List Request) :
    upToFlush (requests ++ [.flush]) = requests ++ [.flush] :=
  List.rdropWhile_concat_neg _ _ _ nofun

end Compressor

end StreamCodec
