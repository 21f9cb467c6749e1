import StreamCodec.Proofs.ReadRequests
import StreamCodec.Proofs.Transfers

/-!
# Sources that claim more than they were given room for

A source reports how many bytes it delivered, and nothing keeps it from
reporting more than there was room for. A decompressor compares every report
with the room before it makes use of it: the read fails, and the decompressor is
left as it was when it asked, so that no byte of the claim ever reaches the
engine. The same goes for the decompression of a whole source. A compression of
a whole source cuts the claimed bytes from its chunk without a comparison, and
is lost there, before its engine is called.
-/
namespace StreamCodec

variable {ω σ ε δ : Type}

namespace SourceEvent

/-- A claim of more bytes than there was room for. -/
def Overruns : SourceEvent → Prop
  | .read room reported => room < reported
  | .readFailed _ | .readPaused _ | .dropped => False

/-- How a read is entered into the journal. -/
def ofRead (room : Nat) : Except IoError Delivery → SourceEvent
  | .ok delivery => .read room delivery.reported
  | .error _ => .readFailed room

end SourceEvent

namespace Source

/-- From `s` to `s'` the source kept to the room of every read. -/
def Keeps (s s' : Source) : Prop :=
  ∃ events, s'.journal = events ++ s.journal ∧ ∀ event ∈ events, ¬event.Overruns

/-- From `s` to `s'` the source was asked for `room` bytes and claimed `reported` bytes, too many. -/
def Overclaims (s s' : Source) (room reported : Nat) : Prop :=
  room < reported ∧ ∃ events, s'.journal = events ++ s.journal ∧ .read room reported ∈ events

section Claims

variable {s s' s'' : Source} {room reported room' reported' : Nat}

theorem Keeps.refl (s : Source) : s.Keeps s := ⟨[], rfl, fun _ h => absurd h List.not_mem_nil⟩

theorem Keeps.trans (first : s.Keeps s') (second : s'.Keeps s'') : s.Keeps s'' := by
  obtain ⟨events, hjournal, hkept⟩ := first
  obtain ⟨events', hjournal', hkept'⟩ := second
  refine ⟨events' ++ events, by rw [hjournal', hjournal, List.append_assoc], fun event h => ?_⟩
  rcases List.mem_append.mp h with h | h
  · exact hkept' event h
  · exact hkept event h

/-- One more entry that is no claim beyond the room. -/
theorem Keeps.note {event : SourceEvent} (h : s.Keeps s') (hjournal : s''.journal = event :: s'.journal)
    (hevent : ¬event.Overruns) : s.Keeps s'' := by
  refine h.trans ⟨[event], hjournal, fun event' hmem => ?_⟩
  rwa [List.mem_singleton.mp hmem]

theorem Keeps.not_overclaims (h : s.Keeps s') : ¬s.Overclaims s' room reported := by
  rintro ⟨hover, events, hjournal, hmem⟩
  obtain ⟨events', hjournal', hkept⟩ := h
  obtain rfl := List.append_cancel_right (hjournal'.symm.trans hjournal)
  exact hkept _ hmem hover

/-- A source that kept to its room but for its last answer overclaimed in no other. -/
theorem Overclaims.eq_last (h : s.Overclaims s'' room reported) (kept : s.Keeps s')
    (last : s''.journal = .read room' reported' :: s'.journal) :
    room = room' ∧ reported = reported' := by
  obtain ⟨hover, events, hjournal, hmem⟩ := h
  obtain ⟨events', hjournal', hkept⟩ := kept
  rw [last, hjournal', ← List.cons_append] at hjournal
  obtain rfl := List.append_cancel_right hjournal
  rcases List.mem_cons.mp hmem with hlast | hearlier
  · exact SourceEvent.read.inj hlast
  · exact absurd hover (hkept _ hearlier)

/-- To drop a source is to ask it for nothing. -/
theorem Overclaims.of_drop (h : s.Overclaims s'.drop room reported) :
    s.Overclaims s' room reported := by
  obtain ⟨hover, events, hjournal, hmem⟩ := h
  cases events with
  | nil => exact absurd hmem List.not_mem_nil
  | cons event events =>
    have hcons : .dropped :: s'.journal = event :: (events ++ s.journal) := hjournal
    obtain ⟨rfl, hrest⟩ := List.cons.inj hcons
    exact ⟨hover, events, hrest, (List.mem_cons.mp hmem).resolve_left nofun⟩

end Claims

theorem journal_readFrom (room : Nat) (answers : List SourceAnswer) (s : Source) :
    (readFrom room answers s).2.journal =
      .ofRead room (readFrom room answers s).1 :: s.journal := by
  fun_induction readFrom room answers s with
  | case3 piece rest s hroom delivery s' hserve =>
    obtain ⟨rfl, rfl⟩ := Prod.mk.inj hserve
    rfl
  | case6 p rest s ih => exact ih
  | case1 | case2 | case4 | case5 => rfl

theorem journal_read (s : Source) (room : Nat) :
    (s.read room).2.journal = .ofRead room (s.read room).1 :: s.journal := by
  unfold read
  split
  · exact journal_readFrom room s.answers s
  · rfl

theorem journal_readPatiently (s : Source) (room : Nat) :
    ∃ m, s.Keeps m ∧ (s.readPatiently room).2.journal =
      .ofRead room (s.readPatiently room).1 :: m.journal := by
  fun_induction readPatiently s room with
  | case1 s delivery s' h | case3 s e s' h =>
    have hjournal := s.journal_read room
    rw [h] at hjournal
    exact ⟨s, .refl s, hjournal⟩
  | case2 s e s' h hi ih =>
    have hjournal := s.journal_read room
    rw [h] at hjournal
    obtain ⟨m, hkeeps, hlast⟩ := ih
    have hfailed : s.Keeps s' := (Keeps.refl s).note hjournal id
    exact ⟨m, hfailed.trans hkeeps, hlast⟩

theorem keeps_of_within {s left : Source} {room : Nat} {delivery : Delivery}
    (hread : s.readPatiently room = (.ok delivery, left)) (h : delivery.reported ≤ room) :
    s.Keeps left := by
  obtain ⟨m, hkeeps, hlast⟩ := s.journal_readPatiently room
  rw [hread] at hlast
  exact hkeeps.note hlast (Nat.not_lt_of_le h)

theorem keeps_of_failure {s left : Source} {room : Nat} {e : IoError}
    (hread : s.readPatiently room = (.error e, left)) : s.Keeps left := by
  obtain ⟨m, hkeeps, hlast⟩ := s.journal_readPatiently room
  rw [hread] at hlast
  exact hkeeps.note hlast id

end Source

namespace DecoderSession

theorem drive_within (s : DecoderSession ω σ) (handle : σ) (w : Windows) (stalled : Nat) :
    Within w (drive s handle w stalled).2.2 := by
  fun_induction drive s handle w stalled with
  | case1 => exact .refl _
  | case2 | case3 | case4 | case5 | case6 | case7 => exact within_settle _ _
  | case8 | case9 =>
    rename_i ih
    exact (within_settle _ _).trans ih

theorem decompress_within (s : DecoderSession ω σ) (w : Windows) :
    Within w (s.decompress w).2.2 := by
  unfold decompress
  split
  · exact .refl w
  · split
    · exact .refl w
    · split
      · exact .refl w
      · exact drive_within _ _ w 0

end DecoderSession

namespace Decompressor

/-- The states in which a read into some room pulls from its source: after a round that has no
answer, and so on after every pull that went well. -/
inductive PullsIn : Decompressor ω σ → ByteArray → Decompressor ω σ → Prop
  | first {d decoded : Decompressor ω σ} {dst dst' : ByteArray}
      (round : d.round dst = .inl (dst', decoded)) : PullsIn d dst decoded
  | later {d decoded filled asked : Decompressor ω σ} {dst dst' : ByteArray}
      (round : d.round dst = .inl (dst', decoded)) (fill : decoded.fill = (.ok (), filled))
      (rest : PullsIn filled dst' asked) : PullsIn d dst asked

/-- The states in which a read asks its source. Without room it does so at once. -/
inductive AsksIn (d : Decompressor ω σ) (dst : ByteArray) : Decompressor ω σ → Prop
  | probe (none : dst.size = 0) : AsksIn d dst d
  | pull {asked : Decompressor ω σ} (some : dst.size ≠ 0) (pulls : d.PullsIn dst asked) :
      AsksIn d dst asked

/-- A read that fails because its source claims `reported` bytes for `room`. -/
structure Refuses (d : Decompressor ω σ) (dst : ByteArray) (room reported : Nat) : Prop where
  error : (d.read dst).1 = .error (.sourceOverrun reported room)
  kind : (StreamError.ofCodecError (.sourceOverrun reported room)).kind = .invalidData
  /-- The engine is not called again and nothing is taken in, since the source was asked. -/
  untouched : ∃ asked, d.AsksIn dst asked ∧ (d.read dst).2.2.session = asked.session ∧
    octets (d.read dst).2.2.input.unread = octets asked.input.unread

section Reads

variable {d : Decompressor ω σ} {dst : ByteArray}

/-- What a read into some room comes to: its source keeps to its room throughout, or up to its last
answer, which ends the read. -/
theorem keeps_readSome (d : Decompressor ω σ) (dst : ByteArray) :
    d.source.Keeps (d.readSome dst).2.2.source ∨
      ∃ asked m room reported, d.PullsIn dst asked ∧ d.source.Keeps m ∧
        (d.readSome dst).2.2.source.journal = .read room reported :: m.journal ∧
        (d.readSome dst).1 = .error (.sourceOverrun reported room) ∧
        (d.readSome dst).2.2.session = asked.session ∧
        (d.readSome dst).2.2.input = asked.input.compact := by
  induction d, dst using readSome_rounds with
  | answers d dst answer hround =>
    rw [source_round hround]
    exact .inl (.refl d.source)
  | fails d dst dst' decoded e filled hround hfill =>
    obtain ⟨session, w, -, -, -, -, hdecoded⟩ := round_asks hround
    have hsource : decoded.source = d.source := by rw [hdecoded]
    have hpulls := decoded.pulls_fill
    rw [hfill] at hpulls
    rw [← hsource]
    cases hpulls with
    | full => exact .inl (.refl decoded.source)
    | fails room read => exact .inl (Source.keeps_of_failure read)
    | overruns room read beyond =>
      obtain ⟨m, hkeeps, hlast⟩ := decoded.source.journal_readPatiently decoded.input.spare
      rw [read] at hlast
      exact .inr ⟨decoded, m, _, _, .first hround, hkeeps, hlast, rfl, rfl, rfl⟩
  | pulls d dst dst' decoded filled hround hfill ih =>
    obtain ⟨session, w, -, -, -, -, hdecoded⟩ := round_asks hround
    have hsource : decoded.source = d.source := by rw [hdecoded]
    have hkeeps : d.source.Keeps filled.source := by
      have hpulls := decoded.pulls_fill
      rw [hfill] at hpulls
      rw [← hsource]
      cases hpulls with
      | delivers room read within =>
        rw [source_accept]
        exact Source.keeps_of_within read within
    rcases ih with hrest | ⟨asked, m, room, reported, hpulls, hrest, hread⟩
    · exact .inl (hkeeps.trans hrest)
    · exact .inr ⟨asked, m, room, reported, .later hround hfill hpulls, hkeeps.trans hrest, hread⟩

theorem keeps_read (d : Decompressor ω σ) (dst : ByteArray) :
    d.source.Keeps (d.read dst).2.2.source ∨
      ∃ m room reported, d.source.Keeps m ∧
        (d.read dst).2.2.source.journal = .read room reported :: m.journal ∧
        d.Refuses dst room reported := by
  by_cases hdisposed : d.session.isDisposed = true
  · rw [read, if_pos hdisposed]
    exact .inl (.refl d.source)
  by_cases hdst : dst.size = 0
  · have hread : d.read dst = (d.readNothing.1, dst, d.readNothing.2) := by
      rw [read, if_neg hdisposed, if_pos hdst]
    by_cases hbuffered : d.hasBufferedInput = true
    · rw [hread, readNothing, if_pos hbuffered]
      exact .inl (.refl d.source)
    have hjournal := d.source.journal_read 0
    rcases hsource : d.source.read 0 with ⟨e | delivery, source⟩
    all_goals rw [hsource] at hjournal
    · rw [hread, readNothing, if_neg hbuffered, hsource]
      exact .inl ((Source.Keeps.refl d.source).note hjournal id)
    · by_cases hsome : 0 < delivery.reported
      · have hrefused : d.readNothing =
            (.error (.sourceOverrun delivery.reported 0), { d with source }) := by
          rw [readNothing, if_neg hbuffered, hsource]
          exact if_pos hsome
        refine .inr ⟨d.source, 0, delivery.reported, .refl d.source, ?_, ?_, rfl, d, .probe hdst, ?_⟩
        · rw [hread, hrefused]
          exact hjournal
        · rw [hread, hrefused]
        · rw [hread, hrefused]
          exact ⟨rfl, rfl⟩
      · have hnone : d.readNothing = (.ok 0, { d with source }) := by
          rw [readNothing, if_neg hbuffered, hsource]
          exact if_neg hsome
        rw [hread, hnone]
        exact .inl ((Source.Keeps.refl d.source).note hjournal hsome)
  · have hread : d.read dst = d.readSome dst := read_of_live (eq_false_of_ne_true hdisposed) hdst
    rcases d.keeps_readSome dst with hkeeps | hrefused
    · rw [hread]
      exact .inl hkeeps
    · obtain ⟨asked, m, room, reported, hpulls, hkeeps, hlast, herror, hsession, hinput⟩ := hrefused
      rw [← hread] at hlast herror hsession hinput
      refine .inr ⟨m, room, reported, hkeeps, hlast, herror, rfl, asked, .pull hdst hpulls, hsession, ?_⟩
      rw [hinput, CursorBuffer.octets_unread_compact]

/-- A round leaves the destination as long as it is, and counts no more bytes than fit into it. -/
theorem round_fits (d : Decompressor ω σ) (dst : ByteArray) :
    (∀ dst' decoded, d.round dst = .inl (dst', decoded) → dst'.size = dst.size) ∧
    (∀ result dst' d', d.round dst = .inr (result, dst', d') →
      dst'.size = dst.size ∧ ∀ n, result = .ok n → n ≤ dst.size) := by
  refine ⟨fun dst' decoded h => ?_, fun result dst' d' h => ?_⟩
  · obtain ⟨session, w, hrun, -, -, rfl, -⟩ := round_asks h
    have hwithin := d.session.decompress_within ⟨d.input, .empty dst⟩
    rw [hrun] at hwithin
    exact hwithin.dst
  · obtain ⟨outcome, session, w, hrun, rfl, rfl, hanswer⟩ := round_answers h
    have hwithin := d.session.decompress_within ⟨d.input, .empty dst⟩
    rw [hrun] at hwithin
    have hsize : w.dst.storage.size = dst.size := hwithin.dst
    refine ⟨hsize, fun n hn => ?_⟩
    cases hanswer with
    | refused | corrupt => cases hn
    | done | full | bytes =>
      obtain rfl := Except.ok.inj hn
      exact hsize ▸ w.dst.size_le_capacity
    | ended =>
      unfold endOfSource at hn
      split at hn
      · cases hn
      · rw [← Except.ok.inj hn]
        exact Nat.zero_le _

/-- A count that a read answers is within its destination. -/
theorem count_le_size (d : Decompressor ω σ) (dst : ByteArray) :
    (d.read dst).2.1.size = dst.size ∧ ∀ n, (d.read dst).1 = .ok n → n ≤ dst.size := by
  have hsome : (d.readSome dst).2.1.size = dst.size ∧ ∀ n, (d.readSome dst).1 = .ok n → n ≤ dst.size := by
    induction d, dst using readSome_rounds with
    | answers d dst answer hround => exact (d.round_fits dst).2 _ _ _ hround
    | fails d dst dst' decoded e filled hround => exact ⟨(d.round_fits dst).1 _ _ hround, nofun⟩
    | pulls d dst dst' decoded filled hround hfill ih =>
      rwa [(d.round_fits dst).1 _ _ hround] at ih
  unfold read
  split
  · exact ⟨rfl, nofun⟩
  · split
    · refine ⟨rfl, fun n hn => ?_⟩
      have hzero : d.readNothing.1 = .ok n → n = 0 := by
        unfold readNothing
        split
        · exact fun h => (Except.ok.inj h).symm
        · split
          · exact nofun
          · split
            · exact nofun
            · exact fun h => (Except.ok.inj h).symm
      exact hzero hn ▸ Nat.zero_le _
    · exact hsome

theorem refuses_of_overclaims {room reported : Nat}
    (h : d.source.Overclaims (d.read dst).2.2.source room reported) : d.Refuses dst room reported := by
  rcases d.keeps_read dst with hkeeps | ⟨m, room', reported', hkeeps, hlast, hrefuses⟩
  · exact absurd h hkeeps.not_overclaims
  · obtain ⟨rfl, rfl⟩ := h.eq_last hkeeps hlast
    exact hrefuses

end Reads

end Decompressor

namespace Transfer

/-- The states of a decompression between its rounds. -/
def Pouring.Comes : Pouring ω δ → Pouring ω δ → Prop :=
  Relation.ReflTransGen fun p p' => p.round = .inl p'

/-- The states of a compression between its reads: before each of them the source brought a piece
within the chunk, and the compressor took all of it. -/
inductive Feeds : Source → ByteArray → Compressor ω ε → Source → ByteArray → Compressor ω ε → Prop
  | start {source : Source} {chunk : ByteArray} {c : Compressor ω ε} :
      Feeds source chunk c source chunk c
  | piece {source left source' : Source} {chunk chunk' : ByteArray} {c d c' : Compressor ω ε}
      {delivery : Delivery} (read : source.readPatiently chunk.size = (.ok delivery, left))
      (some : delivery.reported ≠ 0) (within : delivery.reported ≤ chunk.size)
      (write : c.writeAll ((overlay chunk 0 delivery.bytes).extract 0 delivery.reported) = (.ok (), d))
      (rest : Feeds left (overlay chunk 0 delivery.bytes) d source' chunk' c') :
      Feeds source chunk c source' chunk' c'

/-- A decompression that fails because its source claims `reported` bytes for `room`: with the read
of its decompressor in which that happens. -/
structure Refused (registry : Registry ω ε δ) (world : ω) (source : Source) (sink : Sink)
    (codec : Codec) (bufferSize : UInt64) (room reported : Nat) : Prop where
  error : (decompress registry world source sink codec bufferSize).result =
    .error (.failed (.sourceOverrun reported room))
  read : ∃ d world' p,
    Decompressor.new registry world source { codec } { bufferSize } = (.ok d, world') ∧
    Pouring.Comes ⟨d, blank bufferSize, sink, 0⟩ p ∧ p.decompressor.Refuses p.chunk room reported ∧
    (decompress registry world source sink codec bufferSize).world =
      (p.decompressor.read p.chunk).2.2.session.world ∧
    (decompress registry world source sink codec bufferSize).sink = p.sink.drop

/-- A compression that is lost because its source claims `reported` bytes for `room`: it cuts them
from its chunk, which has no more than `room`. -/
structure Lost (registry : Registry ω ε δ) (world : ω) (source : Source) (sink : Sink)
    (options : CodecOptions) (bufferSize : UInt64) (room reported : Nat) : Prop where
  error : (compress registry world source sink options bufferSize).result =
    .error (.outOfBounds reported room)
  /-- The compressor is not written to again, since the source was asked. -/
  untouched : ∃ c world' left chunk fed,
    Compressor.new registry world sink options { bufferSize } = (.ok c, world') ∧
    Feeds source (blank bufferSize) c left chunk fed ∧ chunk.size = room ∧
    (compress registry world source sink options bufferSize).world = fed.session.world ∧
    (compress registry world source sink options bufferSize).sink = fed.releaseSink.sink

section Decompression

theorem keeps_round (p : Pouring ω δ) :
    (∀ p', p.round = .inl p' → p.decompressor.source.Keeps p'.decompressor.source) ∧
    (∀ result d sink, p.round = .inr (result, d, sink) →
      d = (p.decompressor.read p.chunk).2.2 ∧
      (p.decompressor.source.Keeps d.source ∨
        ∃ m room reported, p.decompressor.source.Keeps m ∧
          d.source.journal = .read room reported :: m.journal ∧
          p.decompressor.Refuses p.chunk room reported ∧
          result = .error (.sourceOverrun reported room) ∧ sink = p.sink)) := by
  have hread := p.decompressor.keeps_read p.chunk
  rcases hanswer : p.decompressor.read p.chunk with ⟨e | n, chunk, d⟩
  · have hround : p.round = .inr (.error e, d, p.sink) := by rw [Pouring.round, hanswer]
    rw [hround]
    refine ⟨fun p' h => (Sum.inr_ne_inl h).elim, fun result d' sink h => ?_⟩
    obtain ⟨rfl, hrest⟩ := Prod.mk.inj (Sum.inr.inj h)
    obtain ⟨rfl, rfl⟩ := Prod.mk.inj hrest
    rw [hanswer] at hread
    refine ⟨rfl, hread.imp_right ?_⟩
    rintro ⟨m, room, reported, hkeeps, hlast, hrefuses⟩
    have herror := hrefuses.error
    rw [hanswer] at herror
    exact ⟨m, room, reported, hkeeps, hlast, hrefuses, herror, rfl⟩
  · have hkeeps : p.decompressor.source.Keeps d.source := by
      rcases hread with hkeeps | ⟨m, room, reported, -, -, hrefuses⟩
      · rwa [hanswer] at hkeeps
      · have herror := hrefuses.error
        rw [hanswer] at herror
        cases herror
    rw [Pouring.round, hanswer]
    dsimp only
    split
    · refine ⟨fun p' h => ?_, fun result d' sink h => ?_⟩
      · split at h <;> cases h
      · split at h <;> cases h <;> exact ⟨rfl, .inl hkeeps⟩
    · refine ⟨fun p' h => ?_, fun result d' sink h => ?_⟩
      · split at h <;> cases h
        exact hkeeps
      · split at h <;> cases h
        exact ⟨rfl, .inl hkeeps⟩

theorem keeps_pour (d : Decompressor ω δ) (chunk : ByteArray) (sink : Sink) :
    d.source.Keeps (pour d chunk sink).2.1.source ∨
      ∃ p m room reported, Pouring.Comes ⟨d, chunk, sink, 0⟩ p ∧ d.source.Keeps m ∧
        (pour d chunk sink).2.1.source.journal = .read room reported :: m.journal ∧
        p.decompressor.Refuses p.chunk room reported ∧
        pour d chunk sink =
          (.error (.sourceOverrun reported room), (p.decompressor.read p.chunk).2.2, p.sink) := by
  unfold pour
  rcases hloop : loop Pouring.round ⟨d, chunk, sink, 0⟩ with _ | ⟨result, d', sink'⟩
  · exact .inl (.refl d.source)
  · obtain ⟨p, ⟨hcomes, hkeeps⟩, hlast⟩ := loop_invariant
      (fun p => Pouring.Comes ⟨d, chunk, sink, 0⟩ p ∧ d.source.Keeps p.decompressor.source)
      (fun p p' h hround => ⟨h.1.tail hround, h.2.trans ((keeps_round p).1 p' hround)⟩)
      ⟨.refl, .refl d.source⟩ hloop
    obtain ⟨rfl, hend⟩ := (keeps_round p).2 result d' sink' hlast
    rcases hend with hkept | ⟨m, room, reported, hkept, hjournal, hrefuses, rfl, rfl⟩
    · exact .inl (hkeeps.trans hkept)
    · exact .inr ⟨p, m, room, reported, hcomes, hkeeps.trans hkept, hjournal, hrefuses, rfl⟩

variable {registry : Registry ω ε δ} {world : ω} {source : Source} {sink : Sink} {codec : Codec}
  {bufferSize : UInt64} {room reported : Nat}

theorem source_new {o : CodecOptions} {options : StreamOptions} {d : Decompressor ω δ} {world' : ω}
    (hnew : Decompressor.new registry world source o options = (.ok d, world')) :
    d.source = source := by
  obtain ⟨_, _, _, _, -, -, -, rfl⟩ := Decompressor.created hnew
  rfl

theorem decompress_of_new {d : Decompressor ω δ} {world' : ω}
    (hnew : Decompressor.new registry world source { codec } { bufferSize } = (.ok d, world')) :
    decompress registry world source sink codec bufferSize =
      ⟨(pour d (blank bufferSize) sink).1.mapError .failed,
        (pour d (blank bufferSize) sink).2.1.source.drop,
        (pour d (blank bufferSize) sink).2.2.drop,
        (pour d (blank bufferSize) sink).2.1.session.world⟩ := by
  rw [decompress, hnew]
  rfl

theorem refused_of_overclaims
    (h : source.Overclaims (decompress registry world source sink codec bufferSize).source room
      reported) : Refused registry world source sink codec bufferSize room reported := by
  rcases hnew : Decompressor.new registry world source { codec } { bufferSize } with ⟨e | d, world'⟩
  · rw [decompress, hnew] at h
    exact absurd h.of_drop (Source.Keeps.refl source).not_overclaims
  · obtain rfl := source_new hnew
    have hrun : decompress registry world d.source sink codec bufferSize = _ :=
      decompress_of_new hnew
    rw [hrun] at h
    rcases keeps_pour d (blank bufferSize) sink with hkeeps | hrefused
    · exact absurd h.of_drop hkeeps.not_overclaims
    · obtain ⟨p, m, room', reported', hcomes, hkeeps, hlast, hrefuses, hpour⟩ := hrefused
      obtain ⟨rfl, rfl⟩ := h.of_drop.eq_last hkeeps hlast
      refine ⟨?_, d, world', p, hnew, hcomes, hrefuses, ?_, ?_⟩ <;> rw [hrun, hpour]
      rfl

theorem failed_ne_outOfBounds {α : Type} {e : CodecError} {reported capacity : Nat} :
    (.error (.failed e) : Except TransferError α) ≠ .error (.outOfBounds reported capacity) :=
  fun h => TransferError.noConfusion (Except.error.inj h)

/-- Whatever comes of a decompression, it does not cut bytes from a chunk that has too few. -/
theorem decompress_inBounds (registry : Registry ω ε δ) (world : ω) (source : Source) (sink : Sink)
    (codec : Codec) (bufferSize : UInt64) (reported capacity : Nat) :
    (decompress registry world source sink codec bufferSize).result ≠
      .error (.outOfBounds reported capacity) := by
  rcases hnew : Decompressor.new registry world source { codec } { bufferSize } with ⟨e | d, world'⟩
  · rw [decompress, hnew]
    exact failed_ne_outOfBounds
  · rw [decompress_of_new hnew]
    cases (pour d (blank bufferSize) sink).1 with
    | error e => exact failed_ne_outOfBounds
    | ok n => simp [Except.mapError]

end Decompression

section Compression

variable {registry : Registry ω ε δ} {world : ω} {source left : Source} {sink : Sink}
  {options : CodecOptions} {bufferSize : UInt64} {chunk : ByteArray} {c : Compressor ω ε}
  {room reported : Nat}

/-- A feeding is lost in the read whose report is beyond the chunk. -/
theorem feed_of_claim {delivery : Delivery}
    (hread : source.readPatiently chunk.size = (.ok delivery, left))
    (h : chunk.size < delivery.reported) (c : Compressor ω ε) :
    feed source chunk c = (.error (.outOfBounds delivery.reported chunk.size), left, c) := by
  rw [feed, hread]
  exact (dif_neg (by omega)).trans (dif_pos h)

theorem keeps_feed (source : Source) (chunk : ByteArray) (c : Compressor ω ε) :
    (source.Keeps (feed source chunk c).2.1 ∧
      ∀ reported room, (feed source chunk c).1 ≠ .error (.outOfBounds reported room)) ∨
      ∃ left chunk' m reported, Feeds source chunk c left chunk' (feed source chunk c).2.2 ∧
        chunk'.size < reported ∧ source.Keeps m ∧
        (feed source chunk c).2.1.journal = .read chunk'.size reported :: m.journal ∧
        (feed source chunk c).1 = .error (.outOfBounds reported chunk'.size) := by
  fun_induction feed source chunk c with
  | case1 source chunk c e left hread =>
    exact .inl ⟨Source.keeps_of_failure hread, fun _ _ => failed_ne_outOfBounds⟩
  | case2 source chunk c delivery left hread hz =>
    exact .inl ⟨Source.keeps_of_within hread (by omega), fun _ _ => by simp⟩
  | case3 source chunk c delivery left hread hz ho =>
    obtain ⟨m, hkeeps, hlast⟩ := source.journal_readPatiently chunk.size
    rw [hread] at hlast
    exact .inr ⟨source, chunk, m, delivery.reported, .start, ho, hkeeps, hlast, rfl⟩
  | case4 source chunk c delivery left hread hz ho filled e d hwrite =>
    exact .inl ⟨Source.keeps_of_within hread (Nat.le_of_not_lt ho), fun _ _ => failed_ne_outOfBounds⟩
  | case5 source chunk c delivery left hread hz ho filled d hwrite ih =>
    have hkeeps := Source.keeps_of_within hread (Nat.le_of_not_lt ho)
    rcases ih with ⟨hrest, hinside⟩ | ⟨left', chunk', m, reported, hfeeds, hover, hrest, hlost⟩
    · exact .inl ⟨hkeeps.trans hrest, hinside⟩
    · exact .inr ⟨left', chunk', m, reported,
        .piece hread hz (Nat.le_of_not_lt ho) hwrite hfeeds, hover, hkeeps.trans hrest, hlost⟩

theorem compress_of_lost {world' : ω} {fed : Compressor ω ε}
    (hnew : Compressor.new registry world sink options { bufferSize } = (.ok c, world'))
    (hfeed : feed source (blank bufferSize) c = (.error (.outOfBounds reported room), left, fed)) :
    compress registry world source sink options bufferSize =
      ⟨.error (.outOfBounds reported room), left.drop, fed.releaseSink.sink, fed.session.world⟩ := by
  have hunfolded : feed source ⟨Array.replicate ({ bufferSize } : StreamOptions).capacity 0⟩ c =
      (.error (.outOfBounds reported room), left, fed) := hfeed
  rw [compress, hnew]
  dsimp only
  rw [hunfolded]
  dsimp only
  rw [Compressor.releaseSink_session]

theorem compress_of_fed {world' : ω} {fed : Compressor ω ε} {result : Except TransferError Unit}
    (hnew : Compressor.new registry world sink options { bufferSize } = (.ok c, world'))
    (hfeed : feed source (blank bufferSize) c = (result, left, fed))
    (hinside : ∀ reported room, result ≠ .error (.outOfBounds reported room)) :
    (compress registry world source sink options bufferSize).source = left.drop ∧
      ∀ reported room, (compress registry world source sink options bufferSize).result ≠
        .error (.outOfBounds reported room) := by
  have hunfolded : feed source ⟨Array.replicate ({ bufferSize } : StreamOptions).capacity 0⟩ c =
      (result, left, fed) := hfeed
  rw [compress, hnew]
  dsimp only
  rw [hunfolded]
  rcases result with (e | ⟨reported, room⟩) | _
  · exact ⟨rfl, fun _ _ => failed_ne_outOfBounds⟩
  · exact absurd rfl (hinside reported room)
  · dsimp only
    rcases fed.complete with ⟨e | _, d⟩
    · exact ⟨rfl, fun _ _ => failed_ne_outOfBounds⟩
    · dsimp only
      rcases d.finish with ⟨e | back, d'⟩
      · exact ⟨rfl, fun _ _ => failed_ne_outOfBounds⟩
      · exact ⟨rfl, nofun⟩

/-- A compression is lost exactly if its source overclaims. -/
theorem overclaims_iff_lost :
    source.Overclaims (compress registry world source sink options bufferSize).source room reported ↔
      Lost registry world source sink options bufferSize room reported := by
  rcases hnew : Compressor.new registry world sink options { bufferSize } with ⟨e | c, world'⟩
  · have hfails : (compress registry world source sink options bufferSize).source = source.drop ∧
        (compress registry world source sink options bufferSize).result = .error (.failed e) := by
      rw [compress, hnew]
      exact ⟨rfl, rfl⟩
    refine iff_of_false (fun h => ?_) (fun h => ?_)
    · rw [hfails.1] at h
      exact (Source.Keeps.refl source).not_overclaims h.of_drop
    · exact failed_ne_outOfBounds (hfails.2.symm.trans h.error) |>.elim
  · rcases hfeed : feed source (blank bufferSize) c with ⟨result, left, fed⟩
    have hkeeps := keeps_feed source (blank bufferSize) c
    rw [hfeed] at hkeeps
    rcases hkeeps with ⟨hkeeps, hinside⟩ | ⟨left', chunk', m, reported', hfeeds, hover, hkeeps, hlast, rfl⟩
    · obtain ⟨hsource, hresult⟩ := compress_of_fed hnew hfeed hinside
      refine iff_of_false (fun h => ?_) fun h => hresult _ _ h.error
      rw [hsource] at h
      exact hkeeps.not_overclaims h.of_drop
    · have hrun := compress_of_lost hnew hfeed
      constructor
      · intro h
        rw [hrun] at h
        obtain ⟨rfl, rfl⟩ := h.of_drop.eq_last hkeeps hlast
        refine ⟨?_, c, world', left', chunk', fed, hnew, hfeeds, rfl, ?_, ?_⟩ <;> rw [hrun]
      · intro h
        have herror := h.error
        rw [hrun] at herror ⊢
        obtain ⟨rfl, rfl⟩ := TransferError.outOfBounds.inj (Except.error.inj herror)
        obtain ⟨events, hjournal, -⟩ := hkeeps
        refine ⟨hover, .dropped :: .read chunk'.size reported' :: events, ?_, ?_⟩
        · show .dropped :: left.journal = _
          rw [hlast, hjournal]
          rfl
        · exact List.mem_cons_of_mem _ List.mem_cons_self

end Compression

/-- No read uses more than it was given: a decompressor refuses the claim of a source that overclaims,
in any state and in any read, and so does the decompression of a whole source, which never cuts bytes
that its chunk does not have. The compression of a whole source is lost exactly where its source
overclaims. Its engine is spared the claimed bytes in every case. -/
theorem overclaims_answered (registry : Registry ω ε δ) (world : ω) (source : Source) (sink : Sink)
    (bufferSize : UInt64) :
    (∀ (d : Decompressor ω δ) dst room reported,
      d.source.Overclaims (d.read dst).2.2.source room reported → d.Refuses dst room reported) ∧
    (∀ (d : Decompressor ω δ) dst, (d.read dst).2.1.size = dst.size ∧
      ∀ n, (d.read dst).1 = .ok n → n ≤ dst.size) ∧
    (∀ codec room reported,
      source.Overclaims (decompress registry world source sink codec bufferSize).source room reported →
        Refused registry world source sink codec bufferSize room reported) ∧
    (∀ codec reported capacity,
      (decompress registry world source sink codec bufferSize).result ≠
        .error (.outOfBounds reported capacity)) ∧
    (∀ options room reported,
      source.Overclaims (compress registry world source sink options bufferSize).source room reported ↔
        Lost registry world source sink options bufferSize room reported) :=
  ⟨fun _ _ _ _ => Decompressor.refuses_of_overclaims, fun d dst => d.count_le_size dst,
    fun _ _ _ => refused_of_overclaims,
    fun codec reported capacity =>
      decompress_inBounds registry world source sink codec bufferSize reported capacity,
    fun _ _ _ => overclaims_iff_lost⟩

/-- A source of one byte that then, once interrupted, claims two bytes more than there is room for. -/
def lyingSource : Source where
  answers := [.data ⟨#[1]⟩, .fail ⟨.interrupted, "again"⟩, .lie 2]

theorem read_lying : ∃ d, (Marked.decompressor lyingSource Marked.stream₃).read (blank 3) =
      (.error (.sourceOverrun 5 3), blank 3, d) ∧ lyingSource.Overclaims d.source 3 5 := by
  generalize hd : Marked.decompressor lyingSource Marked.stream₃ = d
  have hopen : d.session.IsOpen := by
    rw [← hd]
    exact ⟨rfl, rfl⟩
  -- The first pull brings a mark, which the decoder takes in. The second meets the claim.
  have hpull : d.round (blank 3) = .inl (blank 3, d) := by
    subst hd
    cbv
  have hfill : d.fill = (.ok (), d.fill.2) := by
    subst hd
    cbv
  generalize hdecoded : (d.fill.2.round (blank 3)).elim (fun x => x.2) (fun x => x.2.2) = decoded
  have hagain : d.fill.2.round (blank 3) = .inl (blank 3, decoded) := by
    subst hdecoded hd
    cbv
  have hclaim : decoded.fill = (.error (.sourceOverrun 5 3), decoded.fill.2) := by
    subst hdecoded hd
    cbv
  have hrest : d.fill.2.readSome (blank 3) = (.error (.sourceOverrun 5 3), blank 3, decoded.fill.2) :=
    Decompressor.readSome_of_failure hagain hclaim
  have hread : d.read (blank 3) = (.error (.sourceOverrun 5 3), blank 3, decoded.fill.2) := by
    rw [Decompressor.read_of_live hopen.1 (size_blank 3).ne', Decompressor.readSome_of_pull hpull hfill,
      hrest]
  have hjournal : decoded.fill.2.source.journal = [.read 3 5, .readFailed 3, .read 3 1] := by
    subst hdecoded hd
    cbv
  refine ⟨_, hread, by decide, [.read 3 5, .readFailed 3, .read 3 1], ?_, List.mem_cons_self⟩
  rw [hjournal]
  rfl

theorem overclaims_answered_lying :
    lyingSource.Overclaims
        ((Marked.decompressor lyingSource Marked.stream₃).read (blank 3)).2.2.source 3 5 ∧
      (Marked.decompressor lyingSource Marked.stream₃).Refuses (blank 3) 3 5 ∧
      lyingSource.Overclaims
        (decompress Marked.registry () lyingSource Marked.slowSink .brotli 3).source 3 5 ∧
      Refused Marked.registry () lyingSource Marked.slowSink .brotli 3 3 5 := by
  obtain ⟨hrefuses, -, hrefused, -, -⟩ :=
    overclaims_answered Marked.registry () lyingSource Marked.slowSink 3
  obtain ⟨d, hread, hclaims⟩ := read_lying
  have hfirst : lyingSource.Overclaims
      ((Marked.decompressor lyingSource Marked.stream₃).read (blank 3)).2.2.source 3 5 := by
    rw [hread]
    exact hclaims
  have hpour : pour (Marked.decompressor lyingSource Marked.stream₃) (blank 3) Marked.slowSink =
      (.error (.sourceOverrun 5 3), d, Marked.slowSink) := by
    rw [pour, loop_eq, Pouring.round, hread]
    rfl
  have hwhole : lyingSource.Overclaims
      (decompress Marked.registry () lyingSource Marked.slowSink .brotli 3).source 3 5 := by
    obtain ⟨hover, events, hjournal, hmem⟩ := hclaims
    rw [decompress_of_new (Marked.new_decompressor lyingSource Marked.stream₃)]
    refine ⟨hover, .dropped :: events, ?_, List.mem_cons_of_mem _ hmem⟩
    show .dropped :: (pour (Marked.decompressor lyingSource Marked.stream₃) (blank 3)
      Marked.slowSink).2.1.source.journal = _
    rw [hpour, hjournal]
    rfl
  exact ⟨hfirst, hrefuses _ _ _ _ hfirst, hwhole, hrefused _ _ _ hwhole⟩

/-- A compression whose source claims four bytes for a chunk of three does not fail with that claim. -/
theorem overclaimed_compression_lost :
    Source.Overclaims { answers := [.lie 1] } (compress Marked.registry () { answers := [.lie 1] } {}
        Marked.options 3).source 3 4 ∧
      (compress Marked.registry () { answers := [.lie 1] } {} Marked.options 3).result ≠
        .error (.failed (.sourceOverrun 4 3)) := by
  have hread : Source.readPatiently { answers := [.lie 1] } (blank 3).size =
      (.ok ⟨.empty, 4⟩, { journal := [.read 3 4] }) := by cbv
  have hrun := compress_of_lost (Marked.new_compressor {} Marked.stream₃)
    (feed_of_claim hread (by decide) _)
  have hdropped : (compress Marked.registry () { answers := [.lie 1] } {} Marked.options 3).source =
      { journal := [.dropped, .read 3 4] } := congrArg Transfer.source hrun
  refine ⟨?_, ?_⟩
  · rw [hdropped]
    exact ⟨by decide, [.dropped, .read 3 4], rfl, by decide⟩
  · have hlost : (compress Marked.registry () { answers := [.lie 1] } {} Marked.options 3).result =
        .error (.outOfBounds 4 3) := congrArg Transfer.result hrun
    rw [hlost]
    exact failed_ne_outOfBounds.symm

end Transfer

end StreamCodec
