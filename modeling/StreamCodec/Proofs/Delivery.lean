import StreamCodec.Proofs.DecoderContract
import StreamCodec.Proofs.SourceReads

/-!
# Reading through a decompressor

A decompressor over an engine that decodes delivers the plain text whatever the
sizes of its buffer, of the source's pieces and of the destinations. `Reading`
is the invariant between two reads: of the bytes that the source held at first,
those not consumed yet are in the input buffer or still to come. A read into
some room then comes back with plain bytes, or it has met the end.
-/
namespace StreamCodec.Decompressor

variable {ω σ ε : Type} {codec : Codec} {engine : DecoderEngine ω σ} {parameters : List Parameter}
  {compressed plain held : List UInt8} {out : Nat → Nat} {At : σ → ω → Nat → Nat → Prop}

/-- The invariant between two reads, `c` bytes consumed and `e` emitted. -/
structure Reading (codec : Codec) (engine : DecoderEngine ω σ) (At : σ → ω → Nat → Nat → Prop)
    (compressed held : List UInt8) (out : Nat → Nat) (d : Decompressor ω σ) (c e : Nat) :
    Prop where
  stands : DecoderSession.Stands codec engine At d.session c e
  within : c ≤ compressed.length
  determined : e ≤ out c
  le : c ≤ held.length
  held : octets d.input.unread ++ d.source.remaining = held.drop c
  plain : d.source.Plain
  capacity : 0 < d.input.capacity
  ended : d.sourceEnded = true → d.source.remaining = []

/-- How many plain bytes the source's bytes determine. -/
def determinedBy (compressed held : List UInt8) (out : Nat → Nat) : Nat :=
  out (min compressed.length held.length)

/-- A stream that is there to its end determines the plain text. -/
theorem determinedBy_whole (hd : engine.Decodes parameters compressed plain out At)
    (h : compressed.length ≤ held.length) : determinedBy compressed held out = plain.length := by
  rw [determinedBy, Nat.min_eq_left h, hd.out_all]

theorem determinedBy_part (h : held.length ≤ compressed.length) :
    determinedBy compressed held out = out held.length := by
  rw [determinedBy, Nat.min_eq_right h]

/-- What a read answers once all determined bytes were delivered. -/
def lastAnswer (codec : Codec) (compressed held : List UInt8) : Except CodecError Nat :=
  if compressed.length ≤ held.length ∨ held = [] then .ok 0 else .error (.truncated codec)

/-- What a read into `room` bytes of room may come back with: more plain bytes, or the last
answer. -/
def Answers (codec : Codec) (compressed plain held : List UInt8) (out : Nat → Nat) (e e' : Nat)
    (room : Nat) (result : Except CodecError Nat) (dst : ByteArray) : Prop :=
  (e < e' ∧ e' ≤ determinedBy compressed held out ∧ e' - e ≤ room ∧ result = .ok (e' - e) ∧
      (octets dst).take (e' - e) = (plain.drop e).take (e' - e)) ∨
    (e' = e ∧ e = determinedBy compressed held out ∧ result = lastAnswer codec compressed held)

/-- What a session operation on the input buffer and a destination does to the two. -/
structure Passes (compressed plain : List UInt8) (out : Nat → Nat) (d : Decompressor ω σ)
    (dst : ByteArray) (w : Windows) (c e c' e' : Nat) (status : Status) : Prop where
  tells : DecoderSession.Tells compressed plain out ⟨d.input, .empty dst⟩ w c c' e' status
  src : octets w.src.unread = (octets d.input.unread).drop (c' - c)
  emitted : e ≤ e'
  size : w.dst.size = e' - e
  storage : w.dst.storage.size = dst.size
  bytes : (octets w.dst.storage).take (e' - e) = (plain.drop e).take (e' - e)

namespace Reading

variable {d : Decompressor ω σ} {c e : Nat}

/-- What is in the input buffer is as the stream goes on. -/
theorem offered (hheld : held.take compressed.length <+: compressed)
    (h : Reading codec engine At compressed held out d c e) :
    (octets d.input.unread).take (compressed.length - c) <+: compressed.drop c := by
  have hfront : octets d.input.unread <+: held.drop c := ⟨_, h.held⟩
  refine (hfront.take _).trans ?_
  rw [← List.drop_take]
  exact hheld.drop c

theorem fill (h : Reading codec engine At compressed held out d c e)
    (hempty : octets d.input.unread = []) (hended : d.sourceEnded = false) :
    ∃ d', d.fill = (.ok (), d') ∧ Reading codec engine At compressed held out d' c e := by
  have hread : d.input.availableRead = 0 := by
    rw [← CursorBuffer.length_octets_unread, hempty, List.length_nil]
  have hroom : d.input.compact.availableWrite = d.input.capacity := by
    rw [CursorBuffer.availableWrite_compact, hread, Nat.sub_zero]
  have hpos := h.capacity
  obtain ⟨delivery, source, hdelivery, hdelivers⟩ :=
    Source.readPatiently_delivers h.plain d.input.compact.availableWrite
  have hle := hdelivers.le
  rw [Decompressor.fill]
  dsimp only
  rw [if_neg (by omega), hdelivery]
  dsimp only
  rw [if_neg (by omega)]
  refine ⟨_, rfl, ?_⟩
  unfold accept
  split
  · next hzero =>
    have hover : d.source.remaining = [] := hdelivers.none hzero (by omega)
    have hrest : source.remaining = [] := by rw [hdelivers.remaining, hover, List.drop_nil]
    refine ⟨h.stands, h.within, h.determined, h.le, ?_, hdelivers.plain, ?_, fun _ => hrest⟩
    · rw [CursorBuffer.octets_unread_compact, hrest, ← hover]
      exact h.held
    · rw [CursorBuffer.capacity_compact]
      exact hpos
  · have hwrite : (d.input.compact.poke delivery.bytes).commit delivery.reported =
        d.input.compact.write delivery.bytes := by
      rw [CursorBuffer.write, hdelivers.size]
    have hfit : delivery.bytes.size ≤ d.input.compact.availableWrite := by
      rw [hdelivers.size]
      exact hle
    refine ⟨h.stands, h.within, h.determined, h.le, ?_, hdelivers.plain, ?_, fun hd => ?_⟩
    · rw [hwrite, CursorBuffer.octets_unread_write _ _ hfit, CursorBuffer.octets_unread_compact,
        hempty, List.nil_append, hdelivers.bytes, hdelivers.remaining, List.take_append_drop,
        ← h.held, hempty, List.nil_append]
    · rw [CursorBuffer.capacity_commit, CursorBuffer.capacity_poke, CursorBuffer.capacity_compact]
      exact hpos
    · dsimp only at hd
      rw [hended] at hd
      cases hd

/-- Where a session operation leads: the reading goes on, and the destination begins with the
bytes that were emitted. -/
theorem decompress (hd : engine.Decodes parameters compressed plain out At)
    (hheld : held.take compressed.length <+: compressed)
    (h : Reading codec engine At compressed held out d c e) {dst : ByteArray}
    {result : Except CodecError Status} {session : DecoderSession ω σ} {w : Windows}
    (hrun : d.session.decompress ⟨d.input, .empty dst⟩ = (result, session, w)) :
    ∃ status c' e', result = .ok status ∧
      Reading codec engine At compressed held out { d with session, input := w.src } c' e' ∧
      Passes compressed plain out d dst w c e c' e' status := by
  obtain ⟨status, session', w', c', e', hrun', hstands, hdecoded, htells⟩ :=
    DecoderSession.decompress_decodes hd h.stands h.within h.determined (w := ⟨d.input, .empty dst⟩)
      (h.offered hheld)
  obtain ⟨rfl, hrest⟩ := Prod.mk.inj (hrun.symm.trans hrun')
  obtain ⟨rfl, rfl⟩ := Prod.mk.inj hrest
  obtain ⟨hsize, hcap, hbytes⟩ := hdecoded.of_empty
  have hin : octets w.src.unread = (octets d.input.unread).drop (c' - c) := hdecoded.src
  have hoffered : c' - c ≤ (octets d.input.unread).length := by
    rw [CursorBuffer.length_octets_unread]
    exact hdecoded.offered
  have hlen := congrArg List.length h.held
  rw [List.length_append, List.length_drop] at hlen
  have hle := h.le
  refine ⟨status, c', e', rfl, ⟨hstands, hdecoded.within, hdecoded.determined, by omega, ?_, h.plain,
    ?_, h.ended⟩, ⟨htells, hin, hdecoded.emitted, hsize, hcap, hbytes⟩⟩
  · dsimp only
    rw [hin, ← List.drop_append_of_le_length hoffered, h.held, List.drop_drop,
      Nat.add_sub_cancel' hdecoded.le]
  · have hsame : w.src.capacity = d.input.capacity := hdecoded.srcCapacity
    exact hsame ▸ h.capacity

theorem le_determinedBy (hd : engine.Decodes parameters compressed plain out At)
    (h : Reading codec engine At compressed held out d c e) :
    e ≤ determinedBy compressed held out :=
  Nat.le_trans h.determined (hd.mono _ _ (Nat.le_min.mpr ⟨h.within, h.le⟩))

theorem answers_more (hd : engine.Decodes parameters compressed plain out At)
    {dst : ByteArray} {w : Windows} {c' e' : Nat} {status : Status}
    {session : DecoderSession ω σ}
    (h' : Reading codec engine At compressed held out { d with session, input := w.src } c' e')
    (hp : Passes compressed plain out d dst w c e c' e' status) (hmore : 0 < w.dst.size) :
    Answers codec compressed plain held out e e' dst.size (.ok w.dst.size) w.dst.storage := by
  have hsize := hp.size
  have hfit : w.dst.size ≤ w.dst.storage.size := w.dst.size_le_capacity
  have hroom := hp.storage
  exact .inl ⟨by omega, h'.le_determinedBy hd, by omega, by rw [hsize], hp.bytes⟩

theorem answers_done (hd : engine.Decodes parameters compressed plain out At)
    {dst : ByteArray} {w : Windows} {c' e' : Nat} {session : DecoderSession ω σ}
    (h' : Reading codec engine At compressed held out { d with session, input := w.src } c' e')
    (hp : Passes compressed plain out d dst w c e c' e' .done) :
    Answers codec compressed plain held out e e' dst.size (.ok w.dst.size) w.dst.storage := by
  rcases Nat.eq_zero_or_pos w.dst.size with hzero | hmore
  · obtain ⟨hc, he⟩ := hp.tells
    have hsize := hp.size
    have hemitted := hp.emitted
    have hle : compressed.length ≤ held.length := hc ▸ h'.le
    have hall := determinedBy_whole hd hle
    refine .inr ⟨by omega, by omega, ?_⟩
    rw [lastAnswer, if_pos (.inl hle), hzero]
  · exact answers_more hd h' hp hmore

/-- An operation that asks for more has consumed all of the input buffer. -/
theorem drained {dst : ByteArray} {w : Windows} {c' e' : Nat}
    (hp : Passes compressed plain out d dst w c e c' e' .needMoreData) :
    octets w.src.unread = [] := by
  obtain ⟨hc, -, -⟩ := hp.tells
  rw [hp.src, List.drop_eq_nil_iff, CursorBuffer.length_octets_unread, hc, Nat.add_sub_cancel_left]

theorem answers_ended {dst dst' : ByteArray} {w : Windows} {c' e' : Nat}
    {session : DecoderSession ω σ}
    (h' : Reading codec engine At compressed held out { d with session, input := w.src } c' e')
    (hp : Passes compressed plain out d dst w c e c' e' .needMoreData) (hnone : ¬0 < w.dst.size)
    (hended : d.sourceEnded = true) :
    Answers codec compressed plain held out e e' dst.size
      (endOfSource { d with session, input := w.src }) dst' := by
  obtain ⟨hc, he, hshort⟩ := hp.tells
  have hsize := hp.size
  have hemitted := hp.emitted
  have hover : d.source.remaining = [] := h'.ended hended
  -- All that the source held was consumed.
  have hall : c' = held.length := by
    have hheld := congrArg List.length h'.held
    rw [List.length_append, List.length_drop] at hheld
    dsimp only at hheld
    rw [drained hp, hover, List.length_nil] at hheld
    have := h'.le
    omega
  have hmin : min compressed.length held.length = c' := by
    have := h'.within
    omega
  refine .inr ⟨by omega, by rw [determinedBy, hmin]; omega, ?_⟩
  rw [endOfSource, lastAnswer]
  have hseen : session.hasSeenInput = decide (0 < c') := h'.stands.seen
  have hcodec : codec = session.codec := h'.stands.codec.symm
  dsimp only
  rw [hseen]
  by_cases hzero : c' = 0
  · have hheld : held = [] := List.length_eq_zero_iff.mp (hall ▸ hzero)
    rw [if_neg (by simp [hzero]), if_pos (.inr hheld)]
  · have hheld : held ≠ [] := fun hnil => hzero (by rw [hall, hnil, List.length_nil])
    have hpart : ¬(compressed.length ≤ held.length ∨ held = []) := by
      rintro (hle | hnil)
      · omega
      · exact hheld hnil
    rw [if_pos (by simpa using Nat.pos_of_ne_zero hzero), if_neg hpart, hcodec]
    rfl

/-- A read into some room, by the rounds that `readSome` makes itself: each either comes back or
pulls from the source once more. -/
theorem readSome (hd : engine.Decodes parameters compressed plain out At)
    (hheld : held.take compressed.length <+: compressed) {d : Decompressor ω σ} {dst : ByteArray}
    (hdst : 0 < dst.size) {c e : Nat} (h : Reading codec engine At compressed held out d c e) :
    ∃ c' e', Reading codec engine At compressed held out (d.readSome dst).2.2 c' e' ∧
      Answers codec compressed plain held out e e' dst.size (d.readSome dst).1
        (d.readSome dst).2.1 := by
  fun_induction Decompressor.readSome d dst generalizing c e with
  | case1 d dst err session w hrun =>
    obtain ⟨status, c', e', hok, -⟩ := h.decompress hd hheld hrun
    cases hok
  | case2 d dst session w decoded produced =>
    rename_i hrun
    obtain ⟨status, c', e', hok, h', hp⟩ := h.decompress hd hheld hrun
    cases hok
    exact ⟨c', e', h', answers_done hd h' hp⟩
  | case3 d dst session w decoded produced =>
    rename_i hrun
    obtain ⟨status, c', e', hok, h', hp⟩ := h.decompress hd hheld hrun
    cases hok
    have hfull : w.dst.availableWrite = 0 := hp.tells
    have hmore : 0 < w.dst.size := by
      have hroom := hp.storage
      have hwrite : w.dst.availableWrite = w.dst.storage.size - w.dst.size := rfl
      omega
    exact ⟨c', e', h', answers_more hd h' hp hmore⟩
  | case4 d dst session w decoded hrun =>
    obtain ⟨status, c', e', hok, h', hp⟩ := h.decompress hd hheld hrun
    cases hok
    exact hp.tells.elim
  | case5 d dst session w decoded produced hmore =>
    rename_i hrun
    obtain ⟨status, c', e', hok, h', hp⟩ := h.decompress hd hheld hrun
    cases hok
    exact ⟨c', e', h', answers_more hd h' hp hmore⟩
  | case6 d dst session w decoded produced hnone hended =>
    rename_i hrun
    obtain ⟨status, c', e', hok, h', hp⟩ := h.decompress hd hheld hrun
    cases hok
    exact ⟨c', e', h', answers_ended h' hp hnone hended⟩
  | case7 d dst session w decoded produced hnone hended err filled hfill =>
    rename_i hrun
    obtain ⟨status, c', e', hok, h', hp⟩ := h.decompress hd hheld hrun
    cases hok
    obtain ⟨d', hfilled, -⟩ := h'.fill (drained hp) (by simpa using hended)
    rw [hfilled] at hfill
    cases hfill
  | case8 d dst session w decoded produced hnone hended filled hfill hrun =>
    rename_i ih
    obtain ⟨status, c', e', hok, h', hp⟩ := h.decompress hd hheld hrun
    cases hok
    obtain ⟨d', hfilled, hreading⟩ := h'.fill (drained hp) (by simpa using hended)
    obtain ⟨-, rfl⟩ := Prod.mk.inj (hfilled.symm.trans hfill)
    have hsame : e' = e := by
      have hsize := hp.size
      have hemitted := hp.emitted
      omega
    rw [← hp.storage]
    exact hsame ▸ ih (hp.storage ▸ hdst) hreading

end Reading

end StreamCodec.Decompressor
