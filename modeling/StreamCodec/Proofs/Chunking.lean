import StreamCodec.Proofs.Delivery
import StreamCodec.Proofs.Marked

/-!
# Chunking

What a row of reads answers depends on the plain text alone: every read into
some room gets the next plain bytes, at least one of them, until all are
delivered, and then the same last answer for ever. Reads without room, wherever
they come, answer zero and change nothing that is delivered.
-/
namespace StreamCodec.Decompressor

variable {ω σ ε : Type}

/-- Reads into the destinations one after the other, whatever the answers. -/
def readAll (d : Decompressor ω σ) : List ByteArray → List (Except CodecError Nat × ByteArray)
  | [] => []
  | dst :: dsts =>
    match d.read dst with
    | (result, dst', d') => (result, dst') :: d'.readAll dsts

/-- The transcript of a row of reads that delivers `rest` and then answers `last`. -/
inductive Transcript (last : Except CodecError Nat) :
    List UInt8 → List ByteArray → List (Except CodecError Nat × ByteArray) → Prop
  | nil (rest : List UInt8) : Transcript last rest [] []
  | nothing {rest : List UInt8} {dst : ByteArray} {dsts : List ByteArray}
      {answers : List (Except CodecError Nat × ByteArray)} (room : dst.size = 0)
      (later : Transcript last rest dsts answers) :
      Transcript last rest (dst :: dsts) ((.ok 0, dst) :: answers)
  | more {rest : List UInt8} {dst dst' : ByteArray} {dsts : List ByteArray}
      {answers : List (Except CodecError Nat × ByteArray)} {n : Nat} (pos : 0 < n)
      (room : n ≤ dst.size) (le : n ≤ rest.length) (bytes : (octets dst').take n = rest.take n)
      (later : Transcript last (rest.drop n) dsts answers) :
      Transcript last rest (dst :: dsts) ((.ok n, dst') :: answers)
  | ended {dst dst' : ByteArray} {dsts : List ByteArray}
      {answers : List (Except CodecError Nat × ByteArray)} (room : 0 < dst.size)
      (later : Transcript last [] dsts answers) :
      Transcript last [] (dst :: dsts) ((last, dst') :: answers)

def delivered : List (Except CodecError Nat × ByteArray) → List UInt8
  | [] => []
  | (.ok n, dst) :: answers => (octets dst).take n ++ delivered answers
  | (.error _, _) :: answers => delivered answers

namespace Reading

variable {codec : Codec} {engine : DecoderEngine ω σ} {parameters : List Parameter}
  {compressed plain held : List UInt8} {out : Nat → Nat} {At : σ → ω → Nat → Nat → Prop}
  {d : Decompressor ω σ} {c e : Nat}

theorem readNothing (h : Reading codec engine At compressed held out d c e) :
    d.readNothing.1 = .ok 0 ∧
      Reading codec engine At compressed held out d.readNothing.2 c e := by
  obtain ⟨delivery, source, hread, hdelivers⟩ := Source.read_delivers h.plain 0
  have hzero : delivery.reported = 0 := Nat.le_zero.mp hdelivers.le
  have hsame : source.remaining = d.source.remaining := by
    rw [hdelivers.remaining, hzero, List.drop_zero]
  unfold Decompressor.readNothing
  split
  · exact ⟨rfl, h⟩
  · rw [hread]
    dsimp only
    rw [if_neg (by omega)]
    refine ⟨rfl, h.stands, h.within, h.determined, h.le, ?_, hdelivers.plain, h.capacity, ?_⟩
    · rw [hsame]
      exact h.held
    · intro hended
      rw [hsame]
      exact h.ended hended

/-- A row of reads, by induction on the destinations. -/
theorem transcript (hd : engine.Decodes parameters compressed plain out At)
    (hheld : held.take compressed.length <+: compressed)
    (h : Reading codec engine At compressed held out d c e) (dsts : List ByteArray) :
    Transcript (lastAnswer codec compressed held)
      ((plain.take (determinedBy compressed held out)).drop e) dsts (d.readAll dsts) := by
  induction dsts generalizing d c e with
  | nil => exact .nil _
  | cons dst dsts ih =>
    have hopen : ¬d.session.isDisposed = true := by simp [h.stands.isDisposed]
    rw [readAll, read, if_neg hopen]
    by_cases hroom : dst.size = 0
    · rw [if_pos hroom]
      obtain ⟨hresult, hreading⟩ := h.readNothing
      dsimp only
      rw [hresult]
      exact .nothing hroom (ih hreading)
    · rw [if_neg hroom]
      obtain ⟨c', e', hreading, hanswers⟩ := h.readSome hd hheld (Nat.pos_of_ne_zero hroom)
      have hlater := ih hreading
      have hall : determinedBy compressed held out ≤ plain.length := by
        rw [← hd.out_all]
        exact hd.mono _ _ (Nat.min_le_left ..)
      rcases hanswers with ⟨hlt, hle, hfit, hresult, hbytes⟩ | ⟨hsame, hend, hresult⟩
      · dsimp only
        rw [hresult]
        have hdrop : (plain.take (determinedBy compressed held out)).drop e' =
            ((plain.take (determinedBy compressed held out)).drop e).drop (e' - e) := by
          rw [List.drop_drop, Nat.add_sub_cancel' (Nat.le_of_lt hlt)]
        rw [hdrop] at hlater
        refine .more (by omega) hfit ?_ ?_ hlater
        · rw [List.length_drop, List.length_take]
          omega
        · rw [hbytes, List.drop_take, List.take_take, Nat.min_eq_left (by omega)]
      · have hnone : (plain.take (determinedBy compressed held out)).drop e = [] := by
          rw [List.drop_eq_nil_iff, List.length_take]
          omega
        rw [hsame] at hlater
        rw [hnone] at hlater ⊢
        dsimp only
        rw [hresult]
        exact .ended (Nat.pos_of_ne_zero hroom) hlater

/-- A source that holds the whole stream is read to the end. -/
theorem delivers_all (hd : engine.Decodes parameters compressed plain out At)
    {trailing : List UInt8} (hheld : held = compressed ++ trailing)
    (h : Reading codec engine At compressed held out d 0 0) (dsts : List ByteArray) :
    Transcript (.ok 0) plain dsts (d.readAll dsts) := by
  have hle : compressed.length ≤ held.length := by
    rw [hheld, List.length_append]
    omega
  have htake : held.take compressed.length <+: compressed := by rw [hheld, List.take_left]
  have hall := h.transcript hd htake dsts
  rwa [lastAnswer, if_pos (.inl hle), determinedBy_whole hd hle,
    List.take_length, List.drop_zero] at hall

/-- A source that ends before the stream is read as far as it goes. -/
theorem delivers_part (hd : engine.Decodes parameters compressed plain out At)
    (hc : c < compressed.length) (hheld : held = compressed.take c)
    (h : Reading codec engine At compressed held out d 0 0) (dsts : List ByteArray) :
    Transcript (if c = 0 then .ok 0 else .error (.truncated codec)) (plain.take (out c)) dsts
      (d.readAll dsts) := by
  have hlen : held.length = c := by
    rw [hheld, List.length_take]
    omega
  have htake : held.take compressed.length <+: compressed :=
    (List.take_prefix ..).trans (hheld ▸ List.take_prefix ..)
  have hlast : lastAnswer codec compressed held =
      if c = 0 then .ok 0 else .error (.truncated codec) := by
    rw [lastAnswer, hlen]
    refine if_congr ?_ rfl rfl
    rw [← List.length_eq_zero_iff, hlen]
    omega
  have hall := h.transcript hd htake dsts
  rwa [hlast, determinedBy, hlen, Nat.min_eq_right (Nat.le_of_lt hc), List.drop_zero] at hall

end Reading

theorem created {registry : Registry ω ε σ} {world world' : ω} {source : Source} {o : CodecOptions}
    {options : StreamOptions} {d : Decompressor ω σ}
    (h : Decompressor.new registry world source o options = (.ok d, world')) :
    ∃ factory handle₁ world₁ handle, registry.factory o.codec = .ok factory ∧
      factory.decoder.create world = (.ok handle₁, world₁) ∧
      factory.decoder.configure o.decoderParameters handle₁ world₁ = (.ok handle, world') ∧
      d = { session := { options := o, version := factory.version, engine := factory.decoder,
                         world := world', handle := some handle },
            input := .withCapacity options.capacity, source, options } := by
  unfold Decompressor.new at h
  split at h
  · cases h
  · next session hsession =>
    obtain ⟨factory, hfactory, rfl⟩ := DecoderSession.eq_of_new hsession
    split at h
    · cases h
    · next session hopen =>
      unfold DecoderSession.openNow at hopen
      split at hopen
      · next handle session' hopened =>
        obtain ⟨-, rfl⟩ := Prod.mk.inj hopen
        obtain ⟨handle₁, world₁, world₂, hcreate, hconf, rfl⟩ :=
          DecoderSession.opened_fresh rfl rfl hopened
        obtain ⟨hok, rfl⟩ := Prod.mk.inj h
        obtain rfl := Except.ok.inj hok
        exact ⟨factory, handle₁, world₁, handle, hfactory, hcreate, hconf, rfl⟩
      · cases hopen

theorem reading_new (registry : Registry ω ε σ) (world : ω) (source : Source) (o : CodecOptions)
    (options : StreamOptions) {factory : Factory ω ε σ} {d : Decompressor ω σ} {world' : ω}
    {compressed plain : List UInt8} {out : Nat → Nat} {At : σ → ω → Nat → Nat → Prop}
    (hfactory : registry.factory o.codec = .ok factory)
    (hd : factory.decoder.Decodes o.decoderParameters compressed plain out At)
    (hsource : source.Plain) (hnew : Decompressor.new registry world source o options = (.ok d, world')) :
    Reading o.codec factory.decoder At compressed source.remaining out d 0 0 := by
  obtain ⟨factory', handle₁, world₁, handle, hfactory', hcreate, hconf, rfl⟩ := created hnew
  obtain rfl := Except.ok.inj (hfactory.symm.trans hfactory')
  have hat := hd.opens _ _ _ _ _ hcreate hconf
  refine ⟨⟨rfl, rfl, rfl, ⟨handle, rfl, hat⟩, rfl⟩, Nat.zero_le _, Nat.zero_le _, Nat.zero_le _, ?_,
    hsource, ?_, nofun⟩
  · rw [List.drop_zero]
    exact congrArg (· ++ source.remaining) (CursorBuffer.octets_unread_empty _)
  · rw [CursorBuffer.capacity_withCapacity]
    exact options.capacity_pos

/-- Reading does not depend on chunking. Over an engine that decodes, whatever the size of the
buffer, the pieces of the source and the destinations, the reads deliver the plain text and then
answer zero where the source holds the whole stream, with anything behind it; where it holds part
of the stream only, they deliver what that part determines, and then report the stream as cut
off, unless there was nothing at all. -/
theorem reads_deliver (registry : Registry ω ε σ) (world : ω) (source : Source) (o : CodecOptions)
    (options : StreamOptions) {factory : Factory ω ε σ} {d : Decompressor ω σ} {world' : ω}
    {compressed plain : List UInt8} {out : Nat → Nat} {At : σ → ω → Nat → Nat → Prop}
    (hfactory : registry.factory o.codec = .ok factory)
    (hd : factory.decoder.Decodes o.decoderParameters compressed plain out At)
    (hsource : source.Plain) (hnew : Decompressor.new registry world source o options = (.ok d, world'))
    (dsts : List ByteArray) :
    (∀ trailing, source.remaining = compressed ++ trailing →
      Transcript (.ok 0) plain dsts (d.readAll dsts)) ∧
    ∀ c, c < compressed.length → source.remaining = compressed.take c →
      Transcript (if c = 0 then .ok 0 else .error (.truncated o.codec)) (plain.take (out c)) dsts
        (d.readAll dsts) := by
  have hreading := reading_new registry world source o options hfactory hd hsource hnew
  exact ⟨fun trailing hheld => hreading.delivers_all hd hheld dsts,
    fun c hc hheld => hreading.delivers_part hd hc hheld dsts⟩

theorem reads_deliver_marked :
    ∃ d d', Decompressor.new Marked.registry () Marked.wholeSource Marked.options Marked.stream₃ =
        (.ok d, ()) ∧
      Decompressor.new Marked.registry () Marked.cutSource Marked.options Marked.stream₃ =
        (.ok d', ()) ∧
      ∀ dsts, Transcript (.ok 0) [97, 98] dsts (d.readAll dsts) ∧
        Transcript (.error (.truncated .brotli)) [97] dsts (d'.readAll dsts) := by
  have hfactory : Marked.registry.factory Marked.options.codec = .ok Marked.factory := rfl
  have hd := Marked.Decoder.decodes Marked.options.decoderParameters [97, 98]
  have hwhole : Marked.wholeSource.Plain := by
    rw [Source.Plain, Marked.wholeSource, List.forall_mem_cons, List.forall_mem_singleton]
    exact ⟨⟨_, rfl, by decide⟩, _, rfl, by decide⟩
  have hcut : Marked.cutSource.Plain := by
    rw [Source.Plain, Marked.cutSource, List.forall_mem_cons, List.forall_mem_singleton]
    exact ⟨⟨_, rfl, by decide⟩, _, rfl, by decide⟩
  refine ⟨_, _, Marked.new_decompressor .., Marked.new_decompressor .., fun dsts => ⟨?_, ?_⟩⟩
  · exact (reads_deliver Marked.registry () Marked.wholeSource Marked.options Marked.stream₃ hfactory
      hd hwhole (Marked.new_decompressor ..) dsts).1 [7] rfl
  · exact (reads_deliver Marked.registry () Marked.cutSource Marked.options Marked.stream₃ hfactory
      hd hcut (Marked.new_decompressor ..) dsts).2 3 (by decide) rfl

end StreamCodec.Decompressor
