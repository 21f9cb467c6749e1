import StreamCodec.Proofs.DecoderRecording
import StreamCodec.Proofs.SourceSupply

/-!
# Conservation through a decompressor

What a source validly delivered is in one of two places: the engine consumed it,
or it is still in the input buffer, and in the order in which it was delivered.
`supply` are the bytes that one read takes from the source, those that were
reported within the room; the journal of the source says how many they are, and
a truthful source says which.

On the other side every byte that the engine produces is returned by the very
read that had it produced, whatever fails in that read or after it, unless the
stream turns out to be corrupt. `Moves` carries both through the rounds of a
read and through a row of reads.
-/
namespace StreamCodec.Decompressor

variable {ω σ ε : Type}

/-- What a pull takes in: the bytes that the source reports within the room, as they stand there. -/
def pulled (d : Decompressor ω σ) : List UInt8 :=
  let input := d.input.compact
  match (d.source.readPatiently input.availableWrite).1 with
  | .ok delivery =>
    if delivery.reported ≤ input.availableWrite then
      (octets (overlay input.unwritten 0 delivery.bytes)).take delivery.reported
    else []
  | .error _ => []

/-- What a read into some room takes from the source. -/
def supply (d : Decompressor ω σ) (dst : ByteArray) : List UInt8 :=
  match _h : d.round dst with
  | .inr _ => []
  | .inl (dst', decoded) =>
    match _hfill : decoded.fill with
    | (.error _, _) => decoded.pulled
    | (.ok (), filled) => decoded.pulled ++ filled.supply dst'
termination_by (d.source.weight, if d.sourceEnded then 0 else 1)
decreasing_by
  obtain ⟨session, w, -, -, hopen, -, rfl⟩ := round_asks _h
  exact fill_decreases (d := { d with session, input := w.src }) hopen _hfill

/-- What a row of reads takes from the source. Reads without room take nothing. -/
def supplyAll (d : Decompressor ω σ) : List ByteArray → List UInt8
  | [] => []
  | dst :: dsts =>
    (if d.session.isDisposed ∨ dst.size = 0 then [] else d.supply dst) ++
      (d.read dst).2.2.supplyAll dsts

def afterReads (d : Decompressor ω σ) : List ByteArray → Decompressor ω σ
  | [] => d
  | dst :: dsts => (d.read dst).2.2.afterReads dsts

/-- The sum of the counts that a row of reads answers. -/
def countAll : List (Except CodecError Nat × ByteArray) → Nat
  | [] => 0
  | (.ok n, _) :: answers => n + countAll answers
  | (.error _, _) :: answers => countAll answers

theorem delivered_cons (answer : Except CodecError Nat × ByteArray)
    (answers : List (Except CodecError Nat × ByteArray)) :
    delivered (answer :: answers) = delivered [answer] ++ delivered answers := by
  rcases answer with ⟨e | n, dst⟩
  · rfl
  · simp only [delivered, List.append_nil]

theorem countAll_cons (answer : Except CodecError Nat × ByteArray)
    (answers : List (Except CodecError Nat × ByteArray)) :
    countAll (answer :: answers) = countAll [answer] + countAll answers := by
  rcases answer with ⟨e | n, dst⟩
  · exact (Nat.zero_add _).symm
  · rfl

/-- None of the answers says that the stream is corrupt. -/
def Sound (answers : List (Except CodecError Nat × ByteArray)) : Prop :=
  ∀ answer ∈ answers, ∀ codec detail, answer.1 ≠ .error (.invalidData codec detail)

section Supply

variable {d decoded : Decompressor ω σ} {dst dst' : ByteArray}

theorem supply_of_answer {answer : Except CodecError Nat × ByteArray × Decompressor ω σ}
    (h : d.round dst = .inr answer) : d.supply dst = [] := by
  rw [supply]
  split
  · rfl
  · next h' => cases h'.symm.trans h

theorem supply_of_failure {e : CodecError} {filled : Decompressor ω σ}
    (h : d.round dst = .inl (dst', decoded)) (hfill : decoded.fill = (.error e, filled)) :
    d.supply dst = decoded.pulled := by
  rw [supply]
  split
  · next h' => cases h'.symm.trans h
  · next h' =>
    obtain ⟨rfl, rfl⟩ := Prod.mk.inj (Sum.inl.inj (h'.symm.trans h))
    split
    · rfl
    · next hfill' => cases (Prod.mk.inj (hfill'.symm.trans hfill)).1

theorem supply_of_pull {filled : Decompressor ω σ} (h : d.round dst = .inl (dst', decoded))
    (hfill : decoded.fill = (.ok (), filled)) :
    d.supply dst = decoded.pulled ++ filled.supply dst' := by
  rw [supply]
  split
  · next h' => cases h'.symm.trans h
  · next h' =>
    obtain ⟨rfl, rfl⟩ := Prod.mk.inj (Sum.inl.inj (h'.symm.trans h))
    split
    · next hfill' => cases (Prod.mk.inj (hfill'.symm.trans hfill)).1
    · next hfill' => rw [(Prod.mk.inj (hfill'.symm.trans hfill)).2]

/-- A pull takes in as many bytes as the source reports within the room. -/
theorem length_pulled (d : Decompressor ω σ) :
    d.pulled.length = Source.within d.input.compact.availableWrite
      (d.source.readPatiently d.input.compact.availableWrite).1 := by
  unfold pulled
  dsimp only
  rcases (d.source.readPatiently d.input.compact.availableWrite).1 with e | delivery
  · rfl
  · dsimp only [Source.within]
    split
    · next hle =>
      rw [List.length_take, length_octets, size_overlay _ _ _ (Nat.zero_le _),
        CursorBuffer.size_unwritten, Nat.min_eq_left hle]
    · rfl

/-- From a truthful source a pull takes in the bytes that the source handed over. -/
theorem pulled_of_truthful (hs : d.source.Truthful) :
    d.pulled = Source.handed d.input.compact.availableWrite
      (d.source.readPatiently d.input.compact.availableWrite).1 := by
  have hsize := (Source.hands_readPatiently hs d.input.compact.availableWrite).size
  unfold pulled
  dsimp only
  rcases hread : (d.source.readPatiently d.input.compact.availableWrite).1 with e | delivery
  · rfl
  · dsimp only [Source.handed]
    split
    · next hle =>
      have hfull := hsize delivery hread hle
      have hfit : (octets delivery.bytes).length ≤ d.input.compact.unwritten.size := by
        rw [length_octets, CursorBuffer.size_unwritten, hfull]
        exact hle
      rw [octets_overlay, List.take_zero, List.nil_append, Nat.sub_zero, List.take_of_length_le hfit]
      exact List.take_left' hfull
    · rfl

end Supply

theorem recorded_supply (d : Decompressor ω σ) (dst : ByteArray) (ledger : Ledger) :
    (d.recorded ledger).supply dst = d.supply dst := by
  induction d, dst using readSome_rounds generalizing ledger with
  | answers d dst answer h =>
    obtain ⟨ledger', hround⟩ := recorded_round d dst ledger
    rw [h] at hround
    rw [supply_of_answer h, supply_of_answer hround]
  | fails d dst dst' decoded e filled h hfill =>
    obtain ⟨ledger', hround⟩ := recorded_round d dst ledger
    rw [h] at hround
    have hfill' : (decoded.recorded ledger').fill = (.error e, filled.recorded ledger') := by
      rw [recorded_fill, hfill]
    rw [supply_of_failure h hfill, supply_of_failure hround hfill']
    rfl
  | pulls d dst dst' decoded filled h hfill ih =>
    obtain ⟨ledger', hround⟩ := recorded_round d dst ledger
    rw [h] at hround
    have hfill' : (decoded.recorded ledger').fill = (.ok (), filled.recorded ledger') := by
      rw [recorded_fill, hfill]
    rw [supply_of_pull h hfill, supply_of_pull hround hfill', ih ledger']
    rfl

theorem recorded_supplyAll (d : Decompressor ω σ) (dsts : List ByteArray) (ledger : Ledger) :
    (d.recorded ledger).supplyAll dsts = d.supplyAll dsts := by
  induction dsts generalizing d ledger with
  | nil => rfl
  | cons dst dsts ih =>
    obtain ⟨ledger', hread⟩ := recorded_read d dst ledger
    rw [supplyAll, supplyAll, hread, recorded_supply]
    dsimp only
    rw [ih]
    rfl

theorem recorded_afterReads (d : Decompressor ω σ) (dsts : List ByteArray) (ledger : Ledger) :
    ∃ ledger', (d.recorded ledger).afterReads dsts = (d.afterReads dsts).recorded ledger' := by
  induction dsts generalizing d ledger with
  | nil => exact ⟨ledger, rfl⟩
  | cons dst dsts ih =>
    obtain ⟨ledger', hread⟩ := recorded_read d dst ledger
    rw [afterReads, hread]
    exact ih _ ledger'

def ledger (d : Decompressor (ω × Ledger) σ) : Ledger := d.session.world.2

/-- An open decompressor over a recording engine. -/
structure Open (d : Decompressor (ω × Ledger) σ) : Prop where
  engine : ∃ engine : DecoderEngine ω σ, d.session.engine = engine.recording
  isDisposed : d.session.isDisposed = false
  handle : d.session.handle.isSome

/-- What happens from one state of a decompressor to a later one: so many bytes were supplied, and
these calls were made. -/
structure Moves (d : Decompressor (ω × Ledger) σ) (supplied : List UInt8) (calls : Ledger)
    (d' : Decompressor (ω × Ledger) σ) : Prop where
  engine : d'.session.engine = d.session.engine
  isDisposed : d'.session.isDisposed = d.session.isDisposed
  handle : d.session.handle.isSome → d'.session.handle.isSome
  ledger : d'.ledger = d.ledger ++ calls
  totalIn : d'.totalIn = d.totalIn + (Ledger.consumed calls).length
  totalOut : d'.totalOut = d.totalOut + (Ledger.produced calls).length
  input : octets d.input.unread ++ supplied = Ledger.consumed calls ++ octets d'.input.unread
  journal : d'.source.delivered = d.source.delivered + supplied.length
  source : d.source.Truthful →
    d'.source.Truthful ∧ d.source.remaining = supplied ++ d'.source.remaining

namespace Moves

variable {d d' d'' : Decompressor (ω × Ledger) σ} {supplied supplied' : List UInt8} {a b : Ledger}

theorem refl (d : Decompressor (ω × Ledger) σ) : Moves d [] [] d :=
  ⟨rfl, rfl, id, (List.append_nil _).symm, rfl, rfl, List.append_nil _, rfl, fun h => ⟨h, rfl⟩⟩

theorem trans (first : Moves d supplied a d') (second : Moves d' supplied' b d'') :
    Moves d (supplied ++ supplied') (a ++ b) d'' where
  engine := second.engine.trans first.engine
  isDisposed := second.isDisposed.trans first.isDisposed
  handle := fun h => second.handle (first.handle h)
  ledger := by rw [second.ledger, first.ledger, List.append_assoc]
  totalIn := by
    rw [second.totalIn, first.totalIn, Ledger.consumed_append, List.length_append, Nat.add_assoc]
  totalOut := by
    rw [second.totalOut, first.totalOut, Ledger.produced_append, List.length_append, Nat.add_assoc]
  input := by
    rw [← List.append_assoc, first.input, List.append_assoc, second.input, Ledger.consumed_append,
      List.append_assoc]
  journal := by rw [second.journal, first.journal, List.length_append, Nat.add_assoc]
  source := by
    intro h
    obtain ⟨h', hfirst⟩ := first.source h
    obtain ⟨h'', hsecond⟩ := second.source h'
    exact ⟨h'', by rw [hfirst, hsecond, List.append_assoc]⟩

theorem opened (h : Moves d supplied a d') (ho : d.Open) : d'.Open where
  engine := by rw [h.engine]; exact ho.engine
  isDisposed := h.isDisposed.trans ho.isDisposed
  handle := h.handle ho.handle

end Moves

/-- The answer of a read returns the bytes that were produced in it, unless it says that the stream
is corrupt. -/
structure Returns (produced : List UInt8) (result : Except CodecError Nat) (dst : ByteArray) :
    Prop where
  bytes : Sound [(result, dst)] → delivered [(result, dst)] = produced
  count : Sound [(result, dst)] → countAll [(result, dst)] = produced.length

theorem returns_count {produced : List UInt8} {dst : ByteArray} {n : Nat}
    (hbytes : (octets dst).take n = produced) (hcount : n = produced.length) :
    Returns produced (.ok n) dst :=
  ⟨fun _ => (List.append_nil _).trans hbytes, fun _ => hcount⟩

theorem returns_nothing {result : Except CodecError Nat} (hr : ∀ n, result = .ok n → n = 0)
    (dst : ByteArray) : Returns [] result dst := by
  rcases result with e | n
  · exact ⟨fun _ => rfl, fun _ => rfl⟩
  · obtain rfl := hr n rfl
    exact returns_count List.take_zero rfl

theorem returns_corrupt (produced : List UInt8) (codec : Codec) (detail : String)
    (dst : ByteArray) : Returns produced (.error (.invalidData codec detail)) dst := by
  have hunsound : ¬Sound [(Except.error (.invalidData codec detail), dst)] :=
    fun h => h _ List.mem_cons_self codec detail rfl
  exact ⟨fun h => absurd h hunsound, fun h => absurd h hunsound⟩

theorem pulled_of_full {d : Decompressor ω σ} (h : d.input.compact.availableWrite = 0) :
    d.pulled = [] := by
  rw [← List.length_eq_zero_iff, length_pulled, h, Source.within_zero]

theorem session_fill (d : Decompressor ω σ) : d.fill.2.session = d.session := by
  unfold fill accept
  dsimp only
  split
  · rfl
  · split
    · rfl
    · split
      · rfl
      · dsimp only
        split <;> rfl

theorem source_fill {d : Decompressor ω σ} (h : ¬d.input.compact.availableWrite = 0) :
    d.fill.2.source = (d.source.readPatiently d.input.compact.availableWrite).2 := by
  unfold fill
  dsimp only
  rw [if_neg h]
  rcases d.source.readPatiently d.input.compact.availableWrite with ⟨e | delivery, source⟩
  · rfl
  · dsimp only
    split
    · rfl
    · exact source_accept ..

theorem input_fill (d : Decompressor ω σ) :
    octets d.fill.2.input.unread = octets d.input.unread ++ d.pulled := by
  by_cases hroom : d.input.compact.availableWrite = 0
  · rw [pulled_of_full hroom, List.append_nil, fill]
    dsimp only
    rw [if_pos hroom, CursorBuffer.octets_unread_compact]
  · rw [fill, pulled, ← d.input.octets_unread_compact]
    dsimp only
    rw [if_neg hroom]
    rcases d.source.readPatiently d.input.compact.availableWrite with ⟨e | delivery, source⟩
    · exact (List.append_nil _).symm
    · dsimp only
      by_cases hover : d.input.compact.availableWrite < delivery.reported
      · rw [if_pos hover, if_neg (Nat.not_le_of_lt hover), List.append_nil]
      · rw [if_neg hover, if_pos (Nat.le_of_not_lt hover), accept]
        split
        · next hzero => rw [hzero, List.take_zero, List.append_nil]
        · rw [CursorBuffer.octets_unread_commit, CursorBuffer.octets_unread_poke,
            CursorBuffer.octets_unwritten_poke]

theorem delivered_fill (d : Decompressor ω σ) :
    d.fill.2.source.delivered = d.source.delivered + d.pulled.length := by
  by_cases hroom : d.input.compact.availableWrite = 0
  · rw [pulled_of_full hroom, fill]
    dsimp only
    rw [if_pos hroom]
    rfl
  · rw [source_fill hroom, length_pulled]
    exact d.source.delivered_readPatiently _

theorem remaining_fill {d : Decompressor ω σ} (hs : d.source.Truthful) :
    d.fill.2.source.Truthful ∧ d.source.remaining = d.pulled ++ d.fill.2.source.remaining := by
  by_cases hroom : d.input.compact.availableWrite = 0
  · rw [pulled_of_full hroom, fill]
    dsimp only
    rw [if_pos hroom]
    exact ⟨hs, rfl⟩
  · obtain ⟨hbytes, -, htruthful⟩ :=
      Source.hands_readPatiently hs d.input.compact.availableWrite
    rw [source_fill hroom, pulled_of_truthful hs]
    exact ⟨htruthful, hbytes⟩

section Rounds

variable {engine : DecoderEngine ω σ} {d decoded d' : Decompressor (ω × Ledger) σ}
  {dst dst' : ByteArray}

/-- A pull supplies what it takes in and makes no call, whether it fails or not. -/
theorem moves_fill (d : Decompressor (ω × Ledger) σ) : Moves d d.pulled [] d.fill.2 := by
  have hsession := d.session_fill
  have hledger : d.fill.2.ledger = d.ledger := congrArg (fun s => s.world.2) hsession
  exact ⟨congrArg DecoderSession.engine hsession, congrArg DecoderSession.isDisposed hsession,
    fun h => hsession ▸ h, hledger.trans (List.append_nil _).symm,
    congrArg DecoderSession.totalIn hsession, congrArg DecoderSession.totalOut hsession,
    d.input_fill.symm.trans (List.nil_append _).symm, d.delivered_fill, remaining_fill⟩

/-- What a session operation does in a round: it makes calls, and what they produce is at the front
of the destination. -/
theorem moves_decompress (ho : d.Open) (dst : ByteArray) :
    ∃ status session w calls, d.session.decompress ⟨d.input, .empty dst⟩ = (.ok status, session, w) ∧
      Moves d [] calls { d with session, input := w.src } ∧
      (octets w.dst.storage).take w.dst.size = Ledger.produced calls ∧
      w.dst.size = (Ledger.produced calls).length := by
  obtain ⟨engine, he⟩ := ho.engine
  obtain ⟨status, session, w, calls, hrun, h⟩ :=
    d.session.decompress_runs he ho.isDisposed ho.handle ⟨d.input, .empty dst⟩
  obtain ⟨hcount, -, hbytes⟩ := h.moved.of_empty
  refine ⟨status, session, w, calls, hrun, ⟨h.engine, h.isDisposed, h.handle, h.ledger, h.totalIn,
    h.totalOut, ?_, rfl, fun h => ⟨h, rfl⟩⟩, hbytes, hcount⟩
  rw [List.append_nil]
  exact h.moved.src

/-- A round that answers returns what its calls produced. -/
theorem moves_answer {result : Except CodecError Nat} (ho : d.Open)
    (h : d.round dst = .inr (result, dst', d')) :
    ∃ calls, Moves d [] calls d' ∧ Returns (Ledger.produced calls) result dst' := by
  obtain ⟨status, session, w, calls, hrun, hmoves, hbytes, hcount⟩ := moves_decompress ho dst
  obtain ⟨_, session', w', hrun', rfl, rfl, hanswer⟩ := round_answers h
  obtain ⟨rfl, hrest⟩ := Prod.mk.inj (hrun.symm.trans hrun')
  obtain ⟨rfl, rfl⟩ := Prod.mk.inj hrest
  refine ⟨calls, hmoves, ?_⟩
  cases hanswer with
  | done | full | bytes => exact returns_count hbytes hcount
  | corrupt => exact returns_corrupt ..
  | ended hzero =>
    have hnone : Ledger.produced calls = [] := List.length_eq_zero_iff.mp (by omega)
    rw [hnone]
    refine returns_nothing (fun n hn => ?_) _
    unfold endOfSource at hn
    split at hn
    · cases hn
    · exact (Except.ok.inj hn).symm

theorem moves_ask (ho : d.Open) (h : d.round dst = .inl (dst', decoded)) :
    ∃ calls, Moves d [] calls decoded ∧ Ledger.produced calls = [] := by
  obtain ⟨status, session, w, calls, hrun, hmoves, -, hcount⟩ := moves_decompress ho dst
  obtain ⟨session', w', hrun', hzero, -, -, rfl⟩ := round_asks h
  obtain ⟨-, hrest⟩ := Prod.mk.inj (hrun.symm.trans hrun')
  obtain ⟨rfl, rfl⟩ := Prod.mk.inj hrest
  exact ⟨calls, hmoves, List.length_eq_zero_iff.mp (by omega)⟩

end Rounds

variable {d : Decompressor (ω × Ledger) σ}

/-- A read into some room. What its failing or repeated pulls take in is never lost, and only its
last round has anything produced. -/
theorem moves_readSome (ho : d.Open) (dst : ByteArray) :
    ∃ calls, Moves d (d.supply dst) calls (d.readSome dst).2.2 ∧
      Returns (Ledger.produced calls) (d.readSome dst).1 (d.readSome dst).2.1 := by
  induction d, dst using readSome_rounds with
  | answers d dst answer h =>
    rw [supply_of_answer h]
    exact moves_answer ho h
  | fails d dst dst' decoded e filled h hfill =>
    obtain ⟨calls, hmoves, hnone⟩ := moves_ask ho h
    have hpull := moves_fill decoded
    rw [hfill] at hpull
    have hall := hmoves.trans hpull
    rw [List.append_nil, List.nil_append] at hall
    rw [supply_of_failure h hfill]
    refine ⟨calls, hall, ?_⟩
    rw [hnone]
    exact returns_nothing (fun _ h => by cases h) _
  | pulls d dst dst' decoded filled h hfill ih =>
    obtain ⟨calls, hmoves, hnone⟩ := moves_ask ho h
    have hpull := moves_fill decoded
    rw [hfill] at hpull
    have hpulled := hmoves.trans hpull
    rw [List.append_nil, List.nil_append] at hpulled
    obtain ⟨calls', hrest, hreturns⟩ := ih (hpulled.opened ho)
    rw [supply_of_pull h hfill]
    refine ⟨calls ++ calls', hpulled.trans hrest, ?_⟩
    rw [Ledger.produced_append, hnone, List.nil_append]
    exact hreturns

theorem moves_readNothing (d : Decompressor (ω × Ledger) σ) :
    Moves d [] [] d.readNothing.2 ∧ ∀ n, d.readNothing.1 = .ok n → n = 0 := by
  have hjournal := d.source.delivered_read 0
  rw [Source.within_zero] at hjournal
  have hmoves : Moves d [] [] { d with source := (d.source.read 0).2 } := by
    refine ⟨rfl, rfl, id, (List.append_nil _).symm, rfl, rfl, List.append_nil _, hjournal, fun hs => ?_⟩
    exact ⟨(Source.hands_read hs 0).truthful, Source.remaining_read_zero hs⟩
  unfold readNothing
  split
  · exact ⟨.refl d, fun n hn => (Except.ok.inj hn).symm⟩
  · rcases hread : d.source.read 0 with ⟨e | delivery, source⟩
    all_goals rw [hread] at hmoves
    · exact ⟨hmoves, nofun⟩
    · dsimp only
      split
      · exact ⟨hmoves, nofun⟩
      · exact ⟨hmoves, fun n hn => (Except.ok.inj hn).symm⟩

theorem moves_read (ho : d.Open) (dst : ByteArray) :
    ∃ calls, Moves d (d.supplyAll [dst]) calls (d.read dst).2.2 ∧
      Returns (Ledger.produced calls) (d.read dst).1 (d.read dst).2.1 := by
  have hopen : ¬d.session.isDisposed = true := by rw [ho.isDisposed]; exact Bool.false_ne_true
  rw [supplyAll, supplyAll, List.append_nil, read, if_neg hopen]
  by_cases hdst : dst.size = 0
  · obtain ⟨hmoves, hzero⟩ := d.moves_readNothing
    rw [if_pos hdst, if_pos (.inr hdst)]
    exact ⟨[], hmoves, returns_nothing hzero _⟩
  · rw [if_neg hdst, if_neg (not_or.mpr ⟨hopen, hdst⟩)]
    exact moves_readSome ho dst

theorem supplyAll_cons (d : Decompressor ω σ) (dst : ByteArray) (dsts : List ByteArray) :
    d.supplyAll (dst :: dsts) = d.supplyAll [dst] ++ (d.read dst).2.2.supplyAll dsts := by
  rw [supplyAll, supplyAll, supplyAll, List.append_nil]

theorem moves_reads (ho : d.Open) (dsts : List ByteArray) :
    ∃ calls, Moves d (d.supplyAll dsts) calls (d.afterReads dsts) ∧
      (Sound (d.readAll dsts) → delivered (d.readAll dsts) = Ledger.produced calls ∧
        countAll (d.readAll dsts) = (Ledger.produced calls).length) := by
  induction dsts generalizing d with
  | nil => exact ⟨[], .refl d, fun _ => ⟨rfl, rfl⟩⟩
  | cons dst dsts ih =>
    obtain ⟨calls, hmoves, hreturns⟩ := moves_read ho dst
    obtain ⟨calls', hrest, hall⟩ := ih (hmoves.opened ho)
    rw [supplyAll_cons]
    refine ⟨calls ++ calls', hmoves.trans hrest, fun hsound => ?_⟩
    have hfirst : Sound [((d.read dst).1, (d.read dst).2.1)] := by
      rw [readAll] at hsound
      exact fun answer h => hsound answer (List.mem_cons.mpr (.inl (List.mem_singleton.mp h)))
    have hlater : Sound ((d.read dst).2.2.readAll dsts) := by
      rw [readAll] at hsound
      exact fun answer h => hsound answer (List.mem_cons_of_mem _ h)
    obtain ⟨hbytes, hcount⟩ := hall hlater
    rw [readAll, delivered_cons, countAll_cons, hreturns.bytes hfirst, hreturns.count hfirst, hbytes,
      hcount, Ledger.produced_append, List.length_append]
    exact ⟨rfl, rfl⟩

/-- What holds after a row of reads has taken `supplied` from the source and made the calls of the
ledger. -/
structure Conserved (source : Source) (d : Decompressor ω σ) (ledger : Ledger)
    (supplied : List UInt8) (answers : List (Except CodecError Nat × ByteArray)) : Prop where
  input : supplied = ledger.consumed ++ octets d.input.unread
  totalIn : d.totalIn = ledger.consumed.length
  journal : d.source.delivered = source.delivered + supplied.length
  truthful : source.Truthful → source.remaining = supplied ++ d.source.remaining
  returned : Sound answers → delivered answers = ledger.produced
  totalOut : Sound answers → d.totalOut = countAll answers

/-- Over any engine and behind any source, every row of reads conserves the bytes, whatever each of
them answers. -/
theorem reads_conserve (registry : Registry ω ε σ) (world : ω) (source : Source) (o : CodecOptions)
    (options : StreamOptions) {d : Decompressor ω σ} {world' : ω}
    (hnew : Decompressor.new registry world source o options = (.ok d, world'))
    (dsts : List ByteArray) :
    Conserved source (d.afterReads dsts) ((d.recorded []).afterReads dsts).ledger (d.supplyAll dsts)
      (d.readAll dsts) := by
  obtain ⟨factory, _, _, handle, -, -, -, hd⟩ := created hnew
  have ho : (d.recorded []).Open := by
    rw [hd]
    exact ⟨⟨factory.decoder, rfl⟩, rfl, rfl⟩
  obtain ⟨calls, hmoves, hall⟩ := moves_reads ho dsts
  rw [recorded_readAll] at hall
  rw [recorded_supplyAll] at hmoves
  obtain ⟨ledger', hafter⟩ := recorded_afterReads d dsts []
  have hledger : ((d.recorded []).afterReads dsts).ledger = calls := hmoves.ledger
  rw [hledger]
  rw [hafter] at hmoves
  have hinput : octets d.input.unread = [] := by
    rw [hd]
    exact CursorBuffer.octets_unread_empty _
  have hfirst : d.totalIn = 0 ∧ d.totalOut = 0 ∧ d.source = source := by
    rw [hd]
    exact ⟨rfl, rfl, rfl⟩
  obtain ⟨hin, hout, rfl⟩ := hfirst
  refine ⟨?_, ?_, hmoves.journal, fun hs => (hmoves.source hs).2, fun hs => (hall hs).1, fun hs => ?_⟩
  · have := hmoves.input
    rwa [show octets (d.recorded []).input.unread = [] from hinput, List.nil_append] at this
  · have := hmoves.totalIn
    rwa [show (d.recorded []).totalIn = 0 from hin, Nat.zero_add] at this
  · have := hmoves.totalOut
    rw [show (d.recorded []).totalOut = 0 from hout, Nat.zero_add] at this
    rw [(hall hs).2]
    exact this

theorem reads_conserve_marked :
    ∃ d, Decompressor.new Marked.registry () Marked.faultySource Marked.options Marked.stream₃ =
        (.ok d, ()) ∧
      Marked.faultySource.Truthful ∧
      (∀ dsts, Conserved Marked.faultySource (d.afterReads dsts)
        ((d.recorded []).afterReads dsts).ledger (d.supplyAll dsts) (d.readAll dsts)) ∧
      d.readAll [⟨#[0]⟩, ⟨#[0]⟩, ⟨#[0]⟩] =
        [(.error (.io ⟨.brokenPipe, "gone"⟩), ⟨#[0]⟩), (.error (.sourceOverrun 5 3), ⟨#[0]⟩),
          (.ok 1, ⟨#[97]⟩)] ∧
      ((d.recorded []).afterReads [⟨#[0]⟩, ⟨#[0]⟩, ⟨#[0]⟩]).ledger.consumed = [1, 97, 1, 98] := by
  refine ⟨_, Marked.new_decompressor .., ?_, fun dsts => reads_conserve Marked.registry ()
    Marked.faultySource Marked.options Marked.stream₃ (Marked.new_decompressor ..) dsts, ?_⟩
  · simp [Source.Truthful, Marked.faultySource]
  rw [← recorded_readAll _ _ []]
  generalize hd : (Marked.decompressor Marked.faultySource Marked.stream₃).recorded [] = d
  have hdst : (⟨#[0]⟩ : ByteArray).size ≠ 0 := by decide
  -- The first read fails at its only pull, the second at its second. What that had pulled before is
  -- not lost: the third brings a byte.
  have hfill : d.fill = (.error (.io ⟨.brokenPipe, "gone"⟩), d.fill.2) := by subst hd; cbv
  have hfirst : d.read ⟨#[0]⟩ = (.error (.io ⟨.brokenPipe, "gone"⟩), ⟨#[0]⟩, d.fill.2) := by
    rw [read_of_live (by subst hd; cbv) hdst, readSome_of_failure (by subst hd; cbv) hfill]
  generalize hd₁ : d.fill.2 = d₁ at hfirst
  have hfill₁ : d₁.fill = (.ok (), d₁.fill.2) := by subst hd hd₁; cbv
  generalize hf : (d₁.fill.2.outcome ⟨#[0]⟩).2.2 = f
  have hagain : f.fill = (.error (.sourceOverrun 5 3), f.fill.2) := by subst hd hd₁ hf; cbv
  have hsecond : d₁.read ⟨#[0]⟩ = (.error (.sourceOverrun 5 3), ⟨#[0]⟩, f.fill.2) := by
    rw [read_of_live (by subst hd hd₁; cbv) hdst, readSome_of_pull (by subst hd hd₁; cbv) hfill₁,
      readSome_of_failure (by subst hd hd₁ hf; cbv) hagain]
  generalize hd₂ : f.fill.2 = d₂ at hsecond
  generalize hg : (d₂.outcome ⟨#[0]⟩).2.2 = g
  have hfill₂ : g.fill = (.ok (), g.fill.2) := by subst hd hd₁ hf hd₂ hg; cbv
  have hthird : d₂.read ⟨#[0]⟩ = g.fill.2.outcome ⟨#[0]⟩ := by
    rw [read_of_live (by subst hd hd₁ hf hd₂; cbv) hdst,
      readSome_of_pull (by subst hd hd₁ hf hd₂ hg; cbv) hfill₂,
      readSome_of_answer (round_of_isRight _ _ (by subst hd hd₁ hf hd₂ hg; cbv))]
  simp only [readAll, afterReads, hfirst, hsecond, hthird]
  subst hd hd₁ hf hd₂ hg
  constructor <;> cbv

end StreamCodec.Decompressor
