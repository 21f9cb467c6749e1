import StreamCodec.Proofs.Chunking
import StreamCodec.Proofs.Persistence

/-!
# Failed reads

A read that fails at its source, or is cancelled there, changes nothing that any
later read could tell: whoever reads on gets the bytes and the end that there
would have been without the failure. This holds of both kinds of decompressor
over any conforming engine, and a suspending one stays usable.
-/
namespace StreamCodec

variable {ω σ ε : Type}

namespace Decompressor

variable {engine : DecoderEngine ω σ} {parameters : List Parameter} {Live : σ → ω → Prop}
  {d decoded : Decompressor ω σ} {dst dst' : ByteArray}

def bare (d : Decompressor ω σ) : Decompressor ω σ := d.behind {}

theorem bare_accept (d : Decompressor ω σ) (delivery : Delivery) (s : Source) :
    (d.accept delivery s).bare = d.bare.accept delivery d.bare.source := by
  unfold accept bare behind
  split <;> rfl

theorem turn_bare (d : Decompressor ω σ) (dst : ByteArray) :
    d.bare.turn dst = (d.turn dst).map (fun x => (x.1, x.2.bare)) fun y => (y.1, y.2.1, y.2.2.bare) := by
  by_cases hdst : dst.size = 0
  · rw [turn_of_none hdst, turn_of_none hdst]
    have hsame : d.bare.hasBufferedInput = d.hasBufferedInput := rfl
    rw [hsame]
    split <;> rfl
  · rw [turn_of_room hdst, turn_of_room hdst]
    have hrun : d.bare.session.decompress ⟨d.bare.input, .empty dst⟩ =
      d.session.decompress ⟨d.input, .empty dst⟩ := rfl
    unfold round
    rw [hrun]
    rcases d.session.decompress ⟨d.input, .empty dst⟩ with ⟨_ | status, session, w⟩
    · rfl
    · cases status with
      | done | destinationTooSmall | invalidData => rfl
      | needMoreData =>
        have hended : d.bare.sourceEnded = d.sourceEnded := rfl
        dsimp only
        rw [hended]
        split
        · rfl
        · split <;> rfl

theorem Stays.bare (h : d.Stays engine Live) : d.bare.Stays engine Live := ⟨h.session, h.capacity, h.tidy⟩

theorem Stays.pos (h : d.Stays engine Live) (hw : d.Waits) :
    d.input.pos = 0 ∧ d.input.availableWrite ≠ 0 := by
  have hpos := h.tidy hw.input
  have hread := d.input.isEmpty_iff.mp hw.input
  have hall := d.input.availableRead_add_availableWrite hpos
  have hcap := h.capacity
  exact ⟨hpos, by omega⟩

/-- A decompressor that waits for a piece has room for one, and fails only as the pull does. -/
theorem fill_eq (h : d.Stays engine Live) (hw : d.Waits) :
    d.fill = match d.source.pull d.input.availableWrite with
      | (.error e, s) => (.error e, d.behind s)
      | (.ok delivery, s) => (.ok (), d.accept delivery s) := by
  obtain ⟨hpos, hroom⟩ := h.pos hw
  unfold fill Source.pull
  rw [CursorBuffer.compact_of_pos hpos]
  dsimp only
  rw [if_neg hroom, if_neg hroom]
  rcases d.source.readPatiently d.input.availableWrite with ⟨e | delivery, s⟩
  · rfl
  · dsimp only [Source.judge]
    split <;> rfl

theorem readNothing_eq (h : d.hasBufferedInput = false) :
    d.readNothing = match d.source.pull 0 with
      | (.error e, s) => (.error e, d.behind s)
      | (.ok _, s) => (.ok 0, d.behind s) := by
  unfold readNothing Source.pull
  rw [h, if_neg Bool.false_ne_true, if_pos rfl]
  rcases d.source.read 0 with ⟨e | delivery, s⟩
  · rfl
  · dsimp only [Source.judge]
    split <;> rfl

theorem fill_fails (h : d.Stays engine Live) (hw : d.Waits) {e : CodecError}
    {filled : Decompressor ω σ} (hfill : d.fill = (.error e, filled)) :
    ∃ s, d.source.pull d.input.availableWrite = (.error e, s) ∧ filled = d.behind s := by
  rw [fill_eq h hw] at hfill
  rcases hpull : d.source.pull d.input.availableWrite with ⟨e' | delivery, s⟩
  all_goals rw [hpull] at hfill
  · obtain ⟨he, hfilled⟩ := Prod.mk.inj hfill
    exact ⟨s, by rw [Except.error.inj he], hfilled.symm⟩
  · cases (Prod.mk.inj hfill).1

theorem fill_succeeds (h : d.Stays engine Live) (hw : d.Waits) {filled : Decompressor ω σ}
    (hfill : d.fill = (.ok (), filled)) :
    ∃ delivery s, d.source.pull d.input.availableWrite = (.ok delivery, s) ∧
      filled = d.accept delivery s := by
  rw [fill_eq h hw] at hfill
  rcases hpull : d.source.pull d.input.availableWrite with ⟨e | delivery, s⟩
  all_goals rw [hpull] at hfill
  · cases (Prod.mk.inj hfill).1
  · exact ⟨delivery, s, rfl, (Prod.mk.inj hfill).2.symm⟩

/-- A round that asks is a turn that asks, and offers all the free room. -/
theorem turn_of_ask (hc : engine.Conforms parameters Live) (hd : d.Stays engine Live)
    (hdst : dst.size ≠ 0) (h : d.round dst = .inl (dst', decoded)) :
    d.bare.turn dst = .inl (dst', decoded.bare) ∧
      decoded.bare.offer dst' = decoded.input.availableWrite ∧ dst'.size ≠ 0 ∧
      decoded.source = d.source := by
  obtain ⟨-, -, hsource, hsize⟩ := hd.ask hc h
  have hroom : dst'.size ≠ 0 := by rwa [hsize]
  refine ⟨?_, if_neg hroom, hroom, hsource⟩
  rw [turn_bare, turn_of_room hdst, h]
  rfl

/-- A read, turn by turn. -/
theorem attempts_readSome (hc : engine.Conforms parameters Live) (hd : d.Stays engine Live)
    (hdst : dst.size ≠ 0) :
    Attempts (fun room s result s' => s.pull room = (result, s')) d.bare d.source dst
      (d.readSome dst).1 (d.readSome dst).2.1 (d.readSome dst).2.2.bare (d.readSome dst).2.2.source := by
  induction d, dst using readSome_rounds with
  | answers d dst answer h =>
    obtain ⟨-, hsource, -⟩ := hd.answer hc h
    rw [hsource]
    refine .answered ?_
    rw [turn_bare, turn_of_room hdst, h]
    rfl
  | fails d dst dst' decoded e filled h hfill =>
    obtain ⟨hstays, hwaits, -, -⟩ := hd.ask hc h
    obtain ⟨hturn, hoffer, -, hsource⟩ := turn_of_ask hc hd hdst h
    obtain ⟨s, hpull, rfl⟩ := fill_fails hstays hwaits hfill
    rw [hsource, ← hoffer] at hpull
    exact .failed hturn hpull
  | pulls d dst dst' decoded filled h hfill ih =>
    obtain ⟨hstays, hwaits, -, -⟩ := hd.ask hc h
    obtain ⟨hturn, hoffer, hroom, hsource⟩ := turn_of_ask hc hd hdst h
    obtain ⟨delivery, s, hpull, rfl⟩ := fill_succeeds hstays hwaits hfill
    have hrest := ih (hstays.accept hwaits delivery s) hroom
    rw [bare_accept, source_accept] at hrest
    rw [hsource, ← hoffer] at hpull
    exact .pulled hdst hturn hpull hrest

theorem attempts_read (hc : engine.Conforms parameters Live) (hd : d.Stays engine Live)
    (dst : ByteArray) :
    Attempts (fun room s result s' => s.pull room = (result, s')) d.bare d.source dst
      (d.read dst).1 (d.read dst).2.1 (d.read dst).2.2.bare (d.read dst).2.2.source := by
  have hopen : ¬d.session.isDisposed = true := ne_true_of_eq_false hd.session.isDisposed
  unfold read
  rw [if_neg hopen]
  split
  · next hdst =>
    cases hbuffered : d.hasBufferedInput with
    | true =>
      rw [readNothing, if_pos hbuffered]
      refine .answered ?_
      rw [turn_bare, turn_of_none hdst, if_pos hbuffered]
      rfl
    | false =>
      have hturn : d.bare.turn dst = .inl (dst, d.bare) := by
        rw [turn_bare, turn_of_none hdst, if_neg (ne_true_of_eq_false hbuffered)]
        rfl
      rw [readNothing_eq hbuffered]
      have hoffer : d.bare.offer dst = 0 := if_pos hdst
      rcases hpull : d.source.pull 0 with ⟨e | delivery, s⟩
      · rw [← hoffer] at hpull
        exact .failed hturn hpull
      · exact .nothing hdst hturn hpull
  · next hdst => exact attempts_readSome hc hd hdst

/-- A read, as a relation. -/
def Reads (d : Decompressor ω σ) (dst : ByteArray) (result : Except CodecError Nat)
    (dst' : ByteArray) (d' : Decompressor ω σ) : Prop := d.read dst = (result, dst', d')

theorem reads_read (d : Decompressor ω σ) (dst : ByteArray) :
    d.Reads dst (d.read dst).1 (d.read dst).2.1 (d.read dst).2.2 := rfl

theorem Stays.of_bare (h : d.bare.Stays engine Live) : d.Stays engine Live :=
  ⟨h.session, h.capacity, h.tidy⟩

theorem Reads.attempts (hc : engine.Conforms parameters Live) (hd : d.Stays engine Live)
    {result : Except CodecError Nat} {d' : Decompressor ω σ} (h : d.Reads dst result dst' d') :
    Attempts (fun room s result s' => s.pull room = (result, s')) d.bare d.source dst result dst'
      d'.bare d'.source := by
  have hattempts := attempts_read hc hd dst
  rwa [h] at hattempts

theorem Reads.stays (hc : engine.Conforms parameters Live) (hd : d.Stays engine Live)
    {result : Except CodecError Nat} {d' : Decompressor ω σ} (h : d.Reads dst result dst' d') :
    d'.Stays engine Live := .of_bare ((h.attempts hc hd).stays hc hd.bare)

theorem fares_of_pull (room : Nat) (s : Source) (result : Except CodecError Delivery) (s' : Source)
    (h : s.pull room = (result, s')) :
    s.Fares SourceAnswer.isFault (Source.overclaim room) room result s' := by
  have hfares := (s.fares_pull room).1
  rwa [h] at hfares

theorem Reads.costs (hc : engine.Conforms parameters Live) (hd : d.Stays engine Live)
    {result : Except CodecError Nat} {d' : Decompressor ω σ} (h : d.Reads dst result dst' d') :
    d'.source.faults SourceAnswer.isFault ≤ d.source.faults SourceAnswer.isFault ∧
      ∀ e, result = .error e → e.Passing →
        d'.source.faults SourceAnswer.isFault < d.source.faults SourceAnswer.isFault := by
  refine (h.attempts hc hd).costs hc (fun room s result s' hpull => ?_) hd.bare
  have hcosts := (s.fares_pull room).2
  rwa [hpull] at hcosts

/-- Behind a source without failures no read meets one. -/
theorem smooth_readAll (hc : engine.Conforms parameters Live) (hd : d.Stays engine Live)
    (hnone : d.source.faults SourceAnswer.isFault = 0) (dsts : List ByteArray) :
    Smooth (d.readAll dsts) := by
  induction dsts generalizing d with
  | nil => exact nofun
  | cons dst dsts ih =>
    have hread := d.reads_read dst
    obtain ⟨hle, hless⟩ := hread.costs hc hd
    have hnext := ih (hread.stays hc hd) (Nat.le_zero.mp (hnone ▸ hle))
    refine List.forall_mem_cons.mpr ⟨fun e he hpassing => ?_, hnext⟩
    have := hless e he hpassing
    omega

/-- Reading that meets no failure is never made again. -/
theorem persists_readAll {dsts : List ByteArray} (h : Smooth (d.readAll dsts)) :
    Persists Reads d dsts (d.readAll dsts) := by
  induction dsts generalizing d with
  | nil => exact .nil d
  | cons dst dsts ih =>
    obtain ⟨hkept, hlater⟩ := List.forall_mem_cons.mp h
    exact .answered (d.reads_read dst) hkept (ih hlater)

/-- Persistent reading behind sources that hold the same but for their failures answers the same. -/
theorem persists_unique (hc : engine.Conforms parameters Live) (hd : d.Stays engine Live) {s : Source}
    (hs : s.without SourceAnswer.isFault = d.source.without SourceAnswer.isFault)
    {dsts : List ByteArray} {answers answers' : List (Except CodecError Nat × ByteArray)}
    (h : Persists Reads d dsts answers) (h' : Persists Reads (d.behind s) dsts answers') :
    answers' = answers := by
  have hd' : (d.behind s).Stays engine Live := ⟨hd.session, hd.capacity, hd.tidy⟩
  have hrow {d : Decompressor ω σ} (hd : d.Stays engine Live)
      {answers : List (Except CodecError Nat × ByteArray)} (h : Persists Reads d dsts answers) :
      Row (fun room s result s' => s.pull room = (result, s')) d.bare d.source dsts answers :=
    row_of_persists hc fares_of_pull (fun d => d.Stays engine Live) bare source (fun _ h => h.bare)
      (fun _ _ _ _ _ hd hread => ⟨hread.stays hc hd, .inl (hread.attempts hc hd)⟩) hd h
  exact (hrow hd' h').unique hc hd.bare fares_of_pull hs (hrow hd h)

/-- Persistent reading comes to an end. -/
theorem persists_exists (hc : engine.Conforms parameters Live) (hd : d.Stays engine Live)
    (dsts : List ByteArray) : ∃ answers, Persists Reads d dsts answers :=
  StreamCodec.persists_exists (fun d : Decompressor ω σ => d.Stays engine Live)
    (fun d => d.source.faults SourceAnswer.isFault)
    (fun d dst hd => ⟨_, _, _, d.reads_read dst, (d.reads_read dst).stays hc hd,
      ((d.reads_read dst).costs hc hd).2⟩) dsts hd

end Decompressor

namespace AsyncDecompressor

open Decompressor (Attempts Stays)

variable {engine : DecoderEngine ω σ} {parameters : List Parameter} {Live : σ → ω → Prop}
  {d decoded : Decompressor ω σ} {dst dst' : ByteArray} {token : Token}
  {cancelled cancelled' : Cancelled}

theorem fill_eq (h : d.Stays engine Live) (hw : d.Waits) (token : Token) (cancelled : Cancelled) :
    fill token d cancelled =
      match d.source.pullOr d.input.availableWrite token cancelled with
      | (.returned (.error e), s, cancelled) => (.returned (.error e), d.behind s, cancelled)
      | (.returned (.ok delivery), s, cancelled) => (.returned (.ok ()), d.accept delivery s, cancelled)
      | (.abandoned, s, cancelled) => (.abandoned, d.behind s, cancelled) := by
  obtain ⟨hpos, hroom⟩ := h.pos hw
  unfold fill Source.pullOr
  rw [CursorBuffer.compact_of_pos hpos]
  dsimp only
  rw [if_neg hroom]
  rcases d.source.readOr d.input.availableWrite token cancelled with ⟨(e | delivery) | _ | _, s, c⟩ <;> rfl

theorem readNothing_eq (h : d.hasBufferedInput = false) (token : Token) (cancelled : Cancelled) :
    readNothing token d cancelled =
      match d.source.pullOr 0 token cancelled with
      | (.returned (.error e), s, cancelled) => (.returned (.error e), d.behind s, cancelled)
      | (.returned (.ok _), s, cancelled) => (.returned (.ok 0), d.behind s, cancelled)
      | (.abandoned, s, cancelled) => (.abandoned, d.behind s, cancelled) := by
  unfold readNothing Source.pullOr
  rw [h, if_neg Bool.false_ne_true]
  rcases d.source.readOr 0 token cancelled with ⟨(e | delivery) | _ | _, s, c⟩ <;> rfl

/-- What is known of pulls with a token, made where `At` holds: one that returns is such a pull as
`Pulls` says, and where it succeeds `At` holds again; to be given up takes `Stuck`. -/
structure Admits (token : Token) (At : Source → Cancelled → Prop)
    (Pulls : Nat → Source → Except CodecError Delivery → Source → Prop) (Stuck : Prop) : Prop where
  returned : ∀ room s cancelled result s' cancelled', At s cancelled →
    s.pullOr room token cancelled = (.returned result, s', cancelled') →
    Pulls room s result s' ∧ ∀ delivery, result = .ok delivery → At s' cancelled'
  abandoned : ∀ room s cancelled s' cancelled', At s cancelled →
    s.pullOr room token cancelled = (.abandoned, s', cancelled') → Stuck

/-- What a read with such pulls comes to. -/
def Comes (At : Source → Cancelled → Prop)
    (Pulls : Nat → Source → Except CodecError Delivery → Source → Prop) (Stuck : Prop)
    (d : Decompressor ω σ) (dst : ByteArray)
    (answer : Outcome Nat × ByteArray × Decompressor ω σ × Cancelled) : Prop :=
  match answer with
  | (.returned result, dst', d', cancelled') =>
    Attempts Pulls d.bare d.source dst result dst' d'.bare d'.source ∧
      ((∀ e, result = .error e → ¬e.Passing) → At d'.source cancelled')
  | (.abandoned, _, _, _) => Stuck

variable {At : Source → Cancelled → Prop}
  {Pulls : Nat → Source → Except CodecError Delivery → Source → Prop} {Stuck : Prop}

theorem fill_fails (h : d.Stays engine Live) (hw : d.Waits) {e : CodecError}
    {filled : Decompressor ω σ}
    (hfill : fill token d cancelled = (.returned (.error e), filled, cancelled')) :
    ∃ s, d.source.pullOr d.input.availableWrite token cancelled =
      (.returned (.error e), s, cancelled') ∧ filled = d.behind s := by
  rw [fill_eq h hw] at hfill
  rcases hpull : d.source.pullOr d.input.availableWrite token cancelled with ⟨(e' | delivery) | _, s, c⟩
  all_goals rw [hpull] at hfill
  · cases hfill
    exact ⟨s, rfl, rfl⟩
  · cases hfill
  · cases hfill

theorem fill_succeeds (h : d.Stays engine Live) (hw : d.Waits) {filled : Decompressor ω σ}
    (hfill : fill token d cancelled = (.returned (.ok ()), filled, cancelled')) :
    ∃ delivery s, d.source.pullOr d.input.availableWrite token cancelled =
      (.returned (.ok delivery), s, cancelled') ∧ filled = d.accept delivery s := by
  rw [fill_eq h hw] at hfill
  rcases hpull : d.source.pullOr d.input.availableWrite token cancelled with ⟨(e | delivery) | _, s, c⟩
  all_goals rw [hpull] at hfill
  · cases hfill
  · cases hfill
    exact ⟨delivery, s, rfl, rfl⟩
  · cases hfill

theorem fill_abandons (h : d.Stays engine Live) (hw : d.Waits) {filled : Decompressor ω σ}
    (hfill : fill token d cancelled = (.abandoned, filled, cancelled')) :
    ∃ s, d.source.pullOr d.input.availableWrite token cancelled = (.abandoned, s, cancelled') := by
  rw [fill_eq h hw] at hfill
  rcases hpull : d.source.pullOr d.input.availableWrite token cancelled with ⟨(e | delivery) | _, s, c⟩
  all_goals rw [hpull] at hfill
  · cases hfill
  · cases hfill
  · cases hfill
    exact ⟨s, rfl⟩

theorem comes_readSome (hc : engine.Conforms parameters Live)
    (hadmits : Admits token At Pulls Stuck) (hd : d.Stays engine Live) (hdst : dst.size ≠ 0)
    (hat : At d.source cancelled) :
    Comes At Pulls Stuck d dst (readSome token d dst cancelled) := by
  induction d, dst, cancelled using readSome_rounds with
  | answers d dst cancelled result dst' d' h =>
    obtain ⟨-, hsource, -⟩ := hd.answer hc h
    rw [Comes, hsource]
    refine ⟨.answered ?_, fun _ => hat⟩
    rw [Decompressor.turn_bare, Decompressor.turn_of_room hdst, h]
    rfl
  | fails d dst cancelled dst' decoded e filled cancelled' h hfill =>
    obtain ⟨hstays, hwaits, -, -⟩ := hd.ask hc h
    obtain ⟨hturn, hoffer, -, hsource⟩ := Decompressor.turn_of_ask hc hd hdst h
    obtain ⟨s, hpull, rfl⟩ := fill_fails hstays hwaits hfill
    have hpassing : e.Passing := (Source.fares_pullOr hpull).1
    rw [hsource, ← hoffer] at hpull
    exact ⟨.failed hturn (hadmits.returned _ _ _ _ _ _ hat hpull).1,
      fun hkept => absurd hpassing (hkept e rfl)⟩
  | abandons d dst cancelled dst' decoded filled cancelled' h hfill =>
    obtain ⟨hstays, hwaits, hsource, -⟩ := hd.ask hc h
    obtain ⟨s, hpull⟩ := fill_abandons hstays hwaits hfill
    rw [hsource] at hpull
    exact hadmits.abandoned _ _ _ _ _ hat hpull
  | pulls d dst cancelled dst' decoded filled cancelled' h hfill ih =>
    obtain ⟨hstays, hwaits, -, -⟩ := hd.ask hc h
    obtain ⟨hturn, hoffer, hroom, hsource⟩ := Decompressor.turn_of_ask hc hd hdst h
    obtain ⟨delivery, s, hpull, rfl⟩ := fill_succeeds hstays hwaits hfill
    rw [hsource, ← hoffer] at hpull
    obtain ⟨hpulls, hnext⟩ := hadmits.returned _ _ _ _ _ _ hat hpull
    have hat' : At (decoded.accept delivery s).source cancelled' := by
      rw [Decompressor.source_accept]
      exact hnext delivery rfl
    have hrest := ih (hstays.accept hwaits delivery s) hroom hat'
    rcases hread : readSome token (decoded.accept delivery s) dst' cancelled' with
      ⟨result | _, dst'', d', c⟩
    all_goals rw [hread] at hrest
    · obtain ⟨hattempts, hkept⟩ := hrest
      rw [Decompressor.bare_accept, Decompressor.source_accept] at hattempts
      exact ⟨.pulled hdst hturn hpulls hattempts, hkept⟩
    · exact hrest

theorem comes_readNothing (hadmits : Admits token At Pulls Stuck) (hdst : dst.size = 0)
    (hat : At d.source cancelled) :
    Comes At Pulls Stuck d dst ((readNothing token d cancelled).1, dst,
      (readNothing token d cancelled).2) := by
  cases hbuffered : d.hasBufferedInput with
  | true =>
    rw [readNothing, if_pos hbuffered]
    refine ⟨.answered ?_, fun _ => hat⟩
    rw [Decompressor.turn_bare, Decompressor.turn_of_none hdst, if_pos hbuffered]
    rfl
  | false =>
    have hturn : d.bare.turn dst = .inl (dst, d.bare) := by
      rw [Decompressor.turn_bare, Decompressor.turn_of_none hdst,
        if_neg (ne_true_of_eq_false hbuffered)]
      rfl
    have hoffer : d.bare.offer dst = 0 := if_pos hdst
    rw [readNothing_eq hbuffered]
    rcases hpull : d.source.pullOr 0 token cancelled with ⟨(e | delivery) | _, s, c⟩
    · have hpassing : e.Passing := (Source.fares_pullOr hpull).1
      rw [← hoffer] at hpull
      exact ⟨.failed hturn (hadmits.returned _ _ _ _ _ _ hat hpull).1,
        fun hkept => absurd hpassing (hkept e rfl)⟩
    · obtain ⟨hpulls, hnext⟩ := hadmits.returned _ _ _ _ _ _ hat hpull
      exact ⟨.nothing hdst hturn hpulls, fun _ => hnext delivery rfl⟩
    · exact hadmits.abandoned _ _ _ _ _ hat hpull

theorem inFlight_read {a a' : AsyncDecompressor ω σ} {result : Except CodecError Nat}
    (h : a.read token dst cancelled = (.returned result, dst', a', cancelled')) :
    a'.inFlight = a.inFlight := by
  unfold read at h
  dsimp only at h
  split at h
  · cases h
    rfl
  · next hrefusal =>
    have hidle : a.inFlight = false := by
      unfold refusal at hrefusal
      split at hrefusal
      · cases hrefusal
      · next hidle => exact eq_false_of_ne_true hidle
    rw [hidle]
    split at h
    · split at h
      · cases h
      · cases h
        rfl
    · split at h
      · cases h
      · cases h
        rfl

theorem read_refused {a : AsyncDecompressor ω σ} (hidle : a.inFlight = false)
    (hopen : a.base.session.isDisposed = false) (hcancelled : token ∈ cancelled.look)
    (dst : ByteArray) :
    a.read token dst cancelled = (.returned (.error .cancelled), dst, a, cancelled.look) := by
  simp [read, refusal, hidle, hopen, hcancelled]

theorem comes_read (hc : engine.Conforms parameters Live) (hadmits : Admits token At Pulls Stuck)
    {a a' : AsyncDecompressor ω σ} (ha : a.base.Stays engine Live) (hidle : a.inFlight = false)
    (hheeded : token ∉ cancelled.look) (hat : At a.base.source cancelled.look)
    {outcome : Outcome Nat} (h : a.read token dst cancelled = (outcome, dst', a', cancelled')) :
    Comes At Pulls Stuck a.base dst (outcome, dst', a'.base, cancelled') := by
  have hrefusal : a.refusal token cancelled.look = none := by
    simp [refusal, hidle, ha.session.isDisposed, hheeded]
  unfold read at h
  dsimp only at h
  rw [hrefusal] at h
  dsimp only at h
  by_cases hdst : dst.size = 0
  · have hcomes := comes_readNothing hadmits hdst hat
    rw [if_pos hdst] at h
    rcases hread : readNothing token a.base cancelled.look with ⟨_ | _, base, c⟩
    all_goals
      rw [hread] at h hcomes
      cases h
      exact hcomes
  · have hcomes := comes_readSome hc hadmits ha hdst hat
    rw [if_neg hdst] at h
    rcases hread : readSome token a.base dst cancelled.look with ⟨_ | _, dst'', base, c⟩
    all_goals
      rw [hread] at h hcomes
      cases h
      exact hcomes

/-- A read that returns, with any token and whoever is cancelled meanwhile. -/
def Reads (a : AsyncDecompressor ω σ) (dst : ByteArray) (result : Except CodecError Nat)
    (dst' : ByteArray) (a' : AsyncDecompressor ω σ) : Prop :=
  ∃ token cancelled cancelled', a.read token dst cancelled = (.returned result, dst', a', cancelled')

/-- A pull that returns, with any token and whoever is cancelled meanwhile. -/
def PullsOr (room : Nat) (s : Source) (result : Except CodecError Delivery) (s' : Source) : Prop :=
  ∃ token cancelled cancelled', s.pullOr room token cancelled = (.returned result, s', cancelled')

theorem PullsOr.fares {room : Nat} {s s' : Source} {result : Except CodecError Delivery}
    (h : PullsOr room s result s') :
    s.Fares SourceAnswer.isSetback Source.nothingClaimed room result s' := by
  obtain ⟨token, cancelled, cancelled', hpull⟩ := h
  exact Source.fares_pullOr hpull

/-- An idle decompressor that keeps the contract going. -/
structure Usable (engine : DecoderEngine ω σ) (Live : σ → ω → Prop) (a : AsyncDecompressor ω σ) :
    Prop where
  base : a.base.Stays engine Live
  idle : a.inFlight = false

theorem Reads.attempts (hc : engine.Conforms parameters Live) {a a' : AsyncDecompressor ω σ}
    (ha : a.Usable engine Live) {result : Except CodecError Nat} (h : a.Reads dst result dst' a') :
    a'.Usable engine Live ∧
      (Attempts PullsOr a.base.bare a.base.source dst result dst' a'.base.bare a'.base.source ∨
        (∃ e, result = .error e ∧ e.Passing) ∧ dst' = dst ∧ a' = a) := by
  obtain ⟨token, cancelled, cancelled', hread⟩ := h
  have hidle : a'.inFlight = false := (inFlight_read hread).trans ha.idle
  by_cases hcancelled : token ∈ cancelled.look
  · rw [read_refused ha.idle ha.base.session.isDisposed hcancelled] at hread
    cases hread
    exact ⟨ha, .inr ⟨⟨.cancelled, rfl, trivial⟩, rfl, rfl⟩⟩
  · have hadmits : Admits token (fun _ _ => True) PullsOr True :=
      ⟨fun _ _ _ _ _ _ _ hpull => ⟨⟨_, _, _, hpull⟩, fun _ _ => trivial⟩, fun _ _ _ _ _ _ _ => trivial⟩
    have hattempts := (comes_read hc hadmits ha.base ha.idle hcancelled trivial hread).1
    exact ⟨⟨.of_bare (hattempts.stays hc ha.base.bare), hidle⟩, .inl hattempts⟩

/-- What pulls do to the source for a caller whose token no one has cancelled. -/
def PullsHeeded (room : Nat) (s : Source) (result : Except CodecError Delivery) (s' : Source) : Prop :=
  PullsOr room s result s' ∧ s.Costs SourceAnswer.isSetback result s' ∧ s'.answers <:+ s.answers

/-- For such a caller every read returns. -/
theorem read_heeded (hc : engine.Conforms parameters Live) {a : AsyncDecompressor ω σ}
    (ha : a.Usable engine Live) (hs : cancelled.Spares token)
    (hw : Source.Wakes token a.base.source.answers) (dst : ByteArray) :
    ∃ result dst' a' cancelled', a.read token dst cancelled = (.returned result, dst', a', cancelled') ∧
      Attempts PullsHeeded a.base.bare a.base.source dst result dst' a'.base.bare a'.base.source ∧
      ((∀ e, result = .error e → ¬e.Passing) →
        cancelled'.Spares token ∧ Source.Wakes token a'.base.source.answers) := by
  have hadmits : Admits token (fun s c => c.Spares token ∧ Source.Wakes token s.answers)
      PullsHeeded False := by
    refine ⟨fun room s c result s' c' hat hpull => ?_, fun room s c s' c' hat hpull => ?_⟩
    · have hheeds := s.heeds_pullOr room hat.1 hat.2
      rw [hpull] at hheeds
      obtain ⟨⟨result', hresult, hcosts⟩, hspares, hsuffix⟩ := hheeds
      obtain rfl := Outcome.returned.inj hresult
      refine ⟨⟨⟨_, _, _, hpull⟩, hcosts, hsuffix⟩, fun delivery hd => hspares ⟨delivery, ?_⟩⟩
      rw [hd]
    · have hheeds := s.heeds_pullOr room hat.1 hat.2
      rw [hpull] at hheeds
      obtain ⟨⟨result', hresult, -⟩, -, -⟩ := hheeds
      cases hresult
  rcases hread : a.read token dst cancelled with ⟨result | _, dst', a', c⟩
  · obtain ⟨hattempts, hkept⟩ := comes_read hc hadmits ha.base ha.idle hs.look.1 ⟨hs.look, hw⟩ hread
    exact ⟨result, dst', a', c, rfl, hattempts, hkept⟩
  · exact (comes_read hc hadmits ha.base ha.idle hs.look.1 ⟨hs.look, hw⟩ hread).elim

/-- Reads into the destinations one after the other with one token, whatever the outcomes. -/
def readAll (token : Token) (a : AsyncDecompressor ω σ) (cancelled : Cancelled) :
    List ByteArray → List (Outcome Nat × ByteArray)
  | [] => []
  | dst :: dsts =>
    match a.read token dst cancelled with
    | (outcome, dst', a', cancelled') => (outcome, dst') :: a'.readAll token cancelled' dsts

theorem smooth_readAll (hc : engine.Conforms parameters Live) {a : AsyncDecompressor ω σ}
    (ha : a.Usable engine Live) (hnone : a.base.source.faults SourceAnswer.isSetback = 0)
    (hs : cancelled.Spares token) (dsts : List ByteArray) :
    ∃ answers, a.readAll token cancelled dsts = answers.map (fun x => (.returned x.1, x.2)) ∧
      Smooth answers := by
  induction dsts generalizing a cancelled with
  | nil => exact ⟨[], rfl, nofun⟩
  | cons dst dsts ih =>
    have hwakes := Source.wakes_of_forall (List.countP_eq_zero.mp hnone) token
    obtain ⟨result, dst', a', cancelled', hread, hattempts, hnext⟩ := read_heeded hc ha hs hwakes dst
    obtain ⟨hle, hless⟩ := hattempts.costs hc (fun _ _ _ _ h => h.2.1) ha.base.bare
    have hkept : ∀ e, result = .error e → ¬e.Passing := fun e he hpassing => by
      have := hless e he hpassing
      omega
    have hreads : a.Reads dst result dst' a' := ⟨token, cancelled, cancelled', hread⟩
    obtain ⟨answers, hall, hsmooth⟩ := ih (hreads.attempts hc ha).1 (by omega) (hnext hkept).1
    refine ⟨(result, dst') :: answers, ?_, List.forall_mem_cons.mpr ⟨hkept, hsmooth⟩⟩
    rw [readAll, hread]
    dsimp only
    rw [hall, List.map_cons]

theorem persists_readAll {a : AsyncDecompressor ω σ} {dsts : List ByteArray}
    {answers : List (Except CodecError Nat × ByteArray)}
    (hall : a.readAll token cancelled dsts = answers.map fun x => (.returned x.1, x.2))
    (h : Smooth answers) : Persists Reads a dsts answers := by
  induction dsts generalizing a cancelled answers with
  | nil =>
    rw [List.map_eq_nil_iff.mp hall.symm]
    exact .nil a
  | cons dst dsts ih =>
    rw [readAll] at hall
    rcases hread : a.read token dst cancelled with ⟨outcome, dst', a', cancelled'⟩
    rw [hread] at hall
    obtain ⟨⟨result, _⟩, later, rfl, hfirst, hrest⟩ := List.map_eq_cons_iff.mp hall.symm
    obtain ⟨rfl, rfl⟩ := Prod.mk.inj hfirst
    obtain ⟨hkept, hlater⟩ := List.forall_mem_cons.mp h
    exact .answered ⟨token, cancelled, cancelled', hread⟩ hkept (ih hrest.symm hlater)

theorem persists_unique (hc : engine.Conforms parameters Live) {a : AsyncDecompressor ω σ}
    (ha : a.Usable engine Live) {s : Source}
    (hs : s.without SourceAnswer.isSetback = a.base.source.without SourceAnswer.isSetback)
    {dsts : List ByteArray} {answers answers' : List (Except CodecError Nat × ByteArray)}
    (h : Persists Reads a dsts answers)
    (h' : Persists Reads { a with base := a.base.behind s } dsts answers') : answers' = answers := by
  have hfares : ∀ room s result s', PullsOr room s result s' → _ := fun _ _ _ _ h => h.fares
  have hrow {a : AsyncDecompressor ω σ} (ha : a.Usable engine Live)
      {answers : List (Except CodecError Nat × ByteArray)} (h : Persists Reads a dsts answers) :
      Decompressor.Row PullsOr a.base.bare a.base.source dsts answers :=
    row_of_persists hc hfares (fun a => a.Usable engine Live)
      (fun a : AsyncDecompressor ω σ => a.base.bare) (fun a => a.base.source)
      (fun _ ha => ha.base.bare) (fun _ _ _ _ _ ha hread => hread.attempts hc ha) ha h
  have ha' : Usable engine Live { a with base := a.base.behind s } :=
    ⟨⟨ha.base.session, ha.base.capacity, ha.base.tidy⟩, ha.idle⟩
  exact (hrow ha' h').unique hc ha.base.bare hfares hs (hrow ha h)

/-- Persistent reading comes to an end where no pause lasts for ever: each attempt may be made with
the token that is cancelled next. -/
theorem persists_exists (hc : engine.Conforms parameters Live) {a : AsyncDecompressor ω σ}
    (ha : a.Usable engine Live) (hforever : .pause .forever ∉ a.base.source.answers)
    (dsts : List ByteArray) : ∃ answers, Persists Reads a dsts answers := by
  refine StreamCodec.persists_exists
    (fun a => a.Usable engine Live ∧ .pause .forever ∉ a.base.source.answers)
    (fun a => a.base.source.faults SourceAnswer.isSetback) (fun a dst hgood => ?_) dsts ⟨ha, hforever⟩
  obtain ⟨ha, hforever⟩ := hgood
  obtain ⟨token, hwakes⟩ := Source.exists_wakes hforever
  have hspares : Cancelled.Spares {} token := ⟨List.not_mem_nil, nofun⟩
  obtain ⟨result, dst', a', cancelled', hread, hattempts, -⟩ := read_heeded hc ha hspares hwakes dst
  have hreads : a.Reads dst result dst' a' := ⟨token, {}, cancelled', hread⟩
  have hsuffix := hattempts.related (R := fun s s' => s'.answers <:+ s.answers)
    (fun _ => List.suffix_refl _) (fun h h' => h'.trans h) fun _ _ _ _ h => h.2.2
  exact ⟨result, dst', a', hreads, ⟨(hreads.attempts hc ha).1, fun h => hforever (hsuffix.mem h)⟩,
    (hattempts.costs hc (fun _ _ _ _ h => h.2.1) ha.base.bare).2⟩

end AsyncDecompressor

namespace Decompressor

theorem new_behind {registry : Registry ω ε σ} {world world' : ω} {source : Source}
    {o : CodecOptions} {options : StreamOptions} {d : Decompressor ω σ}
    (hnew : Decompressor.new registry world source o options = (.ok d, world')) (s : Source) :
    Decompressor.new registry world s o options = (.ok (d.behind s), world') := by
  unfold Decompressor.new at hnew ⊢
  split at hnew
  · cases hnew
  · split at hnew
    · cases hnew
    · cases hnew
      rfl

theorem stays_new {registry : Registry ω ε σ} {world world' : ω} {source : Source}
    {o : CodecOptions} {options : StreamOptions} {factory : Factory ω ε σ} {Live : σ → ω → Prop}
    {d : Decompressor ω σ} (hfactory : registry.factory o.codec = .ok factory)
    (hc : factory.decoder.Conforms o.decoderParameters Live)
    (hnew : Decompressor.new registry world source o options = (.ok d, world')) :
    d.Stays factory.decoder Live ∧ d.source = source := by
  obtain ⟨factory', handle₁, world₁, handle, hfactory', hcreate, hconf, rfl⟩ := created hnew
  obtain rfl := Except.ok.inj (hfactory.symm.trans hfactory')
  have hlive := hc.opens _ _ _ _ _ hcreate hconf
  refine ⟨⟨⟨rfl, rfl, handle, rfl, hlive⟩, ?_, CursorBuffer.tidy_of_pos rfl⟩, rfl⟩
  rw [CursorBuffer.capacity_withCapacity]
  exact options.capacity_pos

end Decompressor

theorem AsyncDecompressor.new_base {registry : Registry ω ε σ} {world world' : ω} {source : Source}
    {o : CodecOptions} {options : StreamOptions} {a : AsyncDecompressor ω σ}
    (hnew : AsyncDecompressor.new registry world source o options = (.ok a, world')) :
    Decompressor.new registry world source o options = (.ok a.base, world') ∧ a.inFlight = false := by
  unfold AsyncDecompressor.new at hnew
  split at hnew
  · next hbase =>
    cases hnew
    exact ⟨hbase, rfl⟩
  · cases hnew

/-- Failed reads do not show in what is read. Over a conforming engine, whoever reads again after
every failure gets the same answers, bytes and end alike, behind any two sources that hold the same
but for their failures; reading that meets no failure is a case of it. This holds of a blocking
decompressor behind sources that fail and claim more than their room, and of a suspending one whose
reads fail or are cancelled, whatever tokens they are made with. Such reading comes to an end,
unless a pause lasts for ever, and no read that returns leaves a suspending decompressor refusing
the next. -/
theorem failures_pass (registry : Registry ω ε σ) (world : ω) (o : CodecOptions)
    (options : StreamOptions) {factory : Factory ω ε σ} {Live : σ → ω → Prop}
    (hfactory : registry.factory o.codec = .ok factory)
    (hc : factory.decoder.Conforms o.decoderParameters Live) (base faulty : Source)
    (dsts : List ByteArray) :
    (faulty.without SourceAnswer.isFault = base.without SourceAnswer.isFault → ∀ d d' world₁ world₂,
      Decompressor.new registry world base o options = (.ok d, world₁) →
      Decompressor.new registry world faulty o options = (.ok d', world₂) →
      (∀ answers answers', Persists Decompressor.Reads d dsts answers →
        Persists Decompressor.Reads d' dsts answers' → answers' = answers) ∧
      (∃ answers', Persists Decompressor.Reads d' dsts answers') ∧
      (Smooth (d.readAll dsts) → Persists Decompressor.Reads d dsts (d.readAll dsts))) ∧
    (faulty.without SourceAnswer.isSetback = base.without SourceAnswer.isSetback →
      ∀ a a' world₁ world₂,
      AsyncDecompressor.new registry world base o options = (.ok a, world₁) →
      AsyncDecompressor.new registry world faulty o options = (.ok a', world₂) →
      (∀ answers answers', Persists AsyncDecompressor.Reads a dsts answers →
        Persists AsyncDecompressor.Reads a' dsts answers' → answers' = answers) ∧
      (.pause .forever ∉ faulty.answers →
        ∃ answers', Persists AsyncDecompressor.Reads a' dsts answers') ∧
      ∀ token cancelled answers,
        a.readAll token cancelled dsts = answers.map (fun x => (.returned x.1, x.2)) →
        Smooth answers → Persists AsyncDecompressor.Reads a dsts answers) ∧
    ∀ (a a' : AsyncDecompressor ω σ) (dst dst' : ByteArray) (result : Except CodecError Nat),
      a.inFlight = false → a.Reads dst result dst' a' →
      ∀ token cancelled, a'.refusal token cancelled ≠ some .operationInProgress := by
  refine ⟨fun hsame d d' world₁ world₂ hbase hfaulty => ?_,
    fun hsame a a' world₁ world₂ hbase hfaulty => ?_,
    fun a a' dst dst' result hidle hread token cancelled => ?_⟩
  · obtain ⟨hd, rfl⟩ := Decompressor.stays_new hfactory hc hbase
    obtain ⟨hd', -⟩ := Decompressor.stays_new hfactory hc hfaulty
    obtain ⟨hbehind, -⟩ := Prod.mk.inj (hfaulty.symm.trans (Decompressor.new_behind hbase faulty))
    obtain rfl := Except.ok.inj hbehind
    exact ⟨fun answers answers' => Decompressor.persists_unique hc hd hsame,
      Decompressor.persists_exists hc hd' dsts, Decompressor.persists_readAll⟩
  · obtain ⟨hbase, hidle⟩ := AsyncDecompressor.new_base hbase
    obtain ⟨hfaulty, hidle'⟩ := AsyncDecompressor.new_base hfaulty
    obtain ⟨hd, hsource⟩ := Decompressor.stays_new hfactory hc hbase
    obtain ⟨hd', hsource'⟩ := Decompressor.stays_new hfactory hc hfaulty
    have ha' : a' = { a with base := a.base.behind faulty } := by
      obtain ⟨hbehind, -⟩ := Prod.mk.inj (hfaulty.symm.trans (Decompressor.new_behind hbase faulty))
      rw [← Except.ok.inj hbehind, hidle, ← hidle']
    refine ⟨fun answers answers' h h' => ?_, fun hforever => ?_,
      fun token cancelled answers => AsyncDecompressor.persists_readAll⟩
    · exact AsyncDecompressor.persists_unique hc ⟨hd, hidle⟩ (hsource ▸ hsame) h (ha' ▸ h')
    · exact AsyncDecompressor.persists_exists hc ⟨hd', hidle'⟩ (hsource' ▸ hforever) dsts
  · obtain ⟨token', cancelled', cancelled'', hread⟩ := hread
    have hidle' : a'.inFlight = false := (AsyncDecompressor.inFlight_read hread).trans hidle
    unfold AsyncDecompressor.refusal
    rw [hidle', if_neg Bool.false_ne_true]
    split
    · nofun
    · split <;> nofun

theorem failures_pass_marked :
    (∀ dsts answers,
      Persists Decompressor.Reads (Marked.decompressor Marked.faultySource Marked.stream₃) dsts answers ↔
        answers = (Marked.decompressor Marked.wholeSource Marked.stream₃).readAll dsts) ∧
    ∀ dsts, ∃ answers,
      AsyncDecompressor.readAll "go" { base := Marked.decompressor Marked.wholeSource Marked.stream₃ } {}
        dsts = answers.map (fun x => (.returned x.1, x.2)) ∧
      ∀ answers', Persists AsyncDecompressor.Reads
          { base := Marked.decompressor Marked.haltingSource Marked.stream₃ } dsts answers' ↔
        answers' = answers := by
  have hfactory : Marked.registry.factory Marked.options.codec = .ok Marked.factory := rfl
  have hc := Marked.Decoder.conforms Marked.options.decoderParameters
  have hd := (Decompressor.stays_new hfactory hc
    (Marked.new_decompressor Marked.wholeSource Marked.stream₃)).1
  refine ⟨fun dsts answers => ?_, fun dsts => ?_⟩
  · obtain ⟨hagree, ⟨answers', hends⟩, hincluded⟩ := (failures_pass Marked.registry () Marked.options
      Marked.stream₃ hfactory hc Marked.wholeSource Marked.faultySource dsts).1 rfl _ _ () ()
      (Marked.new_decompressor ..) (Marked.new_decompressor ..)
    have hwhole := hincluded (Decompressor.smooth_readAll hc hd rfl dsts)
    refine ⟨hagree _ _ hwhole, ?_⟩
    rintro rfl
    exact hagree _ _ hwhole hends ▸ hends
  · have hspares : Cancelled.Spares {} "go" := ⟨List.not_mem_nil, nofun⟩
    obtain ⟨answers, hall, hsmooth⟩ := AsyncDecompressor.smooth_readAll hc
      (a := { base := Marked.decompressor Marked.wholeSource Marked.stream₃ }) ⟨hd, rfl⟩ rfl hspares dsts
    obtain ⟨hagree, hends, hincluded⟩ := (failures_pass Marked.registry () Marked.options
      Marked.stream₃ hfactory hc Marked.wholeSource Marked.haltingSource dsts).2.1 rfl _ _ () () rfl rfl
    have hwhole := hincluded "go" {} answers hall hsmooth
    have hforever : SourceAnswer.pause .forever ∉ Marked.haltingSource.answers := by
      simp [Marked.haltingSource]
    refine ⟨answers, hall, fun answers' => ⟨hagree _ _ hwhole, ?_⟩⟩
    rintro rfl
    obtain ⟨answers'', hpersists⟩ := hends hforever
    exact hagree _ _ hwhole hpersists ▸ hpersists

end StreamCodec
