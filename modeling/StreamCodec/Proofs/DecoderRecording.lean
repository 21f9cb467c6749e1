import StreamCodec.Proofs.Chunking
import StreamCodec.Proofs.DecoderDrive
import StreamCodec.Proofs.ReadRounds

/-!
# Recording changes nothing about a decompressor

The recording engine in the place of a decompressor's engine does not show in
what any read answers, in the bytes it delivers, or in what it pulls from the
source.
-/
namespace StreamCodec

variable {ω σ : Type}

namespace DecoderSession

def recorded (s : DecoderSession ω σ) (ledger : Ledger) : DecoderSession (ω × Ledger) σ where
  options := s.options
  version := s.version
  engine := s.engine.recording
  world := (s.world, ledger)
  handle := s.handle
  isDisposed := s.isDisposed
  hasSeenInput := s.hasSeenInput
  lastError := s.lastError
  totalIn := s.totalIn
  totalOut := s.totalOut

theorem recorded_configure (engine : DecoderEngine ω σ) (parameters : List Parameter) (handle : σ)
    (world : ω) (ledger : Ledger) :
    engine.recording.configure parameters handle (world, ledger) =
      ((engine.configure parameters handle world).1,
        (engine.configure parameters handle world).2, ledger) := by
  fun_induction engine.configure parameters handle world with
  | case1 => rfl
  | case2 p rest handle world handle' world' hset ih =>
    have hset' : engine.recording.setParameter p handle (world, ledger) =
        (true, handle', world', ledger) := by
      simp only [DecoderEngine.recording, hset]
    rw [DecoderEngine.configure, hset']
    exact ih
  | case3 p rest handle world handle' world' hset =>
    have hset' : engine.recording.setParameter p handle (world, ledger) =
        (false, handle', world', ledger) := by
      simp only [DecoderEngine.recording, hset]
    rw [DecoderEngine.configure, hset']

theorem recorded_opened (s : DecoderSession ω σ) (ledger : Ledger) :
    (s.recorded ledger).opened = (s.opened.1, s.opened.2.recorded ledger) := by
  cases hd : s.isDisposed with
  | true => rw [opened_of_isDisposed hd, opened_of_isDisposed (s := s.recorded ledger) hd]
  | false =>
    cases hh : s.handle with
    | some handle => rw [opened_of_handle hd hh, opened_of_handle (s := s.recorded ledger) hd hh]
    | none =>
      have hd' : (s.recorded ledger).isDisposed = false := hd
      have hh' : (s.recorded ledger).handle = none := hh
      have hcreate : (s.recorded ledger).engine.create (s.recorded ledger).world =
        ((s.engine.create s.world).1, (s.engine.create s.world).2, ledger) := rfl
      simp only [opened, hd, hd', hh, hh', hcreate, Bool.false_eq_true, ↓reduceIte]
      rcases s.engine.create s.world with ⟨_ | handle, world⟩
      · simp only [recorded, hd, hh]
      · have hconf : (s.recorded ledger).engine.configure
            (s.recorded ledger).options.decoderParameters handle (world, ledger) =
            _ := recorded_configure s.engine s.options.decoderParameters handle world ledger
        simp only [hconf]
        rcases s.engine.configure s.options.decoderParameters handle world with ⟨_ | handle', world'⟩
        · simp only [recorded, hd, hh]
          rfl
        · simp only [recorded, hd]

/-- The ledger after one more call. -/
def entered (ledger : Ledger) (w : Windows) (reply : Reply) : Ledger :=
  ledger ++ [⟨.decode, w.src.unread, w.dst.unwritten, reply⟩]

theorem recorded_call {s : DecoderSession ω σ} {handle handle' : σ} {w : Windows} {reply : Reply}
    {world : ω}
    (hcall : s.engine.decompress w.src.unread w.dst.unwritten handle s.world =
      (reply, handle', world)) (ledger : Ledger) :
    (s.recorded ledger).engine.decompress w.src.unread w.dst.unwritten handle
        (s.recorded ledger).world = (reply, handle', world, entered ledger w reply) ∧
      (s.recorded ledger).record w reply handle' (world, entered ledger w reply) =
        (s.record w reply handle' world).recorded (entered ledger w reply) := by
  refine ⟨?_, rfl⟩
  simp only [recorded, DecoderEngine.recording, hcall]
  rfl

/-- A whole drive. The induction is on the drive of the session itself. -/
theorem recorded_drive (s : DecoderSession ω σ) (handle : σ) (w : Windows) (stalled : Nat)
    (ledger : Ledger) :
    ∃ ledger', drive (s.recorded ledger) handle w stalled =
      ((drive s handle w stalled).1, (drive s handle w stalled).2.1.recorded ledger',
        (drive s handle w stalled).2.2) := by
  fun_induction drive s handle w stalled generalizing ledger with
  | case1 s handle w stalled hfull =>
    exact ⟨ledger, by rw [drive, if_pos hfull]⟩
  | case2 s handle w stalled hroom reply handle' world hcall s' w' detail hcode =>
    obtain ⟨hrec, hafter⟩ := recorded_call hcall ledger
    refine ⟨entered ledger w reply, ?_⟩
    rw [drive, if_neg hroom, hrec]
    dsimp only
    rw [hafter, hcode]
    rfl
  | case3 s handle w stalled hroom reply handle' world hcall s' w' hcode =>
    obtain ⟨hrec, hafter⟩ := recorded_call hcall ledger
    refine ⟨entered ledger w reply, ?_⟩
    rw [drive, if_neg hroom, hrec]
    dsimp only
    rw [hafter, hcode]
  | case4 s handle w stalled hroom reply handle' world hcall s' w' hfull hfails hends =>
    obtain ⟨hrec, hafter⟩ := recorded_call hcall ledger
    refine ⟨entered ledger w reply, ?_⟩
    rw [drive_round hroom hrec hfails hends, hafter]
    exact if_pos hfull
  | case5 s handle w stalled hroom reply handle' world hcall s' w' pending hfull hempty hfails hends =>
    obtain ⟨hrec, hafter⟩ := recorded_call hcall ledger
    refine ⟨entered ledger w reply, ?_⟩
    rw [drive_round hroom hrec hfails hends, hafter]
    exact (if_neg hfull).trans (if_pos hempty)
  | case6 s handle w stalled hroom reply handle' world hcall s' w' pending hfull hempty hstall hnone
      hfails hends =>
    obtain ⟨hrec, hafter⟩ := recorded_call hcall ledger
    refine ⟨entered ledger w reply, ?_⟩
    rw [drive_round hroom hrec hfails hends, hafter]
    exact (if_neg hfull).trans ((if_neg hempty).trans ((if_pos hstall).trans (if_pos hnone)))
  | case7 s handle w stalled hroom reply handle' world hcall s' w' pending hfull hempty hstall hnone
      hlast hfails hends =>
    obtain ⟨hrec, hafter⟩ := recorded_call hcall ledger
    refine ⟨entered ledger w reply, ?_⟩
    rw [drive_round hroom hrec hfails hends, hafter]
    exact (if_neg hfull).trans ((if_neg hempty).trans ((if_pos hstall).trans
      ((if_neg hnone).trans (if_pos hlast))))
  | case8 s handle w stalled hroom reply handle' world hcall s' w' pending hfull hempty hstall hnone
      hlast hfails hends ih =>
    obtain ⟨hrec, hafter⟩ := recorded_call hcall ledger
    obtain ⟨ledger', hrest⟩ := ih (entered ledger w reply)
    refine ⟨ledger', ?_⟩
    rw [drive_round hroom hrec hfails hends, hafter, ← hrest]
    exact (if_neg hfull).trans ((if_neg hempty).trans ((if_pos hstall).trans
      ((if_neg hnone).trans (if_neg hlast))))
  | case9 s handle w stalled hroom reply handle' world hcall s' w' pending hfull hempty hmoved hfails
      hends ih =>
    obtain ⟨hrec, hafter⟩ := recorded_call hcall ledger
    obtain ⟨ledger', hrest⟩ := ih (entered ledger w reply)
    refine ⟨ledger', ?_⟩
    rw [drive_round hroom hrec hfails hends, hafter, ← hrest]
    exact (if_neg hfull).trans ((if_neg hempty).trans (if_neg hmoved))

theorem recorded_decompress (s : DecoderSession ω σ) (w : Windows) (ledger : Ledger) :
    ∃ ledger', (s.recorded ledger).decompress w =
      ((s.decompress w).1, (s.decompress w).2.1.recorded ledger', (s.decompress w).2.2) := by
  unfold decompress
  rw [recorded_opened]
  rcases s.opened with ⟨_ | handle, s⟩
  · exact ⟨ledger, rfl⟩
  · dsimp only
    by_cases hfinished : s.engine.isFinished handle = true
    · have hfinished' : (s.recorded ledger).engine.isFinished handle = true := hfinished
      rw [if_pos hfinished, if_pos hfinished']
      exact ⟨ledger, rfl⟩
    · have hfinished' : ¬(s.recorded ledger).engine.isFinished handle = true := hfinished
      rw [if_neg hfinished, if_neg hfinished']
      by_cases hnothing : (w.src.isEmpty && !s.hasSeenInput) = true
      · have hnothing' : (w.src.isEmpty && !(s.recorded ledger).hasSeenInput) = true := hnothing
        rw [if_pos hnothing, if_pos hnothing']
        exact ⟨ledger, rfl⟩
      · have hnothing' : ¬(w.src.isEmpty && !(s.recorded ledger).hasSeenInput) = true := hnothing
        obtain ⟨ledger', hdrive⟩ := recorded_drive s handle w 0 ledger
        rw [if_neg hnothing, if_neg hnothing', hdrive]
        exact ⟨ledger', rfl⟩

end DecoderSession

namespace Decompressor

def recorded (d : Decompressor ω σ) (ledger : Ledger) : Decompressor (ω × Ledger) σ where
  session := d.session.recorded ledger
  input := d.input
  source := d.source
  options := d.options
  sourceEnded := d.sourceEnded

theorem recorded_fill (d : Decompressor ω σ) (ledger : Ledger) :
    (d.recorded ledger).fill = (d.fill.1, d.fill.2.recorded ledger) := by
  rcases d with ⟨session, input, source, options, sourceEnded⟩
  unfold fill recorded
  dsimp only
  by_cases hroom : input.compact.availableWrite = 0
  · rw [if_pos hroom, if_pos hroom]
    rfl
  · rw [if_neg hroom, if_neg hroom]
    rcases source.readPatiently input.compact.availableWrite with ⟨_ | delivery, source⟩
    · rfl
    · dsimp only
      split
      · rfl
      · unfold accept
        split <;> rfl

theorem recorded_round (d : Decompressor ω σ) (dst : ByteArray) (ledger : Ledger) :
    ∃ ledger', (d.recorded ledger).round dst =
      (d.round dst).map (fun x => (x.1, x.2.recorded ledger'))
        fun y => (y.1, y.2.1, y.2.2.recorded ledger') := by
  obtain ⟨ledger', hrun⟩ := d.session.recorded_decompress ⟨d.input, .empty dst⟩ ledger
  have hrun' : (d.recorded ledger).session.decompress ⟨(d.recorded ledger).input, .empty dst⟩ = _ :=
    hrun
  refine ⟨ledger', ?_⟩
  unfold round
  rw [hrun']
  rcases d.session.decompress ⟨d.input, .empty dst⟩ with ⟨_ | status, session, w⟩
  · rfl
  · cases status with
    | done | destinationTooSmall | invalidData => rfl
    | needMoreData =>
      have hended : (d.recorded ledger).sourceEnded = d.sourceEnded := rfl
      dsimp only
      rw [hended]
      split
      · rfl
      · split <;> rfl

/-- The same answer, and the same decompressor but for what its ledger says. -/
def Same (plain : Except CodecError Nat × ByteArray × Decompressor ω σ)
    (recording : Except CodecError Nat × ByteArray × Decompressor (ω × Ledger) σ) : Prop :=
  ∃ ledger, recording = (plain.1, plain.2.1, plain.2.2.recorded ledger)

theorem recorded_readSome (d : Decompressor ω σ) (dst : ByteArray) (ledger : Ledger) :
    Same (d.readSome dst) ((d.recorded ledger).readSome dst) := by
  induction d, dst using readSome_rounds generalizing ledger with
  | answers d dst answer h =>
    obtain ⟨ledger', hround⟩ := recorded_round d dst ledger
    rw [h] at hround
    exact ⟨ledger', readSome_of_answer hround⟩
  | fails d dst dst' decoded e filled h hfill =>
    obtain ⟨ledger', hround⟩ := recorded_round d dst ledger
    rw [h] at hround
    refine ⟨ledger', readSome_of_failure hround ?_⟩
    rw [recorded_fill, hfill]
  | pulls d dst dst' decoded filled h hfill ih =>
    obtain ⟨ledger', hround⟩ := recorded_round d dst ledger
    rw [h] at hround
    have hfill' : (decoded.recorded ledger').fill = (.ok (), filled.recorded ledger') := by
      rw [recorded_fill, hfill]
    rw [readSome_of_pull hround hfill']
    exact ih ledger'

theorem recorded_readNothing (d : Decompressor ω σ) (ledger : Ledger) :
    (d.recorded ledger).readNothing = (d.readNothing.1, d.readNothing.2.recorded ledger) := by
  rcases d with ⟨session, input, source, options, sourceEnded⟩
  unfold readNothing recorded hasBufferedInput
  dsimp only
  cases input.isEmpty with
  | false => rfl
  | true =>
    rcases source.read 0 with ⟨_ | delivery, source⟩
    · rfl
    · by_cases hmore : 0 < delivery.reported <;> simp [hmore]

theorem recorded_read (d : Decompressor ω σ) (dst : ByteArray) (ledger : Ledger) :
    Same (d.read dst) ((d.recorded ledger).read dst) := by
  have hdisposed : (d.recorded ledger).session.isDisposed = d.session.isDisposed := rfl
  unfold read
  rw [hdisposed]
  split
  · exact ⟨ledger, rfl⟩
  · split
    · rw [recorded_readNothing]
      exact ⟨ledger, rfl⟩
    · exact recorded_readSome d dst ledger

theorem recorded_readAll (d : Decompressor ω σ) (dsts : List ByteArray) (ledger : Ledger) :
    (d.recorded ledger).readAll dsts = d.readAll dsts := by
  induction dsts generalizing d ledger with
  | nil => rfl
  | cons dst dsts ih =>
    obtain ⟨ledger', hread⟩ := recorded_read d dst ledger
    rw [readAll, readAll, hread]
    dsimp only
    rw [ih]

end Decompressor

end StreamCodec
