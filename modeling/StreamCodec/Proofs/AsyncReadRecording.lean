import StreamCodec.Proofs.DecoderRecording

/-!
# Recording changes nothing about a suspending decompressor

A suspending decompressor over the recording engine answers as it does over the
engine itself: its pulls do not look at the engine, and its rounds are those of
a blocking one.

Each read of a row comes with a token of its own and with the cancellations of
its own time. What happens to tokens between two reads is thereby left open.
-/
namespace StreamCodec

variable {ω σ : Type}

structure Reading where
  token : Token
  dst : ByteArray
  cancelled : Cancelled

namespace AsyncDecompressor

/-- The outcome of a read, the destination and the decompressor after it. -/
def take (a : AsyncDecompressor ω σ) (reading : Reading) :
    Outcome Nat × ByteArray × AsyncDecompressor ω σ :=
  match a.read reading.token reading.dst reading.cancelled with
  | (outcome, dst, a, _) => (outcome, dst, a)

/-- The decompressor after a row of reads, whatever their outcomes. -/
def takeAll (a : AsyncDecompressor ω σ) : List Reading → AsyncDecompressor ω σ
  | [] => a
  | reading :: readings => (a.take reading).2.2.takeAll readings

def recorded (a : AsyncDecompressor ω σ) (ledger : Ledger) : AsyncDecompressor (ω × Ledger) σ where
  base := a.base.recorded ledger
  inFlight := a.inFlight

theorem recorded_fill (token : Token) (d : Decompressor ω σ) (cancelled : Cancelled)
    (ledger : Ledger) :
    fill token (d.recorded ledger) cancelled =
      ((fill token d cancelled).1, (fill token d cancelled).2.1.recorded ledger,
        (fill token d cancelled).2.2) := by
  rcases d with ⟨session, input, source, options, sourceEnded⟩
  unfold fill Decompressor.recorded
  dsimp only
  by_cases hroom : input.compact.availableWrite = 0
  · rw [if_pos hroom, if_pos hroom]
    rfl
  · rw [if_neg hroom, if_neg hroom]
    rcases source.readOr input.compact.availableWrite token cancelled with
      ⟨(_ | delivery) | _ | _, source, cancelled⟩
    · rfl
    · dsimp only
      unfold Decompressor.accept
      split <;> rfl
    · rfl
    · rfl

theorem recorded_readNothing (token : Token) (d : Decompressor ω σ) (cancelled : Cancelled)
    (ledger : Ledger) :
    readNothing token (d.recorded ledger) cancelled =
      ((readNothing token d cancelled).1, (readNothing token d cancelled).2.1.recorded ledger,
        (readNothing token d cancelled).2.2) := by
  rcases d with ⟨session, input, source, options, sourceEnded⟩
  unfold readNothing Decompressor.recorded Decompressor.hasBufferedInput
  dsimp only
  cases input.isEmpty with
  | false => rfl
  | true =>
    rcases source.readOr 0 token cancelled with ⟨(_ | _) | _ | _, source, cancelled⟩ <;> rfl

/-- The same outcome, and the same decompressor but for what its ledger says. -/
def SameRead (plain : Outcome Nat × ByteArray × Decompressor ω σ × Cancelled)
    (recording : Outcome Nat × ByteArray × Decompressor (ω × Ledger) σ × Cancelled) : Prop :=
  ∃ ledger, recording = (plain.1, plain.2.1, plain.2.2.1.recorded ledger, plain.2.2.2)

theorem recorded_readSome (token : Token) (d : Decompressor ω σ) (dst : ByteArray)
    (cancelled : Cancelled) (ledger : Ledger) :
    SameRead (readSome token d dst cancelled) (readSome token (d.recorded ledger) dst cancelled) := by
  induction d, dst, cancelled using readSome_rounds generalizing ledger with
  | answers d dst cancelled result dst' d' h =>
    obtain ⟨ledger', hround⟩ := d.recorded_round dst ledger
    rw [h] at hround
    exact ⟨ledger', readSome_of_answer hround token cancelled⟩
  | fails d dst cancelled dst' decoded e filled cancelled' h hfill =>
    obtain ⟨ledger', hround⟩ := d.recorded_round dst ledger
    rw [h] at hround
    refine ⟨ledger', ?_⟩
    rw [readSome_of_ask hround, recorded_fill, hfill]
  | abandons d dst cancelled dst' decoded filled cancelled' h hfill =>
    obtain ⟨ledger', hround⟩ := d.recorded_round dst ledger
    rw [h] at hround
    refine ⟨ledger', ?_⟩
    rw [readSome_of_ask hround, recorded_fill, hfill]
  | pulls d dst cancelled dst' decoded filled cancelled' h hfill ih =>
    obtain ⟨ledger', hround⟩ := d.recorded_round dst ledger
    rw [h] at hround
    rw [readSome_of_ask hround, recorded_fill, hfill]
    exact ih ledger'

theorem recorded_refusal (a : AsyncDecompressor ω σ) (token : Token) (cancelled : Cancelled)
    (ledger : Ledger) : (a.recorded ledger).refusal token cancelled = a.refusal token cancelled := rfl

theorem recorded_take (a : AsyncDecompressor ω σ) (reading : Reading) (ledger : Ledger) :
    ∃ ledger', (a.recorded ledger).take reading =
      ((a.take reading).1, (a.take reading).2.1, (a.take reading).2.2.recorded ledger') := by
  obtain ⟨token, dst, cancelled⟩ := reading
  unfold take read
  dsimp only
  rw [recorded_refusal]
  rcases a.refusal token cancelled.look with _ | e
  · dsimp only
    split
    · have hbase : (a.recorded ledger).base = a.base.recorded ledger := rfl
      refine ⟨ledger, ?_⟩
      rw [hbase, recorded_readNothing]
      rcases readNothing token a.base cancelled.look with ⟨_ | _, base, cancelled'⟩ <;> rfl
    · obtain ⟨ledger', hread⟩ := recorded_readSome token a.base dst cancelled.look ledger
      have hbase : (a.recorded ledger).base = a.base.recorded ledger := rfl
      refine ⟨ledger', ?_⟩
      rw [hbase, hread]
      rcases readSome token a.base dst cancelled.look with ⟨_ | _, dst', base, cancelled'⟩ <;> rfl
  · exact ⟨ledger, rfl⟩

theorem recorded_takeAll (a : AsyncDecompressor ω σ) (readings : List Reading) (ledger : Ledger) :
    ∃ ledger', (a.recorded ledger).takeAll readings = (a.takeAll readings).recorded ledger' := by
  induction readings generalizing a ledger with
  | nil => exact ⟨ledger, rfl⟩
  | cons reading readings ih =>
    obtain ⟨ledger', htake⟩ := recorded_take a reading ledger
    rw [takeAll, htake]
    exact ih _ ledger'

end AsyncDecompressor

end StreamCodec
