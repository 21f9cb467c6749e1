import StreamCodec.Proofs.CompressorRun
import StreamCodec.Proofs.Drain
import StreamCodec.Proofs.Handover

/-!
# Runs in single steps

A run of a compressor, looked at in its smallest steps: the session runs, the
output is drained, the sink is flushed, something is let go. Only a drain hands
bytes on. Every request and every ending is a path of such steps, whatever the
engine and the sink answer. Nothing is promised about where a path ends, so what
holds along all paths holds at every moment of a run.
-/
namespace StreamCodec.Compressor

variable {ω σ : Type}

/-- The chunk that a drain offers to the sink, so much of it taken. -/
def chunk (c : Compressor ω σ) (taken : Nat) : Handover :=
  ⟨c.totalOut - c.output.availableRead, c.output.availableRead, taken⟩

/-- What a drain from `c` to `c'` hands over. -/
def handover (c c' : Compressor ω σ) : List Handover :=
  if c.output.isEmpty || !c.holdsSink then []
  else [c.chunk (c'.sink.data.size - c.sink.data.size)]

/-- One step of a run. -/
inductive Step : Compressor ω σ → List Handover → Compressor ω σ → Prop
  | run {c : Compressor ω σ} {op : FlushOp} {src : CursorBuffer} {result : Except CodecError Status}
      {session : EncoderSession ω σ} {w : Windows}
      (h : c.session.compress op ⟨src, c.output⟩ = (result, session, w)) :
      Step c [] { c with session, output := w.dst }
  | drain {c c' : Compressor ω σ} {result : Except CodecError Unit} (h : c.drain = (result, c')) :
      Step c (handover c c') c'
  | flushSink (c : Compressor ω σ) : Step c [] c.flushSink.2
  | complete (c : Compressor ω σ) : Step c [] { c with isCompleted := true }
  | dispose (c : Compressor ω σ) : Step c [] { c with session := c.session.dispose }
  | release (c : Compressor ω σ) : Step c [] c.releaseSink
  | handBack (c : Compressor ω σ) : Step c [] { c with holdsSink := false }

/-- A row of steps and all that was handed over on it, the oldest first. -/
inductive Path (c : Compressor ω σ) : List Handover → Compressor ω σ → Prop
  | refl : Path c [] c
  | step {hs h : List Handover} {c' c'' : Compressor ω σ} (path : Path c hs c')
      (next : Step c' h c'') : Path c (hs ++ h) c''

theorem Step.path {c c' : Compressor ω σ} {h : List Handover} (next : Step c h c') : Path c h c' :=
  .step .refl next

theorem Path.trans {c c' c'' : Compressor ω σ} {hs hs' : List Handover} (first : Path c hs c')
    (second : Path c' hs' c'') : Path c (hs ++ hs') c'' := by
  induction second with
  | refl => rwa [List.append_nil]
  | step _ next ih =>
    rw [← List.append_assoc]
    exact .step ih next

/-- Some path leads from one state to the other. -/
def Leads (c c' : Compressor ω σ) : Prop := ∃ hs, Path c hs c'

namespace Leads

theorem refl (c : Compressor ω σ) : Leads c c := ⟨[], .refl⟩

theorem trans {c c' c'' : Compressor ω σ} : Leads c c' → Leads c' c'' → Leads c c'' :=
  fun ⟨_, first⟩ ⟨_, second⟩ => ⟨_, first.trans second⟩

theorem step {c c' : Compressor ω σ} {h : List Handover} (next : Step c h c') : Leads c c' :=
  ⟨h, next.path⟩

end Leads

theorem conclude_same {d c' : Compressor ω σ} {status : Status} {src src' : CursorBuffer} :
    (d.conclude status src = .inl (c', src') → c' = d) ∧
      ∀ result, d.conclude status src = .inr (result, c', src') → c' = d := by
  cases status with
  | destinationTooSmall => exact ⟨fun h => (congrArg Prod.fst (Sum.inl.inj h)).symm, nofun⟩
  | done => exact ⟨nofun, fun _ h => (congrArg (·.2.1) (Sum.inr.inj h)).symm⟩
  | needMoreData => exact ⟨nofun, fun _ h => (congrArg (·.2.1) (Sum.inr.inj h)).symm⟩
  | invalidData => exact ⟨nofun, fun _ h => (congrArg (·.2.1) (Sum.inr.inj h)).symm⟩

theorem pass_leads (op : FlushOp) (c : Compressor ω σ) (src : CursorBuffer) {c' : Compressor ω σ}
    {src' : CursorBuffer} :
    (pass op c src = .inl (c', src') → Leads c c') ∧
      ∀ result, pass op c src = .inr (result, c', src') → Leads c c' := by
  unfold pass
  split
  · next hrun =>
    refine ⟨nofun, fun result h => ?_⟩
    obtain rfl := congrArg (·.2.1) (Sum.inr.inj h)
    exact .step (.run hrun)
  · next status session w hrun =>
    have hran : Leads c { c with session, output := w.dst } := .step (.run hrun)
    split
    · next hdrain =>
      refine ⟨nofun, fun result h => ?_⟩
      obtain rfl := congrArg (·.2.1) (Sum.inr.inj h)
      exact hran.trans (.step (.drain hdrain))
    · next drained hdrain =>
      have hdrained := hran.trans (.step (.drain hdrain))
      constructor
      · intro h
        rw [conclude_same.1 h]
        exact hdrained
      · intro result h
        rw [conclude_same.2 result h]
        exact hdrained

theorem drive_leads (op : FlushOp) (c : Compressor ω σ) (src : CursorBuffer) :
    Leads c (drive op c src).2.1 := by
  rcases drive_cases op c src with hloop | hrefused
  · obtain ⟨⟨d, rest⟩, hlast, hpass⟩ := loop_invariant (fun x => Leads c x.1)
      (fun x _ h hpass => h.trans ((pass_leads op x.1 x.2).1 hpass)) (.refl c) hloop
    exact hlast.trans ((pass_leads op d rest).2 _ hpass)
  · rw [hrefused]
    exact .refl c

theorem driveIdle_leads (op : FlushOp) (c : Compressor ω σ) : Leads c (c.driveIdle op).2 :=
  drive_leads op c _

theorem write_leads (c : Compressor ω σ) (data : ByteArray) : Leads c (c.write data).2 := by
  have hdrive := drive_leads .process c (.filled data)
  unfold write
  split
  · exact .refl c
  · split
    · exact .refl c
    · split
      all_goals
        next h =>
        rw [h] at hdrive
        exact hdrive

theorem flush_leads (c : Compressor ω σ) : Leads c c.flush.2 := by
  have hdrive := c.driveIdle_leads .flush
  unfold flush
  split
  · exact .refl c
  · split
    · exact .step (.flushSink c)
    · split
      · next h =>
        rw [h] at hdrive
        exact hdrive
      · next h =>
        rw [h] at hdrive
        exact hdrive.trans (.step (.flushSink _))

theorem complete_leads (c : Compressor ω σ) : Leads c c.complete.2 := by
  have hdrive := c.driveIdle_leads .finish
  unfold complete
  split
  · exact .refl c
  · split
    · exact .refl c
    · split
      · next h =>
        rw [h] at hdrive
        exact hdrive
      · next h =>
        rw [h] at hdrive
        exact (hdrive.trans (.step (.complete _))).trans (.step (.flushSink _))

theorem dispose_leads (c : Compressor ω σ) : Leads c c.dispose := by
  unfold dispose
  split
  · exact .refl c
  · have hcompleted : Leads c (if c.isCompleted then c else c.complete.2) := by
      split
      · exact .refl c
      · exact c.complete_leads
    generalize (if c.isCompleted then c else c.complete.2) = d at hcompleted ⊢
    have hgone := hcompleted.trans (.step (.dispose d))
    dsimp only
    split
    · exact hgone
    · exact hgone.trans (.step (.release _))

theorem drop_leads (c : Compressor ω σ) : Leads c c.drop := by
  unfold drop
  split
  · exact c.dispose_leads.trans (.step (.release _))
  · exact .step (.release c)

theorem serve_leads (c : Compressor ω σ) (request : Request) : Leads c (c.serve request).2 := by
  cases request with
  | write data => exact c.write_leads data
  | flush => exact c.flush_leads
  | complete => exact c.complete_leads
  | dispose => exact c.dispose_leads

theorem serveAll_leads (requests : List Request) (c : Compressor ω σ) :
    Leads c (c.serveAll requests) := by
  induction requests generalizing c with
  | nil => exact .refl c
  | cons request rest ih => exact (c.serve_leads request).trans (ih _)

theorem endWith_leads (c : Compressor ω σ) (ending : Ending) : Leads c (c.endWith ending) := by
  have hcomplete := c.complete_leads
  cases ending with
  | finish =>
    simp only [endWith, finish]
    split
    · next h =>
      rw [h] at hcomplete
      exact hcomplete.trans (drop_leads _)
    · next h =>
      rw [h] at hcomplete
      split
      · exact hcomplete.trans (.step (.handBack _))
      · exact hcomplete.trans (drop_leads _)
  | close =>
    simp only [endWith, close]
    split
    · next h =>
      rw [h] at hcomplete
      exact hcomplete.trans (drop_leads _)
    · next h =>
      rw [h] at hcomplete
      split
      · exact hcomplete.trans (drop_leads _)
      · split
        · exact hcomplete.trans (.step (.handBack _))
        · exact hcomplete.trans (.step (.release _))
  | drop => exact c.drop_leads

end StreamCodec.Compressor
