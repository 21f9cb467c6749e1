import StreamCodec.Proofs.CompressorRun
import StreamCodec.Async.Compressor

/-!
# Runs of a suspending compressor

A run serves calls one after the other, each with a token of its own. Tokens are
cancelled by pauses of the sink, or by anyone between two looks at them; a call
is dropped where the sink suspends it for good.

The guard is the only memory of a run's interruptions. One call sets it exactly
if it began and was then cancelled or dropped (`serve_inFlight`), and so does a
whole run if one of its calls does (`serveAll_inFlight`). Once it is set nothing
is done any more.
-/
namespace StreamCodec

variable {ω σ δ : Type}

namespace Outcome

variable {α β : Type}

def map (f : α → β) : Outcome α → Outcome β
  | .returned result => .returned (result.map f)
  | .abandoned => .abandoned

def Interrupted (outcome : Outcome α) : Prop :=
  outcome = .returned (.error .cancelled) ∨ outcome = .abandoned

theorem poisons_iff (outcome : Outcome α) : outcome.poisons = true ↔ outcome.Interrupted := by
  unfold Interrupted
  rcases outcome with (e | a) | _
  · cases e <;> simp [poisons]
  · simp [poisons]
  · simp [poisons]

theorem interrupted_map (f : α → β) (outcome : Outcome α) :
    (outcome.map f).Interrupted ↔ outcome.Interrupted := by
  rcases outcome with (_ | _) | _ <;> simp [Interrupted, map, Except.map]

end Outcome

namespace AsyncCompressor

open Compressor (Request)

/-- A request and the token that it races. -/
structure Call where
  token : Token
  request : Request

/-- Serves a call. Only a write answers a count. -/
def serve (c : AsyncCompressor ω σ) (call : Call) (cancelled : Cancelled) :
    Outcome (Option Nat) × AsyncCompressor ω σ × Cancelled :=
  match call.request with
  | .write data => (c.write call.token data cancelled).map (·.map some) id
  | .flush => (c.flush call.token cancelled).map (·.map fun _ => none) id
  | .complete => (c.complete call.token cancelled).map (·.map fun _ => none) id
  | .dispose => (.returned (.ok none), c.dispose, cancelled)

def serveAll (x : AsyncCompressor ω σ × Cancelled) (calls : List Call) :
    AsyncCompressor ω σ × Cancelled :=
  calls.foldl (fun x call => (x.1.serve call x.2).2) x

@[simp] theorem serveAll_nil (x : AsyncCompressor ω σ × Cancelled) : serveAll x [] = x := rfl

theorem serveAll_concat (x : AsyncCompressor ω σ × Cancelled) (calls : List Call) (call : Call) :
    serveAll x (calls ++ [call]) =
      ((serveAll x calls).1.serve call (serveAll x calls).2).2 := by
  rw [serveAll, List.foldl_concat]
  rfl

theorem serveAll_append (x : AsyncCompressor ω σ × Cancelled) (calls later : List Call) :
    serveAll x (calls ++ later) = serveAll (serveAll x calls) later := List.foldl_append

/-- A new suspending compressor is a new compressor over the sink under the runtime, with the guard
down. -/
theorem new_base {registry : Registry ω σ δ} {world world' : ω} {sink : Sink} {o : CodecOptions}
    {options : StreamOptions} {c : AsyncCompressor ω σ}
    (h : AsyncCompressor.new registry world sink o options = (.ok c, world')) :
    Compressor.new registry world (sink.under registry.retriesWrites) o options =
      (.ok c.base, world') ∧ c.inFlight = false := by
  unfold AsyncCompressor.new at h
  split at h
  · next hnew =>
    obtain ⟨hc, rfl⟩ := Prod.mk.inj h
    obtain rfl := Except.ok.inj hc
    exact ⟨hnew, rfl⟩
  · cases h

/-- The call gets past the guard and is then cancelled or dropped. -/
def Interrupts (x : AsyncCompressor ω σ × Cancelled) (call : Call) : Prop :=
  x.1.refusal call.token x.2.look = none ∧ (x.1.serve call x.2).1.Interrupted

section Guard

variable {c : AsyncCompressor ω σ} {token : Token} {cancelled : Cancelled}

theorem refusal_of_inFlight (h : c.inFlight = true) :
    c.refusal token cancelled = some .operationInProgress := if_pos h

theorem of_refusal_none (h : c.refusal token cancelled = none) :
    c.inFlight = false ∧ c.base.session.isDisposed = false := by
  unfold refusal at h
  split at h
  · cases h
  · next hidle =>
    split at h
    · cases h
    · next hlive => exact ⟨eq_false_of_ne_true hidle, eq_false_of_ne_true hlive⟩

/-- What the guard is after a call that may begin was answered. -/
structure Guards {α : Type} (c : AsyncCompressor ω σ) (refusal : Option CodecError)
    (result : Outcome α × AsyncCompressor ω σ × Cancelled) : Prop where
  refused : ∀ e, refusal = some e → result.1 = .returned (.error e) ∧ result.2.1 = c
  begun : refusal = none → (result.2.1.inFlight = true ↔ result.1.Interrupted)

section Guards

variable {α : Type} {refusal : Option CodecError}

theorem Guards.of_refused {e : CodecError} (h : refusal = some e) (cancelled : Cancelled) :
    Guards c refusal ((.returned (.error e) : Outcome α), c, cancelled) where
  refused e' he := by
    obtain rfl := Option.some.inj (h.symm.trans he)
    exact ⟨rfl, rfl⟩
  begun hnone := by
    rw [hnone] at h
    cases h

theorem Guards.of_begun {result : Outcome α × AsyncCompressor ω σ × Cancelled}
    (h : refusal = none) (hguard : result.2.1.inFlight = true ↔ result.1.Interrupted) :
    Guards c refusal result where
  refused e he := by
    rw [he] at h
    cases h
  begun _ := hguard

end Guards

theorem write_guards (c : AsyncCompressor ω σ) (token : Token) (data : ByteArray)
    (cancelled : Cancelled) :
    Guards c (c.refusal token cancelled.look) (c.write token data cancelled) := by
  unfold write
  dsimp only
  split
  · next hrefused => exact .of_refused hrefused _
  · next hbegun =>
    refine .of_begun hbegun ?_
    split
    · simp [(of_refusal_none hbegun).1, Outcome.Interrupted]
    · dsimp only
      rw [Outcome.poisons_iff]
      rcases (drive token .process c.base (.filled data) cancelled.look).1 with (_ | _) | _ <;>
        simp [Outcome.Interrupted]

theorem flush_guards (c : AsyncCompressor ω σ) (token : Token) (cancelled : Cancelled) :
    Guards c (c.refusal token cancelled.look) (c.flush token cancelled) := by
  unfold flush
  dsimp only
  split
  · next hrefused => exact .of_refused hrefused _
  · next hbegun => exact .of_begun hbegun (Outcome.poisons_iff _)

/-- A completed compressor is not asked whether it may begin. -/
theorem complete_of_completed (token : Token) (cancelled : Cancelled)
    (h : (c.base.isCompleted && !c.inFlight && !c.base.session.isDisposed) = true) :
    c.complete token cancelled = (.returned (.ok ()), c, cancelled) := if_pos h

theorem complete_guards (c : AsyncCompressor ω σ) (token : Token) (cancelled : Cancelled)
    (h : (c.base.isCompleted && !c.inFlight && !c.base.session.isDisposed) = false) :
    Guards c (c.refusal token cancelled.look) (c.complete token cancelled) := by
  unfold complete
  rw [if_neg (by simp [h])]
  dsimp only
  split
  · next hrefused => exact .of_refused hrefused _
  · next hbegun => exact .of_begun hbegun (Outcome.poisons_iff _)

theorem Guards.map {α β : Type} {refusal : Option CodecError}
    {result : Outcome α × AsyncCompressor ω σ × Cancelled} (f : α → β)
    (h : Guards c refusal result) : Guards c refusal (result.map (·.map f) id) where
  refused e he := by
    obtain ⟨houtcome, hsame⟩ := h.refused e he
    exact ⟨by simp [houtcome, Outcome.map, Except.map], hsame⟩
  begun he := (h.begun he).trans (Outcome.interrupted_map f _).symm

theorem Guards.inFlight_iff {α : Type} {refusal : Option CodecError}
    {result : Outcome α × AsyncCompressor ω σ × Cancelled} (h : Guards c refusal result)
    (hidle : refusal = none → c.inFlight = false) :
    result.2.1.inFlight = true ↔ c.inFlight = true ∨ refusal = none ∧ result.1.Interrupted := by
  cases refusal with
  | none => simp [h.begun rfl, hidle rfl]
  | some e => simp [(h.refused e rfl).2]

end Guard

theorem serve_inFlight (x : AsyncCompressor ω σ × Cancelled) (call : Call) :
    (x.1.serve call x.2).2.1.inFlight = true ↔ x.1.inFlight = true ∨ Interrupts x call := by
  obtain ⟨c, cancelled⟩ := x
  have hidle (h : c.refusal call.token cancelled.look = none) : c.inFlight = false :=
    (of_refusal_none h).1
  unfold Interrupts serve
  cases call.request with
  | write data => exact ((c.write_guards call.token data cancelled).map some).inFlight_iff hidle
  | flush => exact ((c.flush_guards call.token cancelled).map _).inFlight_iff hidle
  | complete =>
    cases hcompleted : c.base.isCompleted && !c.inFlight && !c.base.session.isDisposed with
    | true =>
      simp [complete_of_completed call.token cancelled hcompleted, Outcome.map, Except.map,
        Outcome.Interrupted]
    | false =>
      exact ((c.complete_guards call.token cancelled hcompleted).map _).inFlight_iff hidle
  | dispose =>
    have hdispose : c.dispose.inFlight = c.inFlight := rfl
    simp [hdispose, Outcome.Interrupted]

/-- A run leaves the guard set exactly if one of its calls did. -/
theorem serveAll_inFlight (x : AsyncCompressor ω σ × Cancelled) (calls : List Call) :
    (serveAll x calls).1.inFlight = true ↔ x.1.inFlight = true ∨
      ∃ before call after, calls = before ++ call :: after ∧
        Interrupts (serveAll x before) call := by
  induction calls using List.reverseRecOn with
  | nil => simp
  | append_singleton calls call ih =>
    rw [serveAll_concat, serve_inFlight, ih, or_assoc]
    refine or_congr_right ⟨?_, ?_⟩
    · rintro (⟨before, earlier, after, rfl, h⟩ | h)
      · exact ⟨before, earlier, after ++ [call], by simp, h⟩
      · exact ⟨calls, call, [], rfl, h⟩
    · rintro ⟨before, earlier, after, hsplit, h⟩
      rcases List.eq_nil_or_concat after with rfl | ⟨after, last, rfl⟩
      · obtain ⟨rfl, rfl⟩ := List.append_singleton_inj.mp hsplit
        exact .inr h
      · rw [List.concat_eq_append, ← List.cons_append, ← List.append_assoc] at hsplit
        obtain ⟨rfl, -⟩ := List.append_singleton_inj.mp hsplit
        exact .inl ⟨before, earlier, after, rfl, h⟩

/-- Whoever is asked answers the same error, and nothing else happens: there is no engine call, and
the sink is at most let go. -/
structure Rejects (e : CodecError) (c : AsyncCompressor ω σ) : Prop where
  serve : ∀ call cancelled, call.request ≠ .dispose →
    c.serve call cancelled = (.returned (.error e), c, cancelled.look)
  finish : ∀ token cancelled,
    c.finish token cancelled = (.returned (.error e), c.drop, cancelled.look)
  close : ∀ token cancelled,
    c.close token cancelled = (.returned (.error e), c.drop, cancelled.look)

/-- A compressor that is poisoned or disposed of, and so gives every token the same refusal. -/
theorem rejects_of_refusal {c : AsyncCompressor ω σ} {e : CodecError}
    (hdead : (!c.inFlight && !c.base.session.isDisposed) = false)
    (h : ∀ token cancelled, c.refusal token cancelled = some e) : Rejects e c := by
  have hcomplete (token : Token) (cancelled : Cancelled) :
      c.complete token cancelled = (.returned (.error e), c, cancelled.look) := by
    simp only [complete, Bool.and_assoc, hdead, Bool.and_false, Bool.false_eq_true, if_false, h]
  refine ⟨fun ⟨token, request⟩ cancelled hlive => ?_, fun token cancelled => ?_,
    fun token cancelled => ?_⟩
  · cases request with
    | write data => simp [AsyncCompressor.serve, write, h, Outcome.map, Except.map]
    | flush => simp [AsyncCompressor.serve, flush, h, Outcome.map, Except.map]
    | complete => simp [AsyncCompressor.serve, hcomplete, Outcome.map, Except.map]
    | dispose => exact absurd rfl hlive
  · simp only [AsyncCompressor.finish, hcomplete]
  · simp only [AsyncCompressor.close, hcomplete]

/-- Whoever is asked answers that an operation is in progress, and nothing else happens: there is
no engine call, and the sink is at most let go. -/
structure Refuses (c : AsyncCompressor ω σ) : Prop where
  serve : ∀ call cancelled, call.request ≠ .dispose →
    c.serve call cancelled = (.returned (.error .operationInProgress), c, cancelled.look)
  finish : ∀ token cancelled,
    c.finish token cancelled = (.returned (.error .operationInProgress), c.drop, cancelled.look)
  close : ∀ token cancelled,
    c.close token cancelled = (.returned (.error .operationInProgress), c.drop, cancelled.look)

theorem rejects_of_inFlight {c : AsyncCompressor ω σ} (h : c.inFlight = true) :
    Rejects .operationInProgress c :=
  rejects_of_refusal (by rw [h]; rfl) fun _ _ => refusal_of_inFlight h

theorem rejects_of_isDisposed {c : AsyncCompressor ω σ} (hidle : c.inFlight = false)
    (h : c.base.session.isDisposed = true) : Rejects .disposed c := by
  refine rejects_of_refusal (by rw [h, Bool.not_true, Bool.and_false]) fun token cancelled => ?_
  rw [refusal, hidle, h]
  rfl

theorem refuses_of_inFlight {c : AsyncCompressor ω σ} (h : c.inFlight = true) : Refuses c :=
  ⟨(rejects_of_inFlight h).serve, (rejects_of_inFlight h).finish, (rejects_of_inFlight h).close⟩

end AsyncCompressor

end StreamCodec
