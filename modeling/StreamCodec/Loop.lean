/-!
# Loops without a bound

`loop` repeats a step until the step has a result. Nothing bounds the number of
rounds: a loop that never comes to a result is `none`, which no run ever sees.

What a loop comes to is what its step `Yields`, a finite row of rounds. The
loop itself carries the proof of that along, so that a result can only be one
that some row of rounds has. `loop_invariant`, `exists_loop`, `loop_eq_none` and
`loop_together` are the rules by which loops are proved about: what every round
keeps holds in the last one, a loop whose rounds use something up has a result,
one without a result goes on for ever, and two loops that go together round by
round come to their results together.
-/
namespace StreamCodec

variable {α β : Type}

/-- From `x` the step comes to the result `y` after finitely many rounds. -/
inductive Yields (step : α → α ⊕ β) : α → β → Prop
  | last {x : α} {y : β} (h : step x = .inr y) : Yields step x y
  | again {x x' : α} {y : β} (h : step x = .inl x') (rest : Yields step x' y) : Yields step x y

/-- A loop under way: what it comes to is what the start comes to. -/
structure Rounds (step : α → α ⊕ β) (start : α) where
  state : α
  leads : ∀ y, Yields step state y → Yields step start y

namespace Rounds

variable {step : α → α ⊕ β} {start : α}

def next (r : Rounds step start) : Rounds step start ⊕ Option { y // Yields step start y } :=
  match h : step r.state with
  | .inl x => .inl ⟨x, fun y hy => r.leads y (.again h hy)⟩
  | .inr y => .inr (some ⟨y, r.leads y (.last h)⟩)

/-- The rounds that are left. -/
def result (r : Rounds step start) : Option { y // Yields step start y } := Id.run (repeatM next r)

theorem next_inl {r : Rounds step start} {x : α} (h : step r.state = .inl x) :
    ∃ r', r.next = .inl r' ∧ r'.state = x := by
  unfold next
  split
  · next h' =>
    obtain rfl := Sum.inl.inj (h'.symm.trans h)
    exact ⟨_, rfl, rfl⟩
  · next h' =>
    rw [h'] at h
    cases h

theorem next_inr {r : Rounds step start} {y : β} (h : step r.state = .inr y) :
    ∃ hy, r.next = .inr (some ⟨y, hy⟩) := by
  unfold next
  split
  · next h' =>
    rw [h'] at h
    cases h
  · next h' =>
    obtain rfl := Sum.inr.inj (h'.symm.trans h)
    exact ⟨r.leads _ (.last h), rfl⟩

theorem result_of_inl {r r' : Rounds step start} (h : r.next = .inl r') : r.result = r'.result := by
  rw [result, repeatM_eq_of_monadTail, repeatM.body, h]
  rfl

theorem result_of_inr {r : Rounds step start} {y : Option { y // Yields step start y }}
    (h : r.next = .inr y) : r.result = y := by
  rw [result, repeatM_eq_of_monadTail, repeatM.body, h]
  rfl

/-- What a row of rounds comes to, the loop comes to. -/
theorem result_of_yields {r : Rounds step start} {y : β} (h : Yields step r.state y) :
    ∃ hy, r.result = some ⟨y, hy⟩ := by
  generalize hx : r.state = x at h
  induction h generalizing r with
  | last hstep =>
    obtain ⟨hy, hnext⟩ := next_inr (hx ▸ hstep)
    exact ⟨hy, result_of_inr hnext⟩
  | again hstep rest ih =>
    obtain ⟨r', hnext, hstate⟩ := next_inl (hx ▸ hstep)
    rw [result_of_inl hnext]
    exact ih hstate

end Rounds

/-- Repeats a step until it has a result. -/
def loop (step : α → α ⊕ β) (x : α) : Option β :=
  (Rounds.result ⟨x, fun _ h => h⟩ : Option { y // Yields step x y }).map Subtype.val

theorem loop_eq_some {step : α → α ⊕ β} {x : α} {y : β} : loop step x = some y ↔ Yields step x y := by
  constructor
  · intro h
    obtain ⟨⟨y, hy⟩, -, rfl⟩ := Option.map_eq_some_iff.mp h
    exact hy
  · intro h
    obtain ⟨hy, hresult⟩ := Rounds.result_of_yields (r := ⟨x, fun _ h => h⟩) h
    rw [loop, hresult]
    rfl

theorem loop_eq (step : α → α ⊕ β) (x : α) :
    loop step x = match step x with
      | .inl x => loop step x
      | .inr y => some y := by
  cases hs : step x with
  | inl x' =>
    refine Option.ext fun y => ?_
    rw [loop_eq_some, loop_eq_some]
    refine ⟨fun h => ?_, .again hs⟩
    cases h with
    | last hlast =>
      rw [hs] at hlast
      cases hlast
    | again hagain rest =>
      obtain rfl := Sum.inl.inj (hs.symm.trans hagain)
      exact rest
  | inr y => exact loop_eq_some.mpr (.last hs)

/-- What has a result does not go on for ever. -/
theorem Yields.not_endless {step : α → α ⊕ β} {x : α} {y : β} (h : Yields step x y) (f : Nat → α)
    (hx : f 0 = x) : ¬∀ n, step (f n) = .inl (f (n + 1)) := by
  induction h generalizing f with
  | last hstep =>
    intro hf
    rw [← hx, hf 0] at hstep
    cases hstep
  | again hstep _ ih =>
    intro hf
    rw [← hx, hf 0] at hstep
    exact ih (fun n => f (n + 1)) (Sum.inl.inj hstep) fun n => hf (n + 1)

theorem step_of_loop_none {step : α → α ⊕ β} {x : α} (h : loop step x = none) :
    ∃ x', step x = .inl x' ∧ loop step x' = none := by
  rw [loop_eq] at h
  cases hs : step x with
  | inl x' =>
    rw [hs] at h
    exact ⟨x', rfl, h⟩
  | inr y =>
    rw [hs] at h
    cases h

/-- A loop has no result exactly if it can be followed for ever. -/
theorem loop_eq_none {step : α → α ⊕ β} {x : α} :
    loop step x = none ↔ ∃ f : Nat → α, f 0 = x ∧ ∀ n, step (f n) = .inl (f (n + 1)) := by
  constructor
  · intro h
    let next (x : α) : α := (step x).elim id fun _ => x
    have hnext {x : α} (hx : loop step x = none) :
        step x = .inl (next x) ∧ loop step (next x) = none := by
      obtain ⟨x', hstep, hx'⟩ := step_of_loop_none hx
      have hx'' : next x = x' := by simp only [next, hstep, Sum.elim_inl, id]
      exact hx'' ▸ ⟨hstep, hx'⟩
    have hnone (n : Nat) : loop step (Nat.repeat next n x) = none := by
      induction n with
      | zero => exact h
      | succ n ih => exact (hnext ih).2
    exact ⟨fun n => Nat.repeat next n x, rfl, fun n => (hnext (hnone n)).1⟩
  · rintro ⟨f, rfl, hf⟩
    cases h : loop step (f 0) with
    | none => rfl
    | some y => exact absurd hf ((loop_eq_some.mp h).not_endless f rfl)

/-- What holds at the start and is kept by every round that goes on holds in the last round,
the one that has the result. -/
theorem loop_invariant {step : α → α ⊕ β} (Inv : α → Prop)
    (kept : ∀ x x', Inv x → step x = .inl x' → Inv x') {x : α} {y : β} (start : Inv x)
    (h : loop step x = some y) : ∃ last, Inv last ∧ step last = .inr y := by
  rw [loop_eq_some] at h
  induction h with
  | last hstep => exact ⟨_, start, hstep⟩
  | again hstep _ ih => exact ih (kept _ _ start hstep)

/-- A loop has a result if every round that goes on keeps the invariant and uses up some of a
finite stock. -/
theorem exists_loop {step : α → α ⊕ β} (Inv : α → Prop) (stock : α → Nat)
    (kept : ∀ x x', Inv x → step x = .inl x' → Inv x' ∧ stock x' < stock x) {x : α}
    (start : Inv x) : ∃ y, loop step x = some y := by
  simp only [loop_eq_some]
  induction hn : stock x using Nat.strongRecOn generalizing x with
  | ind n ih =>
    cases hs : step x with
    | inl x' =>
      obtain ⟨hx', hlt⟩ := kept x x' start hs
      obtain ⟨y, hy⟩ := ih (stock x') (hn ▸ hlt) hx' rfl
      exact ⟨y, .again hs hy⟩
    | inr y => exact ⟨y, .last hs⟩

section Together

variable {α' β' : Type} {step : α → α ⊕ β} {step' : α' → α' ⊕ β'} {R : α → α' → Prop}
  {Q : β → β' → Prop}

/-- Rounds that go together come to results together. -/
theorem yields_together (kept : ∀ x x', R x x' → Sum.LiftRel R Q (step x) (step' x')) {x : α}
    {x' : α'} {y : β} (start : R x x') (h : Yields step x y) : ∃ y', Yields step' x' y' ∧ Q y y' := by
  induction h generalizing x' with
  | last hstep =>
    have hboth := kept _ x' start
    rw [hstep] at hboth
    cases hs : step' x' with
    | inl z' =>
      rw [hs] at hboth
      cases hboth
    | inr y' =>
      rw [hs, Sum.liftRel_inr_inr] at hboth
      exact ⟨y', .last hs, hboth⟩
  | again hstep _ ih =>
    have hboth := kept _ x' start
    rw [hstep] at hboth
    cases hs : step' x' with
    | inl z' =>
      rw [hs, Sum.liftRel_inl_inl] at hboth
      obtain ⟨y', hy', hresult⟩ := ih hboth
      exact ⟨y', .again hs hy', hresult⟩
    | inr y' =>
      rw [hs] at hboth
      cases hboth

/-- Loops whose rounds go together come to their results together, if they come to any. -/
theorem loop_together (kept : ∀ x x', R x x' → Sum.LiftRel R Q (step x) (step' x')) {x : α}
    {x' : α'} (start : R x x') : Option.Rel Q (loop step x) (loop step' x') := by
  have kept' (x' : α') (x : α) (h : R x x') :
      Sum.LiftRel (fun x' x => R x x') (fun y' y => Q y y') (step' x') (step x) := by
    have hboth := kept x x' h
    cases hs : step x <;> cases hs' : step' x' <;> rw [hs, hs'] at hboth <;> cases hboth
    · exact .inl ‹_›
    · exact .inr ‹_›
  cases h : loop step x with
  | some y =>
    obtain ⟨y', hy', hresult⟩ := yields_together kept start (loop_eq_some.mp h)
    rw [loop_eq_some.mpr hy']
    exact .some hresult
  | none =>
    cases h' : loop step' x' with
    | some y' =>
      obtain ⟨y, hy, -⟩ := yields_together kept' start (loop_eq_some.mp h')
      rw [loop_eq_some.mpr hy] at h
      cases h
    | none => exact .none

end Together

/-- A loop that another one mirrors comes to the mirrored result. -/
theorem loop_map {α' β' : Type} {step : α → α ⊕ β} {step' : α' → α' ⊕ β'} (f : α → α') (g : β → β')
    (h : ∀ x, step' (f x) = (step x).map f g) (x : α) :
    loop step' (f x) = (loop step x).map g := by
  have kept (x : α) (x' : α') (hx : f x = x') :
      Sum.LiftRel (fun x x' => f x = x') (fun y y' => g y = y') (step x) (step' x') := by
    rw [← hx, h]
    cases step x with
    | inl z => exact .inl rfl
    | inr y => exact .inr rfl
  have htogether := loop_together kept (rfl : f x = f x)
  generalize loop step x = result, loop step' (f x) = mirrored at htogether ⊢
  cases htogether with
  | some hresult => rw [Option.map_some, hresult]
  | none => rfl

end StreamCodec
