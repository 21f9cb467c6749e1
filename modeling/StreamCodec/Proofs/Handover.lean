import StreamCodec.Proofs.Queue

/-!
# Handovers

A `Handover` notes one chunk that was offered to a sink: where the chunk begins
in all that the engine produced, how long it is, and how much of it the sink
took. A chunk that was taken in part is offered again from its first byte, so
that bytes are taken twice exactly when anything is taken after it: that is
what `Intact` rules out.
-/
namespace StreamCodec

structure Handover where
  start : Nat
  offered : Nat
  taken : Nat
deriving DecidableEq, Repr

namespace Handover

variable (h : Handover)

/-- Which of the produced bytes the sink took. -/
def positions : List Nat := List.range' h.start h.taken

def bytes (produced : List UInt8) : List UInt8 := (produced.drop h.start).take h.taken

/-- The produced byte at this position was taken. -/
def Covers (position : Nat) : Prop := h.start ≤ position ∧ position < h.start + h.taken

/-- The sink took part of the chunk only. -/
def Torn : Prop := 0 < h.taken ∧ h.taken < h.offered

/-- No byte was taken by both. -/
def Apart (a b : Handover) : Prop := ∀ position, ¬(a.Covers position ∧ b.Covers position)

theorem apart_of_le {a b : Handover} (h : a.start + a.taken ≤ b.start) : Apart a b := by
  rintro position ⟨⟨-, ha⟩, ⟨hb, -⟩⟩
  omega

theorem apart_of_none {a b : Handover} (h : a.taken = 0 ∨ b.taken = 0) : Apart a b := by
  rintro position ⟨⟨ha, ha'⟩, ⟨hb, hb'⟩⟩
  omega

theorem not_apart {a b : Handover} (hstart : a.start = b.start) (ha : 0 < a.taken)
    (hb : 0 < b.taken) : ¬Apart a b := by
  intro h
  exact h a.start ⟨⟨Nat.le_refl _, by omega⟩, ⟨by omega, by omega⟩⟩

theorem apart_of_disjoint {a b : Handover} (h : a.positions.Disjoint b.positions) : Apart a b := by
  rintro position ⟨ha, hb⟩
  exact h (List.mem_range'_1.mpr ha) (List.mem_range'_1.mpr hb)

theorem bytes_eq_map {h : Handover} {produced : List UInt8}
    (hin : h.start + h.taken ≤ produced.length) :
    h.bytes produced = h.positions.map fun i => produced.getD i 0 := by
  refine List.ext_getElem ?_ fun i hi _ => ?_
  · rw [bytes, positions, List.length_take, List.length_drop, List.length_map, List.length_range']
    omega
  · rw [bytes, List.length_take] at hi
    simp only [bytes, positions, List.getElem_take, List.getElem_drop, List.getElem_map,
      List.getElem_range', Nat.one_mul]
    rw [List.getD_eq_getElem]

theorem bytes_append {h : Handover} {produced : List UInt8}
    (hin : h.start + h.taken ≤ produced.length) (more : List UInt8) :
    h.bytes (produced ++ more) = h.bytes produced := by
  rw [bytes, bytes, List.drop_append_of_le_length (by omega),
    List.take_append_of_le_length (by rw [List.length_drop]; omega)]

end Handover

/-- After a chunk was taken in part the sink took nothing more. -/
def Intact (hs : List Handover) : Prop := hs.Pairwise fun a b => a.Torn → b.taken = 0

/-- How handovers lie when each was offered all that was left behind a border, and moved the border
to the end of it if it was taken whole. `total` bytes were produced. -/
structure Placed (total border : Nat) (hs : List Handover) : Prop where
  inside : ∀ h ∈ hs, h.taken ≤ h.offered ∧ h.start + h.offered ≤ total
  whole : ∀ h ∈ hs, h.taken = h.offered → h.start + h.taken ≤ border
  torn : Intact hs → ∀ h ∈ hs, h.Torn → h.start = border
  apart : hs.Pairwise Handover.Apart ↔ Intact hs
  front : Intact hs → ∃ extra, hs.flatMap Handover.positions = List.range (border + extra) ∧
    ((∀ h ∈ hs, ¬h.Torn) → extra = 0) ∧ border + extra ≤ total

namespace Placed

variable {total border : Nat} {hs : List Handover}

theorem nil (total : Nat) : Placed total 0 [] where
  inside := nofun
  whole := nofun
  torn := nofun
  apart := ⟨fun _ => .nil, fun _ => .nil⟩
  front := fun _ => ⟨0, rfl, fun _ => rfl, Nat.zero_le _⟩

/-- More output changes nothing. -/
theorem grow (hp : Placed total border hs) (more : Nat) : Placed (total + more) border hs where
  inside := by
    intro h hmem
    have := hp.inside h hmem
    omega
  whole := hp.whole
  torn := hp.torn
  apart := hp.apart
  front := by
    intro hintact
    obtain ⟨extra, hpositions, hclean, hle⟩ := hp.front hintact
    exact ⟨extra, hpositions, hclean, by omega⟩

/-- The bytes taken, read off their positions. -/
theorem flatMap_bytes {produced : List UInt8} (hp : Placed total border hs)
    (hle : total ≤ produced.length) :
    (hs.flatMap fun h => h.bytes produced) =
      (hs.flatMap Handover.positions).map fun i => produced.getD i 0 := by
  rw [List.map_flatMap]
  refine List.flatMap_congr fun h hmem => Handover.bytes_eq_map ?_
  have := hp.inside h hmem
  omega

theorem flatMap_bytes_append {produced : List UInt8} (hp : Placed produced.length border hs)
    (more : List UInt8) :
    (hs.flatMap fun h => h.bytes (produced ++ more)) = hs.flatMap fun h => h.bytes produced := by
  refine List.flatMap_congr fun h hmem => Handover.bytes_append ?_ more
  have := hp.inside h hmem
  omega

/-- A row stays intact only if nothing is taken once a handover was torn. -/
theorem taken_of_intact {h a : Handover} (hintact : Intact (hs ++ [h])) (hmem : a ∈ hs)
    (htorn : a.Torn) : h.taken = 0 :=
  (List.pairwise_append.mp hintact).2.2 a hmem h (List.mem_singleton_self h) htorn

/-- A handover at the border is apart from all earlier ones exactly if it is empty or none of them
was torn. -/
theorem apart_snoc (hp : Placed total border hs) {h : Handover} (hstart : h.start = border) :
    (hs ++ [h]).Pairwise Handover.Apart ↔ Intact (hs ++ [h]) := by
  rw [Intact, List.pairwise_append, List.pairwise_append, ← Intact]
  constructor
  · rintro ⟨hbefore, -, hnew⟩
    have hintact := hp.apart.mp hbefore
    refine ⟨hintact, List.pairwise_singleton .., fun a hmem b hb htorn => ?_⟩
    obtain rfl := List.mem_singleton.mp hb
    by_contra htaken
    exact Handover.not_apart ((hp.torn hintact a hmem htorn).trans hstart.symm) htorn.1
      (Nat.pos_of_ne_zero htaken) (hnew a hmem b hb)
  · rintro ⟨hbefore, -, hnew⟩
    refine ⟨hp.apart.mpr hbefore, List.pairwise_singleton .., fun a hmem b hb => ?_⟩
    obtain rfl := List.mem_singleton.mp hb
    by_cases htorn : a.Torn
    · exact Handover.apart_of_none (.inr (hnew a hmem b hb htorn))
    · have hle := (hp.inside a hmem).1
      rcases Nat.eq_zero_or_pos a.taken with hz | hpos
      · exact Handover.apart_of_none (.inl hz)
      · have hall : a.taken = a.offered := by
          by_contra hne
          exact htorn ⟨hpos, by omega⟩
        exact Handover.apart_of_le (hstart ▸ hp.whole a hmem hall)

theorem front_snoc (hp : Placed total border hs) {h : Handover} (hstart : h.start = border)
    (hintact : Intact (hs ++ [h])) :
    ∃ extra, (hs ++ [h]).flatMap Handover.positions =
        List.range (border + (extra + h.taken)) ∧
      ((∀ a ∈ hs, ¬a.Torn) → extra = 0) ∧ (h.taken = 0 ∨ extra = 0) ∧ border + extra ≤ total := by
  obtain ⟨extra, hpositions, hclean, hle⟩ := hp.front (List.pairwise_append.mp hintact).1
  have hnone : h.taken = 0 ∨ extra = 0 := by
    by_cases htorn : ∃ a ∈ hs, a.Torn
    · obtain ⟨a, hmem, ha⟩ := htorn
      exact .inl (taken_of_intact hintact hmem ha)
    · exact .inr (hclean fun a hmem ha => htorn ⟨a, hmem, ha⟩)
  refine ⟨extra, ?_, hclean, hnone, hle⟩
  rw [List.flatMap_append, hpositions, List.flatMap_singleton, Handover.positions, hstart]
  rcases hnone with hz | hz
  · rw [hz, List.range'_zero, List.append_nil, Nat.add_zero]
  · rw [hz, Nat.add_zero, Nat.zero_add, List.range_eq_range', List.range_eq_range']
    have happend := List.range'_append_1 (s := 0) (m := border) (n := h.taken)
    rwa [Nat.zero_add] at happend

/-- A handover of all that lies behind the border moves the border if it was taken whole. -/
theorem snoc (hp : Placed total border hs) {h : Handover} (hstart : h.start = border)
    (hoffered : 0 < h.offered) (hall : border + h.offered = total) (hle : h.taken ≤ h.offered) :
    Placed total (if h.taken = h.offered then total else border) (hs ++ [h]) where
  inside := by
    intro a hmem
    rcases List.mem_append.mp hmem with hold | hnew
    · exact hp.inside a hold
    · obtain rfl := List.mem_singleton.mp hnew
      omega
  whole := by
    intro a hmem hwhole
    rcases List.mem_append.mp hmem with hold | hnew
    · have := hp.whole a hold hwhole
      split <;> omega
    · obtain rfl := List.mem_singleton.mp hnew
      rw [if_pos hwhole]
      omega
  torn := by
    intro hintact a hmem htorn
    rcases List.mem_append.mp hmem with hold | hnew
    · have hnone := taken_of_intact hintact hold htorn
      rw [if_neg (by omega)]
      exact hp.torn (List.pairwise_append.mp hintact).1 a hold htorn
    · obtain rfl := List.mem_singleton.mp hnew
      rw [if_neg (Nat.ne_of_lt htorn.2)]
      exact hstart
  apart := hp.apart_snoc hstart
  front := by
    intro hintact
    obtain ⟨extra, hpositions, hclean, hnone, hin⟩ := hp.front_snoc hstart hintact
    by_cases hwhole : h.taken = h.offered
    · refine ⟨0, ?_, fun _ => rfl, ?_⟩
      · rw [hpositions, if_pos hwhole]
        congr 1
        omega
      · rw [if_pos hwhole]
        omega
    · rw [if_neg hwhole]
      refine ⟨extra + h.taken, hpositions, fun hnotorn => ?_, by omega⟩
      have hzero := hclean fun a hmem => hnotorn a (List.mem_append_left _ hmem)
      have hlast := hnotorn h (List.mem_append_right _ (List.mem_singleton_self h))
      rw [Handover.Torn] at hlast
      omega

/-- The bytes were taken from the first on, in order and each once, exactly if the row is intact. -/
theorem inOrder_iff (hp : Placed total border hs) :
    (∃ n, hs.flatMap Handover.positions = List.range n) ↔ Intact hs := by
  constructor
  · rintro ⟨n, hn⟩
    have hnodup : (hs.flatMap Handover.positions).Nodup := hn ▸ List.nodup_range
    refine hp.apart.mp ((List.nodup_flatMap.mp hnodup).2.imp ?_)
    exact fun h => Handover.apart_of_disjoint h
  · intro hintact
    obtain ⟨extra, hpositions, -⟩ := hp.front hintact
    exact ⟨_, hpositions⟩

theorem prefix_of_intact {produced : List UInt8} (hp : Placed produced.length border hs)
    (hintact : Intact hs) : (hs.flatMap fun h => h.bytes produced) <+: produced := by
  obtain ⟨extra, hpositions, -, hle⟩ := hp.front hintact
  have htake : produced.take (border + extra) = (List.range (border + extra)).map
      fun i => produced.getD i 0 := by
    have hin : 0 + (border + extra) ≤ produced.length := by omega
    have := Handover.bytes_eq_map (h := ⟨0, 0, border + extra⟩) hin
    rwa [Handover.bytes, Handover.positions, ← List.range_eq_range', List.drop_zero] at this
  rw [hp.flatMap_bytes (Nat.le_refl _), hpositions, ← htake]
  exact List.take_prefix ..

end Placed

end StreamCodec
