import Mathlib.Algebra.Group.Nat.Defs
import Mathlib.Data.Nat.Basic
import Mathlib.Order.Monotone.Defs
import StreamCodec.Block.Bound

/-!
# Worst-case sizes are exact

The bounds of brotli, deflate and zlib add a margin to the size. Only that last
addition is checked; the margin itself is worked out on words that may wrap. Here a
`Margin` is the expression that is worked out: `word` is its value on words, `exact`
its value on natural numbers, and it `Fits` a size if no step on the way leaves the
word. The margins fit every size, so a bound is its formula on natural numbers
wherever that is a word, and none elsewhere.
-/
namespace StreamCodec

/-- An expression in a size. -/
inductive Margin where
  | number (value : UInt64)
  /-- How many whole blocks of `2 ^ log` bytes the size has. -/
  | blocks (log : UInt64)
  | sum (a b : Margin)
  | product (a b : Margin)

namespace Margin

/-- The value on words: sums and products wrap, and a shift counts modulo the width. -/
def word (size : UInt64) : Margin → UInt64
  | number value => value
  | blocks log => size >>> log
  | sum a b => a.word size + b.word size
  | product a b => a.word size * b.word size

/-- The value on natural numbers. -/
def exact (size : Nat) : Margin → Nat
  | number value => value.toNat
  | blocks log => size / 2 ^ log.toNat
  | sum a b => a.exact size + b.exact size
  | product a b => a.exact size * b.exact size

/-- No sum or product on the way leaves the word, and no shift is as wide as it. -/
def Fits (size : Nat) : Margin → Prop
  | number _ => True
  | blocks log => log.toNat < 64
  | sum a b => a.Fits size ∧ b.Fits size ∧ a.exact size + b.exact size < 2 ^ 64
  | product a b => a.Fits size ∧ b.Fits size ∧ a.exact size * b.exact size < 2 ^ 64

/-- Words march in step with natural numbers as long as everything fits. -/
theorem toNat_word {size : UInt64} {margin : Margin} (h : margin.Fits size.toNat) :
    (margin.word size).toNat = margin.exact size.toNat := by
  induction margin with
  | number value => rfl
  | blocks log =>
    have hlog : log.toNat % 64 = log.toNat := Nat.mod_eq_of_lt h
    rw [word, exact, UInt64.toNat_shiftRight, hlog, Nat.shiftRight_eq_div_pow]
  | sum a b iha ihb =>
    obtain ⟨ha, hb, hsum⟩ := h
    rw [word, exact, UInt64.toNat_add, iha ha, ihb hb, Nat.mod_eq_of_lt hsum]
  | product a b iha ihb =>
    obtain ⟨ha, hb, hproduct⟩ := h
    rw [word, exact, UInt64.toNat_mul, iha ha, ihb hb, Nat.mod_eq_of_lt hproduct]

end Margin

/-- A checked sum is the sum where that is a word. -/
theorem map_toNat_checkedAdd (a b : UInt64) :
    (checkedAdd a b).map UInt64.toNat =
      if a.toNat + b.toNat < 2 ^ 64 then some (a.toNat + b.toNat) else none := by
  unfold checkedAdd
  rw [Nat.one_shiftLeft]
  split
  · next hfits => rw [Option.map_some, UInt64.toNat_add, Nat.mod_eq_of_lt hfits]
  · rfl

theorem map_toNat_add_margin {size : UInt64} {margin : Margin} (h : margin.Fits size.toNat) :
    (checkedAdd size (margin.word size)).map UInt64.toNat =
      if size.toNat + margin.exact size.toNat < 2 ^ 64 then
        some (size.toNat + margin.exact size.toNat)
      else none := by
  rw [map_toNat_checkedAdd, Margin.toNat_word h]

/-- A bound on words that is a formula on natural numbers as far as words reach, and so exceeds the
size and grows with it until it ends. -/
structure Reckons (bound : UInt64 → Option UInt64) (formula : Nat → Nat) : Prop where
  exact : ∀ n, (bound n).map UInt64.toNat =
    if formula n.toNat < 2 ^ 64 then some (formula n.toNat) else none
  exceeds : ∀ n b, bound n = some b → n < b
  grows : ∀ m n b c, m < n → bound m = some b → bound n = some c → b < c
  ends : ∀ m n, m < n → bound m = none → bound n = none

section Formula

variable {bound : UInt64 → Option UInt64} {formula : Nat → Nat}
  (hexact : ∀ n, (bound n).map UInt64.toNat =
    if formula n.toNat < 2 ^ 64 then some (formula n.toNat) else none)

include hexact

theorem toNat_of_exact {n b : UInt64} (h : bound n = some b) : b.toNat = formula n.toNat := by
  have hn := hexact n
  rw [h, Option.map_some] at hn
  split at hn
  · exact Option.some.inj hn
  · cases hn

theorem eq_none_of_exact {n : UInt64} : bound n = none ↔ 2 ^ 64 ≤ formula n.toNat := by
  rw [← Option.map_eq_none_iff (f := UInt64.toNat), hexact n]
  simp

theorem reckons_of_exact (hexceeds : ∀ n, n < formula n) (hgrows : StrictMono formula) :
    Reckons bound formula where
  exact := hexact
  exceeds n b hb := by
    rw [UInt64.lt_iff_toNat_lt, toNat_of_exact hexact hb]
    exact hexceeds n.toNat
  grows m n b c hlt hb hc := by
    rw [UInt64.lt_iff_toNat_lt, toNat_of_exact hexact hb, toNat_of_exact hexact hc]
    exact hgrows (UInt64.lt_iff_toNat_lt.mp hlt)
  ends m n hlt hm := by
    rw [eq_none_of_exact hexact] at hm ⊢
    exact hm.trans (hgrows (UInt64.lt_iff_toNat_lt.mp hlt)).le

end Formula

/-- Brotli's margin: four bytes a large block and six more. -/
def brotliMargin : Margin :=
  .sum (.sum (.sum (.number 2) (.product (.number 4) (.blocks 14))) (.number 3)) (.number 1)

/-- Deflate's margin: a byte for each block of 2^12, of 2^14 and of 2^25 bytes, and thirteen more. -/
def deflateMargin : Margin :=
  .sum (.sum (.sum (.blocks 12) (.blocks 14)) (.blocks 25)) (.number 13)

/-- Brotli's bound in natural numbers. -/
def brotliSize (n : Nat) : Nat := if n = 0 then 2 else n + 4 * (n / 2 ^ 14) + 6

/-- Deflate's bound in natural numbers. -/
def deflateSize (n : Nat) : Nat := n + n / 2 ^ 12 + n / 2 ^ 14 + n / 2 ^ 25 + 13

theorem exact_brotliMargin (n : Nat) : brotliMargin.exact n = 2 + 4 * (n / 2 ^ 14) + 3 + 1 := rfl

theorem exact_deflateMargin (n : Nat) :
    deflateMargin.exact n = n / 2 ^ 12 + n / 2 ^ 14 + n / 2 ^ 25 + 13 := rfl

theorem fits_brotliMargin {n : Nat} (h : n < 2 ^ 64) : brotliMargin.Fits n := by
  have hblocks : (14 : UInt64).toNat < 64 := by decide
  have hproduct : 4 * (n / 2 ^ 14) < 2 ^ 64 := by omega
  have htwo : 2 + 4 * (n / 2 ^ 14) < 2 ^ 64 := by omega
  have hfive : 2 + 4 * (n / 2 ^ 14) + 3 < 2 ^ 64 := by omega
  have hsix : 2 + 4 * (n / 2 ^ 14) + 3 + 1 < 2 ^ 64 := by omega
  exact ⟨⟨⟨trivial, ⟨trivial, hblocks, hproduct⟩, htwo⟩, trivial, hfive⟩, trivial, hsix⟩

theorem fits_deflateMargin {n : Nat} (h : n < 2 ^ 64) : deflateMargin.Fits n := by
  have hblocks : (12 : UInt64).toNat < 64 ∧ (14 : UInt64).toNat < 64 ∧ (25 : UInt64).toNat < 64 := by
    decide
  have htwo : n / 2 ^ 12 + n / 2 ^ 14 < 2 ^ 64 := by omega
  have hthree : n / 2 ^ 12 + n / 2 ^ 14 + n / 2 ^ 25 < 2 ^ 64 := by omega
  have hall : n / 2 ^ 12 + n / 2 ^ 14 + n / 2 ^ 25 + 13 < 2 ^ 64 := by omega
  exact ⟨⟨⟨hblocks.1, hblocks.2.1, htwo⟩, hblocks.2.2, hthree⟩, trivial, hall⟩

theorem strictMono_brotliSize : StrictMono brotliSize := by
  intro m n hlt
  unfold brotliSize
  have hblocks : m / 2 ^ 14 ≤ n / 2 ^ 14 := Nat.div_le_div_right hlt.le
  -- Nothing has a bound of its own, below that of one byte.
  split <;> split <;> omega

theorem strictMono_deflateSize : StrictMono deflateSize := by
  intro m n hlt
  have h₁ : m / 2 ^ 12 ≤ n / 2 ^ 12 := Nat.div_le_div_right hlt.le
  have h₂ : m / 2 ^ 14 ≤ n / 2 ^ 14 := Nat.div_le_div_right hlt.le
  have h₃ : m / 2 ^ 25 ≤ n / 2 ^ 25 := Nat.div_le_div_right hlt.le
  unfold deflateSize
  omega

theorem brotliBound_eq (n : UInt64) :
    brotliBound n = if n = 0 then some 2 else checkedAdd n (brotliMargin.word n) := rfl

theorem deflateBound_eq (n : UInt64) : deflateBound n = checkedAdd n (deflateMargin.word n) := rfl

theorem reckons_brotli : Reckons brotliBound brotliSize := by
  refine reckons_of_exact ?_ ?_ strictMono_brotliSize
  · intro n
    rw [brotliBound_eq]
    by_cases hn : n = 0
    · subst hn
      rfl
    · have hpos : n.toNat ≠ 0 := fun h => hn (UInt64.toNat_inj.mp h)
      have hsize : n.toNat + brotliMargin.exact n.toNat = brotliSize n.toNat := by
        rw [exact_brotliMargin, brotliSize, if_neg hpos]
        omega
      rw [if_neg hn, map_toNat_add_margin (fits_brotliMargin n.toNat_lt), hsize]
  · intro n
    unfold brotliSize
    split <;> omega

/-- The last size with a bound, which is the largest word. -/
example : brotliBound 18442241573325438957 = some 0xFFFFFFFFFFFFFFFF ∧
    brotliBound 18442241573325438958 = none := by decide

theorem reckons_deflate : Reckons deflateBound deflateSize := by
  refine reckons_of_exact ?_ ?_ strictMono_deflateSize
  · intro n
    have hsize : n.toNat + deflateMargin.exact n.toNat = deflateSize n.toNat := by
      rw [exact_deflateMargin, deflateSize]
      omega
    rw [deflateBound_eq, map_toNat_add_margin (fits_deflateMargin n.toNat_lt), hsize]
  · intro n
    unfold deflateSize
    omega

/-- For every size the worst cases of brotli, deflate and zlib are their formulas on natural numbers
as far as words reach, and none beyond. No step of their margins wraps, also where the bound is none;
the bounds exceed the size and grow with it, and once there is none there is none for any larger
size. -/
theorem worst_cases_exact :
    Reckons (maxCompressedLen .brotli) brotliSize ∧
    Reckons (maxCompressedLen .deflate) deflateSize ∧
    Reckons (maxCompressedLen .zlib) deflateSize ∧
    ∀ n : UInt64,
      (brotliMargin.Fits n.toNat ∧
        maxCompressedLen .brotli n =
          if n = 0 then some 2 else checkedAdd n (brotliMargin.word n)) ∧
      deflateMargin.Fits n.toNat ∧
        maxCompressedLen .deflate n = checkedAdd n (deflateMargin.word n) ∧
        maxCompressedLen .zlib n = checkedAdd n (deflateMargin.word n) := by
  refine ⟨reckons_brotli, reckons_deflate, reckons_deflate, fun n => ?_⟩
  exact ⟨⟨fits_brotliMargin n.toNat_lt, brotliBound_eq n⟩, fits_deflateMargin n.toNat_lt,
    deflateBound_eq n, deflateBound_eq n⟩

end StreamCodec
