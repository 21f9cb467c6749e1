import StreamCodec.Format.Zstd.BitSpan

/-!
# Finite state entropy

A table of states stands for a distribution of symbols: each state means a
symbol, and says how many bits lead from it to the next state. The more probable
a symbol, the more states it has.
-/
namespace StreamCodec.Format.Zstd

/-- How likely a symbol is. -/
inductive Probability where
  /-- Less than one state; it is given one all the same. -/
  | rare
  | states (count : Nat)
deriving DecidableEq, Repr

namespace Probability

def count : Probability → Nat
  | .rare => 1
  | .states count => count

end Probability

/-- The distribution that a compact list stands for, with `-1` for the rare symbols. -/
def distribution (list : List Int) : List Probability :=
  list.map fun n => if n < 0 then .rare else .states n.toNat

structure FseState where
  symbol : Nat
  /-- How many bits are read to find the next state. -/
  bits : Nat
  /-- What the value of these bits is added to. -/
  base : Nat
deriving Inhabited

structure FseTable where
  /-- The logarithm of the number of states. -/
  log : Nat
  states : Array FseState

namespace FseTable

/-- The table with one symbol, which takes no bits. -/
def sole (symbol : Nat) : FseTable := ⟨0, #[⟨symbol, 0, 0⟩]⟩

/-- The symbol of each state: rare symbols have the last states, the others are spread over the
rest with a stride. -/
def spread (log : Nat) (probabilities : List Probability) : Array Nat :=
  let size := 1 <<< log
  let symbols := probabilities.zipIdx
  let rare := symbols.filterMap fun (p, s) => if p = .rare then some s else none
  let common := symbols.flatMap fun (p, s) =>
    match p with
    | .rare => []
    | .states count => List.replicate count s
  let stride := size / 2 + size / 8 + 3
  let places := ((List.range size).map fun i => i * stride % size).filter fun place =>
    place < size - rare.length
  let table := (places.zip common).foldl (fun table (place, s) => table.setIfInBounds place s)
    (Array.replicate size 0)
  rare.zipIdx.foldl (fun table (s, i) => table.setIfInBounds (size - 1 - i) s) table

/-- The table of a distribution with `2 ^ log` states in all. -/
def ofDistribution (log : Nat) (probabilities : List Probability) : FseTable :=
  let (states, _) := (spread log probabilities).foldl (fun (states, next) symbol =>
    let n := next.getD symbol 1
    let bits := log - n.log2
    (states.push ⟨symbol, bits, n * (1 <<< bits) - (1 <<< log)⟩, next.setIfInBounds symbol (n + 1)))
    (Array.emptyWithCapacity (1 <<< log), (probabilities.map Probability.count).toArray)
  ⟨log, states⟩

def state (t : FseTable) (index : Nat) : FseState := t.states.getD index default

def begin? (t : FseTable) (span : BitSpan) : Option (Nat × BitSpan) := span.takeHigh? t.log

def next? (t : FseTable) (index : Nat) (span : BitSpan) : Option (Nat × BitSpan) := do
  let state := t.state index
  let (value, span) ← span.takeHigh? state.bits
  return (state.base + value, span)

end FseTable

namespace Distribution

/-- A number below `limit + 2`; the small ones take a bit less. -/
def number? (limit : Nat) (span : BitSpan) : Option (Nat × BitSpan) := do
  let bits := (limit + 1).log2 + 1
  let spared := (1 <<< bits) - 1 - (limit + 1)
  let (low, span) ← span.takeLow? (bits - 1)
  if low < spared then return (low, span)
  else
    let (high, span) ← span.takeLow? 1
    return (if high = 0 then low else low + (1 <<< (bits - 1)) - spared, span)

/-- How many symbols are skipped after one that does not occur. -/
def skipped? (span : BitSpan) : (limit : Nat) → Option (Nat × BitSpan)
  | 0 => none
  | limit + 1 => do
    let (count, span) ← span.takeLow? 2
    if count < 3 then return (count, span)
    else
      let (rest, span) ← skipped? span limit
      return (3 + rest, span)

/-- Reads probabilities until all states are given away; `found` has the last first. -/
def probabilities? (maxSymbol : Nat) : (limit remaining : Nat) → (found : List Probability) →
    BitSpan → Option (List Probability × BitSpan)
  | 0, _, _, _ => none
  | limit + 1, remaining, found, span =>
    if remaining = 0 then some (found.reverse, span)
    else if maxSymbol < found.length then none
    else do
      let (n, span) ← number? remaining span
      match n with
      | 0 => probabilities? maxSymbol limit (remaining - 1) (.rare :: found) span
      | 1 =>
        let (skipped, span) ← skipped? span 256
        probabilities? maxSymbol limit remaining
          (List.replicate (skipped + 1) (.states 0) ++ found) span
      | count + 1 =>
        if remaining < count then none
        else probabilities? maxSymbol limit (remaining - count) (.states count :: found) span

/-- The table described at the head of some bytes, and how many of them describe it. -/
def table? (maxLog maxSymbol : Nat) (data : ByteArray) : Option (FseTable × Nat) := do
  let (low, span) ← (BitSpan.ofBytes data).takeLow? 4
  let log := 5 + low
  if maxLog < log then none
  else
    let (probabilities, span) ← probabilities? maxSymbol 512 (1 <<< log) [] span
    if maxSymbol + 1 < probabilities.length then none
    else return (.ofDistribution log probabilities, span.nextByte)

end Distribution

end StreamCodec.Format.Zstd
