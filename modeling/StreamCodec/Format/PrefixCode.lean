import StreamCodec.Format.Bits

/-!
# Prefix codes

Canonical prefix codes are fixed by the length of each symbol's code: codes of
one length count up with their symbols, and longer codes come after shorter
ones. `fullness` measures how much of the code space is taken; a code is
complete when that is all of it, and no code at all when it is more.
-/
namespace StreamCodec.Format

inductive PrefixCode where
  /-- One symbol, which takes no bits. -/
  | sole (symbol : Nat)
  /-- How many codes there are of each length from one on, and the symbols by their codes. -/
  | canonical (counts : List Nat) (symbols : Array Nat)

namespace PrefixCode

def maxLength : Nat := 15

def lengthsInUse : List Nat := (List.range maxLength).map (· + 1)

/-- The share of the code space that codes of these lengths take, in units of the longest
code. Zero stands for a symbol without a code. -/
def fullness (lengths : List Nat) : Nat :=
  (lengths.filter (0 < ·)).foldl (fun sum l => sum + (1 <<< (maxLength - l))) 0

/-- Every sequence of bits starts with a code. -/
def isComplete (lengths : List Nat) : Bool := fullness lengths = 1 <<< maxLength

/-- The code in which symbol `i` has the length at `i`. -/
def ofLengths (lengths : List Nat) : PrefixCode :=
  let byLength := lengthsInUse.map fun l => lengths.zipIdx.filterMap fun (length, symbol) =>
    if length = l then some symbol else none
  .canonical (byLength.map List.length) byLength.flatten.toArray

/-- Reads on from a code that was not found among the shorter ones. `first` is the least code of
the length at hand, and `index` the place of its symbol. -/
def seek (symbols : Array Nat) : (counts : List Nat) → (code first index : Nat) → BitFlow Nat
  | [], _, _, _ => BitFlow.fail "invalid code"
  | count :: counts, code, first, index => do
    let code := code + (← BitFlow.bit)
    if code < first + count then return symbols.getD (index + (code - first)) 0
    else seek symbols counts (2 * code) (2 * (first + count)) (index + count)

def read : PrefixCode → BitFlow Nat
  | .sole symbol => pure symbol
  | .canonical counts symbols => seek symbols counts 0 0 0

end PrefixCode

end StreamCodec.Format
