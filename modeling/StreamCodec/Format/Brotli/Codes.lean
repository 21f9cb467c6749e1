import StreamCodec.Format.PrefixCode

/-!
# Descriptions of prefix codes

A code is described either simply, by up to four symbols, or by the lengths of
its codes, which are themselves written with a code.
-/
namespace StreamCodec.Format.Brotli

/-- How many bits tell one of so many symbols. -/
def symbolBits (count : Nat) : Nat := if count ≤ 1 then 0 else (count - 1).log2 + 1

/-- The lengths of the codes of some symbols, as a list over all symbols. -/
def lengthsOf (symbols : List (Nat × Nat)) (count : Nat) : List Nat :=
  (symbols.foldl (fun lengths (s, length) => lengths.setIfInBounds s length)
    (Array.replicate count 0)).toList

/-- A code with at most four symbols out of `count`, all below `limit`. -/
def simpleCode (count limit : Nat) : BitFlow PrefixCode := do
  let symbols ← (List.replicate (1 + (← BitFlow.bits 2)) ()).mapM fun _ => do
    let symbol ← BitFlow.bits (symbolBits count)
    if limit ≤ symbol then BitFlow.fail "symbol out of range" else return symbol
  if symbols.eraseDups.length ≠ symbols.length then BitFlow.fail "symbol occurs twice"
  else
    match symbols with
    | [a] => return .sole a
    | [a, b] => return .ofLengths (lengthsOf [(a, 1), (b, 1)] limit)
    | [a, b, c] => return .ofLengths (lengthsOf [(a, 1), (b, 2), (c, 2)] limit)
    | _ =>
      let isSkewed ← BitFlow.bit
      let lengths := if isSkewed = 1 then [1, 2, 3, 3] else [2, 2, 2, 2]
      return .ofLengths (lengthsOf (symbols.zip lengths) limit)

/-- The order in which the lengths of the code of lengths are listed. -/
def lengthOrder : List Nat := [1, 2, 3, 4, 0, 5, 17, 6, 16, 7, 8, 9, 10, 11, 12, 13, 14, 15]

def shortLength : BitFlow Nat := do
  if (← BitFlow.bit) = 0 then return 3 * (← BitFlow.bit)
  else if (← BitFlow.bit) = 0 then return 4
  else if (← BitFlow.bit) = 0 then return 2
  else return if (← BitFlow.bit) = 0 then 1 else 5

def shortSpace : Nat := 32

/-- Reads lengths for these symbols until the code space is used up. -/
def shortLengths : (symbols : List Nat) → (space : Nat) → (found : List (Nat × Nat)) →
    BitFlow (List (Nat × Nat) × Nat)
  | [], space, found => return (found, space)
  | s :: symbols, space, found => do
    if space = 0 then return (found, space)
    else
      let length ← shortLength
      let taken := if length = 0 then 0 else shortSpace >>> length
      if space < taken then BitFlow.fail "code space overrun"
      else shortLengths symbols (space - taken) ((s, length) :: found)

/-- The code of lengths; the first `skipped` symbols have none. -/
def lengthCode (skipped : Nat) : BitFlow PrefixCode := do
  let (found, space) ← shortLengths (lengthOrder.drop skipped) shortSpace []
  match found.filter (0 < ·.2) with
  | [(s, _)] => return .sole s
  | _ =>
    if space = 0 then return .ofLengths (lengthsOf found 18)
    else BitFlow.fail "code space not used up"

structure Lengths where
  found : Array Nat := #[]
  /-- The code space that is left; it is negative when the codes take more than there is. -/
  space : Int := (1 <<< PrefixCode.maxLength : Nat)
  /-- The last length that was not zero. -/
  last : Nat := 8
  /-- The length that is being repeated, and how often it was. -/
  repeated : Option (Nat × Nat) := none

namespace Lengths

def add (l : Lengths) (length times : Nat) : Lengths :=
  let taken := if length = 0 then 0 else times * (1 <<< (PrefixCode.maxLength - length))
  { l with
    found := l.found ++ Array.replicate times length
    space := l.space - taken
    last := if length = 0 then l.last else length
    repeated := none }

/-- Repeats a length. A second repetition of the same length goes on from the first, as the
next higher digit of their common number. -/
def repeatLength (l : Lengths) (length extra bits : Nat) : Lengths :=
  let before := match l.repeated with
    | some (same, times) => if same = length then times else 0
    | none => 0
  let times := (if before = 0 then 0 else (before - 2) * (1 <<< bits)) + extra + 3
  { l.add length (times - before) with repeated := some (length, times) }

end Lengths

/-- The lengths of the codes of `count` symbols. They end when the code space is used up; where
they take too much of it, that shows only once all are read. -/
def codeLengths (code : PrefixCode) (count : Nat) : BitFlow (List Nat) :=
  Flow.repeatFor (fun l => do
    if l.space = 0 || l.found.size = count then return .inr l
    else
      let l ← match ← code.read with
        | 16 => do pure (l.repeatLength l.last (← BitFlow.bits 2) 2)
        | 17 => do pure (l.repeatLength 0 (← BitFlow.bits 3) 3)
        | length => pure (l.add length 1)
      if count < l.found.size then BitFlow.fail "too many lengths" else return .inl l)
    (BitFlow.fail "lengths without end") (count + 1) ({} : Lengths) >>= fun l =>
  if l.space ≠ 0 then BitFlow.fail "code space not used up" else return l.found.toList

/-- The code of an alphabet of `count` symbols, of which only those below `limit` may occur. -/
def readCodeBelow (count limit : Nat) : BitFlow PrefixCode := do
  match ← BitFlow.bits 2 with
  | 1 => simpleCode count limit
  | skipped => return .ofLengths (← codeLengths (← lengthCode skipped) limit)

def readCode (count : Nat) : BitFlow PrefixCode := readCodeBelow count count

end StreamCodec.Format.Brotli
